import ResourceEditor.Command.Basic
import ResourceEditor.Command.Reading
/-
This file holds the command line of the editor: its commands, their flags and their arguments.
-/

namespace ResourceEditor

/-- Seconds are counted in 64 bits. -/
def readSeconds (text : String) : Option Nat :=
  Decimal.readNatUpTo (Decimal.wordLimit - 1) text.toList

namespace Flag

def profile : Flag := (ofValue "profile" (some 'p')).orVariable "EDGEFORM_PROFILE"

def controller : Flag := (ofValue "controller" (some 'c')).orVariable "EDGEFORM_CONTROLLER"

def token : Flag := (ofValue "token" none).orVariable "EDGEFORM_TOKEN"

def output : Flag :=
  ((ofValue "output" (some 'o')).orVariable "EDGEFORM_OUTPUT").only fun text =>
    (OutputFormat.ofName? text).isSome

def color : Flag := (ofValue "color" none).only fun text => (ColorMode.ofName? text).isSome

/-- Asks for more of a log, which the editor does not keep. -/
def verbose : Flag := { name := "verbose", short := some 'v', kind := .counter }

def quiet : Flag := switch "quiet" (some 'q')

def insecure : Flag := (switch "insecure" (some 'k')).orVariable "EDGEFORM_INSECURE"

def timeout : Flag :=
  ((ofValue "timeout" none).orVariable "EDGEFORM_TIMEOUT").only fun text =>
    (readSeconds text).isSome

/-- Flags that are understood wherever a command line can have flags. -/
def everywhere : List Flag :=
  [profile, controller, token, output, color, verbose, quiet, insecure, timeout]

def fromFile : Flag := (ofValue "from-file" (some 'F')).only fun path => !path.isEmpty

def assignment : Flag := ofValues "set" (some 's')

def dryRun : Flag := switch "dry-run" none

def forEdits : List Flag := [fromFile, assignment, dryRun]

/-- Flags for fields of an app, with the names of the fields, in the order in which they are set. -/
def appFields : List (String × String) :=
  [("name", "name"), ("type", "type"), ("app-version", "version"), ("vendor", "vendor"),
    ("description", "description"), ("cores", "cores"), ("memory", "memory"),
    ("source", "source")]

def forApps : List Flag :=
  appFields.map (fun (name, _) => ofValue name none) ++
    [ofValues "port" none, ofValues "feature" none]

def forLogins : List Flag :=
  [ofValue "username" (some 'u'), (ofValue "password" none).orVariable "EDGEFORM_PASSWORD"]

/-- A profile that is set up names its controller in a way of its own. -/
def forProfiles : List Flag :=
  everywhere.filter (·.name != "controller") ++
    [ofValue "url" none, ofValue "username" none, switch "set-default" none]

end Flag

def GlobalOptions.ofGiven (given : Given) : GlobalOptions where
  profile := given.last? "profile"
  controller := given.last? "controller"
  token := given.last? "token"
  output := ((given.last? "output").bind OutputFormat.ofName?).getD .table
  color := ((given.last? "color").bind ColorMode.ofName?).getD .auto
  quiet := given.isOn "quiet"
  insecure := given.isOn "insecure"
  timeout := (given.last? "timeout").bind readSeconds

def EditOptions.ofGiven (given : Given) : EditOptions where
  fromFile := given.last? "from-file"
  assignments := given.every "set"
  dryRun := given.isOn "dry-run"

def AppOptions.ofGiven (given : Given) : AppOptions where
  fields := Flag.appFields.filterMap fun (flag, field) => (given.last? flag).map (field, ·)
  ports := given.every "port"
  features := given.every "feature"
  edit := .ofGiven given

namespace Given

/-- An argument, which is there once the command line has been read. -/
def argument (given : Given) (name : String) : String := (given.last? name).getD ""

end Given

namespace Command

/-- A command with flags of its own and arguments, all of which have to be given. -/
def leaf (flags : List Flag) (arguments : List String) (result : Given → Command)
    (required : List String := []) : CommandTree Invocation :=
  .action (Flag.everywhere ++ flags) arguments required fun given =>
    ⟨.ofGiven given, result given⟩

def group (commands : List (List String × CommandTree Invocation)) : CommandTree Invocation :=
  .group Flag.everywhere commands

def showLeaf (resource : Resource) : List String × CommandTree Invocation :=
  (["show", "get"], leaf [] ["ID"] fun given => .showResource resource (given.argument "ID"))

def updateLeaf (resource : Resource) : List String × CommandTree Invocation :=
  (["update"],
    leaf Flag.forEdits ["ID"] fun given =>
      .updateResource resource (given.argument "ID") (.ofGiven given))

def schemaCommands : CommandTree Invocation :=
  group
    [(["list", "ls"], leaf [] [] fun _ => .listSchemas),
      (["show"], leaf [] ["RESOURCE"] fun given => .showSchema (given.argument "RESOURCE"))]

def appCommands : CommandTree Invocation :=
  group
    [(["create"],
        leaf (Flag.forApps ++ Flag.forEdits) [] fun given => .createApp (.ofGiven given)),
      showLeaf .app, updateLeaf .app]

def policyCommands : CommandTree Invocation :=
  group
    [(["create"], leaf Flag.forEdits [] fun given => .createPolicy (.ofGiven given)),
      showLeaf .trafficPolicy, updateLeaf .trafficPolicy]

def nodeCommands : CommandTree Invocation :=
  group
    [(["list", "ls"], leaf [] [] fun _ => .listNodes), showLeaf .node, updateLeaf .node,
      (["policy"],
        leaf [] ["NODE", "INTERFACE"] fun given =>
          .showInterfacePolicy (given.argument "NODE") (given.argument "INTERFACE"))]

/-- A profile is set up with the controller that it is given or that the command line names. -/
def initLeaf : List String × CommandTree Invocation :=
  (["init"],
    .action Flag.forProfiles [] [] fun given =>
      ⟨.ofGiven given,
        .initConfig ((given.last? "url").or (given.last? "controller")) (given.last? "username")
          (given.isOn "set-default")⟩)

def configCommands : CommandTree Invocation :=
  group
    [initLeaf, (["show"], leaf [] [] fun _ => .showConfig),
      (["path"], leaf [] [] fun _ => .showConfigPath)]

def validateLeaf : List String × CommandTree Invocation :=
  (["validate"],
    leaf [Flag.fromFile] ["RESOURCE"]
      (fun given => .validate (given.argument "RESOURCE") (given.argument "from-file"))
      ["from-file"])

def loginLeaf : List String × CommandTree Invocation :=
  (["login"],
    leaf Flag.forLogins [] fun given => .login (given.last? "username") (given.last? "password"))

/-- All commands. -/
def tree : CommandTree Invocation :=
  group
    [(["schema"], schemaCommands), validateLeaf, (["apps", "app"], appCommands),
      (["policies", "tp"], policyCommands), (["nodes", "node"], nodeCommands), loginLeaf,
      (["logout"], leaf [] [] fun _ => .logout), (["config"], configCommands)]

end Command

/-- Reads a command line, whose flags can take values from variables of the environment. -/
def Invocation.read (environment : Environment) (arguments : List String) :
    Except UsageError Invocation :=
  Command.tree.read environment arguments

end ResourceEditor
