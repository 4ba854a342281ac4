import ResourceEditor.Command.Basic
import ResourceEditor.Command.Error
import ResourceEditor.Command.Status
import ResourceEditor.Config.Document
import ResourceEditor.Config.Keyring
import ResourceEditor.Config.Trust
import ResourceEditor.Controller.Exchange
import ResourceEditor.Edit.Normalize
/-
This file holds what commands are made of: reading their setting, printing, and failing. What a
command has done before it fails stays done.
-/

namespace ResourceEditor

/-- What a command finds and leaves as it is. -/
structure Setting (m : Type → Type) where
  options : GlobalOptions
  environment : Environment
  configPath : String
  contentOf : String → m (Except FileFault String)
  carrier : Carrier m

/-- What a command can change: the document of the configuration, if there is one, the keyring, and
what has been printed. -/
structure Progress where
  document : Option String := none
  keyring : Keyring := none
  output : String := ""
  messages : String := ""

abbrev Action (m : Type → Type) (α : Type) :=
  ReaderT (Setting m) (ExceptT CommandError (StateT Progress m)) α

namespace Action

variable {m : Type → Type} [Monad m]

def options : Action m GlobalOptions := do return (← read).options

/-- The failure of a step under the name that commands have for it. -/
def orFail {ε α : Type} (toError : ε → CommandError) (result : Except ε α) : Action m α :=
  match result with
  | .ok value => pure value
  | .error error => throw (toError error)

/-- Asks the controller. -/
def ask {α : Type} (question : Carrier m → m α) : Action m α := do
  question (← read).carrier

/-- Prints a text, unless it is empty, and ends the line. -/
def printAlways (text : String) : Action m Unit := do
  if !text.isEmpty then
    modify fun progress => { progress with output := progress.output ++ text ++ "\n" }

/-- Prints a text unless the user wants quiet. -/
def print (text : String) : Action m Unit := do
  if !(← options).quiet then printAlways text

/-- Shows something in the format that the user has chosen. -/
def present (view : View) : Action m Unit := do
  print (view.render (← options).output)

/-- Tells the user something beside the output, unless the user wants quiet. -/
def tell (line : String) : Action m Unit := do
  if !(← options).quiet then
    modify fun progress => { progress with messages := progress.messages ++ line ++ "\n" }

/-- Messages are no output to a terminal, so they have colors only where the user asks for them. -/
def usesColor (options : GlobalOptions) : Bool := options.color == .always

def tellSuccess (message : String) : Action m Unit := do
  tell (statusLine true message (usesColor (← options)))

/-- The configuration, where one that cannot be read counts as none. -/
def config : Action m Config := do
  return Config.loadOrDefault (← get).document (← read).environment

/-- The document in a file. -/
def readDocument (path : String) : Action m Json := do
  let content ← orFail (fun fault => .io fault.message) (← (← read).contentOf path)
  match Json.parse? content with
  | some json => return json
  | none => throw (.badValue "from-file" ("invalid JSON in " ++ path))

/-- The form of a resource in a document. -/
def readForm (schema : Schema) (json : Json) : Action m Record :=
  orFail (fun kind => .ofEditorError (.notObject kind)) (Record.ofResource schema json)

/-- Prints every violation, even when the user wants quiet, and fails. -/
def failInvalid {α : Type} (resource : Resource) (violations : List Violation) : Action m α := do
  printAlways ((Violation.view violations).render (← options).output)
  throw (.invalid resource.schema.title violations.length)

end Action

end ResourceEditor
