import ResourceEditor.Layout.View
/-
This file holds the commands of the editor and what users can say along with them.
-/

namespace ResourceEditor

inductive ColorMode where
  | auto
  | always
  | never
deriving Repr, DecidableEq

namespace ColorMode

def all : List ColorMode := [.auto, .always, .never]

def name : ColorMode → String
  | .auto => "auto"
  | .always => "always"
  | .never => "never"

def ofName? (text : String) : Option ColorMode := all.find? fun mode => mode.name == text

end ColorMode

/-- What can be said along with every command. -/
structure GlobalOptions where
  profile : Option String := none
  controller : Option String := none
  token : Option String := none
  output : OutputFormat := .table
  color : ColorMode := .auto
  quiet : Bool := false
  insecure : Bool := false
  timeout : Option Nat := none
deriving Repr, DecidableEq

/-- What a form starts from, how its fields are set, and whether it is sent at all. -/
structure EditOptions where
  fromFile : Option String := none
  assignments : List String := []
  dryRun : Bool := false
deriving Repr, DecidableEq

/-- What a new app is made of: texts for fields of its form, ports and features. -/
structure AppOptions where
  fields : List (String × String) := []
  ports : List String := []
  features : List String := []
  edit : EditOptions := {}
deriving Repr, DecidableEq

inductive Command where
  | listSchemas
  | showSchema (resource : String)
  | validate (resource file : String)
  | createApp (options : AppOptions)
  | createPolicy (edit : EditOptions)
  | showResource (resource : Resource) (id : String)
  | updateResource (resource : Resource) (id : String) (edit : EditOptions)
  | listNodes
  | showInterfacePolicy (node interface : String)
  | login (username password : Option String)
  | logout
  | initConfig (url username : Option String) (setDefault : Bool)
  | showConfig
  | showConfigPath
deriving Repr, DecidableEq

/-- A command with what was said along with it. -/
structure Invocation where
  options : GlobalOptions
  command : Command
deriving Repr, DecidableEq

end ResourceEditor
