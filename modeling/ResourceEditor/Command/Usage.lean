import ResourceEditor.Members
/-
This file holds what a command line can look like and the ways in which one can be wrong.
-/

namespace ResourceEditor

/-- Why a command line names no command to run: the user asks about the commands, or made a
mistake. -/
inductive UsageError where
  | help
  | version
  | unknownArgument (text : String)
  | unknownCommand (text : String)
  | unexpectedValue (flag : String)
  | missingValue (flag : String)
  | invalidValue (flag value : String)
  | repeated (flag : String)
  | missingArgument (name : String)
  | missingCommand
deriving Repr, DecidableEq

namespace UsageError

def exitCode : UsageError → Nat
  | .help => 0
  | .version => 0
  | _ => 2

def message : UsageError → String
  | .help => "Usage: edgeform [OPTIONS] <COMMAND>"
  | .version => "edgeform 0.1.0"
  | .unknownArgument text => "unexpected argument '" ++ text ++ "'"
  | .unknownCommand text => "unrecognized subcommand '" ++ text ++ "'"
  | .unexpectedValue flag => "no value is expected for '--" ++ flag ++ "'"
  | .missingValue flag => "a value is required for '--" ++ flag ++ "'"
  | .invalidValue flag value => "invalid value '" ++ value ++ "' for '--" ++ flag ++ "'"
  | .repeated flag => "'--" ++ flag ++ "' cannot be used multiple times"
  | .missingArgument name => "required but not provided: " ++ name
  | .missingCommand => "a subcommand is required"

end UsageError

/-- Whether a flag takes values, and whether it can be given more than once. -/
inductive FlagKind where
  | switch
  | counter
  | value
  | values
deriving Repr, DecidableEq

def FlagKind.takesValue : FlagKind → Bool
  | .switch => false
  | .counter => false
  | .value => true
  | .values => true

def FlagKind.isRepeatable : FlagKind → Bool
  | .switch => false
  | .counter => true
  | .value => false
  | .values => true

/-- A flag by its long name. A flag that is not given can take its value from a variable of the
environment. -/
structure Flag where
  name : String
  short : Option Char := none
  kind : FlagKind := .value
  accepts : String → Bool := fun _ => true
  exported : Option String := none

namespace Flag

def switch (name : String) (short : Option Char) : Flag :=
  { name, short, kind := .switch, accepts := fun text => text == "true" || text == "false" }

def ofValue (name : String) (short : Option Char) : Flag := { name, short }

def ofValues (name : String) (short : Option Char) : Flag := { name, short, kind := .values }

/-- The flag falls back on a variable of the environment. -/
def orVariable (flag : Flag) (variableName : String) : Flag :=
  { flag with exported := some variableName }

/-- The flag takes only some values. -/
def only (flag : Flag) (accepts : String → Bool) : Flag := { flag with accepts }

end Flag

/-- What was given on a command line: names of flags and arguments with their texts, in order. -/
abbrev Given := List (String × String)

/-- What follows the name of a program or of a command: commands to choose from, or the flags and
arguments of a command that stands for itself. -/
inductive CommandTree (α : Type) where
  | action (flags : List Flag) (arguments required : List String) (result : Given → α)
  | group (flags : List Flag) (commands : List (List String × CommandTree α))

namespace CommandTree

variable {α : Type}

def flags : CommandTree α → List Flag
  | .action flags _ _ _ => flags
  | .group flags _ => flags

def arguments : CommandTree α → List String
  | .action _ arguments _ _ => arguments
  | .group _ _ => []

def isGroup : CommandTree α → Bool
  | .action _ _ _ _ => false
  | .group _ _ => true

/-- The command of a name or of another name for it. -/
def command? : CommandTree α → String → Option (CommandTree α)
  | .action _ _ _ _, _ => none
  | .group _ commands, name =>
      (commands.find? fun (names, _) => names.contains name).map Prod.snd

def long? (tree : CommandTree α) (name : String) : Option Flag :=
  tree.flags.find? fun flag => flag.name == name

def short? (tree : CommandTree α) (c : Char) : Option Flag :=
  tree.flags.find? fun flag => flag.short == some c

end CommandTree

end ResourceEditor
