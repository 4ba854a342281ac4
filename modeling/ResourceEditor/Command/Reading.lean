import ResourceEditor.Command.Usage
import ResourceEditor.Config.Variable
/-
This file reads command lines from left to right. The value of a flag is looked at when the next
argument is taken up; that of the last flag before a command comes after the command's own
arguments.
-/

namespace ResourceEditor

/-- What has been read at one level of a command line. A flag can still wait for its value, and a
value for being looked at. -/
structure Reading where
  given : Given := []
  waiting : Option Flag := none
  unseen : Option (Flag × String) := none

namespace Reading

/-- Takes up a value of a flag. -/
def takeUp (reading : Reading) (flag : Flag) (value : String) : Except UsageError Reading :=
  if !flag.accepts value then .error (.invalidValue flag.name value)
  else if !flag.kind.isRepeatable && Members.has reading.given flag.name then
    .error (.repeated flag.name)
  else .ok { reading with given := reading.given ++ [(flag.name, value)] }

/-- Leaves no value behind that was not looked at. -/
def settle (reading : Reading) : Except UsageError Reading :=
  match reading.waiting, reading.unseen with
  | some flag, _ => .error (.missingValue flag.name)
  | none, some (flag, value) => takeUp { reading with unseen := none } flag value
  | none, none => .ok reading

def isHelp (c : Char) : Bool := c == 'h'

def isVersion (c : Char) : Bool := c == 'V'

/-- Whether an argument is read as flags. A single hyphen is a text like others. -/
def isFlags (argument : String) : Bool := argument.startsWith "-" && argument != "-"

variable {α : Type}

/-- Takes up a flag by its long name, perhaps with a value after an equality sign. -/
def readLong (tree : CommandTree α) (reading : Reading) (text : String) :
    Except UsageError Reading := do
  let (name, value) :=
    match Text.splitOnce '=' text with
    | some (name, value) => (name, some value)
    | none => (text, none)
  let reading ← reading.settle
  match tree.long? name, value with
  | some flag, some value =>
      if flag.kind.takesValue then reading.takeUp flag value else throw (.unexpectedValue name)
  | some flag, none =>
      if flag.kind.takesValue then return { reading with waiting := some flag }
      else reading.takeUp flag "true"
  | none, some _ =>
      throw (if name == "help" || name == "version" then .unexpectedValue name
        else .unknownArgument name)
  | none, none =>
      throw (if name == "help" then .help else if name == "version" then .version
        else .unknownArgument name)

/-- Takes up flags by their letters; the rest after one that takes a value is its value. -/
def readShort (tree : CommandTree α) (reading : Reading) : List Char → Except UsageError Reading
  | [] => .ok reading
  | c :: rest => do
      let reading ← reading.settle
      match tree.short? c with
      | none =>
          throw (if isHelp c then .help else if isVersion c then .version
            else .unknownArgument (String.ofList ['-', c]))
      | some flag =>
          if flag.kind.takesValue then
            match rest with
            | [] => return { reading with waiting := some flag }
            | '=' :: value => reading.takeUp flag (String.ofList value)
            | value => reading.takeUp flag (String.ofList value)
          else
            let reading ← reading.takeUp flag "true"
            readShort tree reading rest

/-- Takes up an argument of a command. -/
def readArgument (tree : CommandTree α) (reading : Reading) (text : String) :
    Except UsageError Reading := do
  let reading ← reading.settle
  match tree.arguments.find? fun name => !Members.has reading.given name with
  | some name => return { reading with given := reading.given ++ [(name, text)] }
  | none => throw (if tree.isGroup then .unknownCommand text else .unknownArgument text)

/-- What comes of asking for help about a command by its names. -/
def readHelp (tree : CommandTree α) : List String → UsageError
  | [] => .help
  | name :: rest =>
      match tree.command? name with
      | some below => readHelp below rest
      | none =>
          if tree.isGroup && name == "help" then
            match rest with
            | [] => .help
            | other :: _ => .unknownCommand other
          else .unknownCommand name

end Reading

namespace CommandTree

variable {α : Type}

/-- Reads a command line from a level of the tree on. The first argument tells whether flags have
been ruled out by two hyphens. The result holds every level that was reached. -/
def readFrom (plain : Bool) (tree : CommandTree α) (reading : Reading) :
    List String → Except UsageError (List (CommandTree α × Given))
  | [] => do
      let last ← reading.settle
      return [(tree, last.given)]
  | argument :: rest =>
      match reading.waiting with
      | some flag =>
          if Reading.isFlags argument then .error (.missingValue flag.name)
          else
            readFrom plain tree
              { reading with waiting := none, unseen := some (flag, argument) } rest
      | none =>
          if plain then do readFrom plain tree (← reading.readArgument tree argument) rest
          else if argument == "--" then readFrom true tree reading rest
          else if argument.startsWith "--" then do
            readFrom plain tree (← reading.readLong tree (argument.drop 2).toString) rest
          else if Reading.isFlags argument then do
            readFrom plain tree (← reading.readShort tree (argument.toList.drop 1)) rest
          else
            match tree.command? argument with
            | some below => do
                let levels ← readFrom false below {} rest
                let last ← reading.settle
                return (tree, last.given) :: levels
            | none =>
                if tree.isGroup && argument == "help" then .error (Reading.readHelp tree rest)
                else do readFrom plain tree (← reading.readArgument tree argument) rest

/-- The value that a flag takes from the environment when it is not given. -/
def exported (environment : Environment) (given : Given) (flag : Flag) : Option String :=
  if Members.has given flag.name then none else flag.exported.bind environment.get?

/-- Checks the values that the flags of a level take from the environment. -/
def checkExported (environment : Environment) (given : Given) (flags : List Flag) :
    Except UsageError Unit :=
  flags.forM fun flag =>
    match exported environment given flag with
    | some value =>
        if flag.accepts value then .ok () else .error (.invalidValue flag.name value)
    | none => .ok ()

/-- What the command at the end of a command line comes to. -/
def finish (tree : CommandTree α) (given all : Given) : Except UsageError α :=
  match tree with
  | .group _ _ => .error .missingCommand
  | .action _ arguments required result =>
      match (arguments ++ required).find? fun name => !Members.has given name with
      | some name => .error (.missingArgument name)
      | none => .ok (result all)

/-- The values from the environment for flags that are given at no level. -/
def fallbacks (environment : Environment) (levels : List (CommandTree α × Given)) : Given :=
  let given := levels.flatMap Prod.snd
  levels.flatMap fun (tree, _) =>
    tree.flags.filterMap fun flag => (exported environment given flag).map (flag.name, ·)

/-- Reads a command line. A flag given at many levels counts where it was given last. -/
def read (tree : CommandTree α) (environment : Environment) (arguments : List String) :
    Except UsageError α := do
  let levels ← readFrom false tree {} arguments
  levels.forM fun (level, given) => checkExported environment given level.flags
  match levels.getLast? with
  | some (last, given) =>
      finish last given (fallbacks environment levels ++ levels.flatMap Prod.snd)
  | none => throw .missingCommand

end CommandTree

namespace Given

/-- The text given last under a name. -/
def last? (given : Given) (name : String) : Option String := given.reverse.lookup name

def every (given : Given) (name : String) : List String :=
  given.filterMap fun (other, text) => if other == name then some text else none

/-- Whether a switch is on. -/
def isOn (given : Given) (name : String) : Bool := given.last? name == some "true"

end Given

end ResourceEditor
