import ResourceEditor.Json.Writer
import ResourceEditor.Yaml.Scalar
/-
This file writes documents as YAML. Members stand on lines of their own, set in by two blanks a
level; elements of arrays stand after dashes.
-/

namespace ResourceEditor.Yaml

mutual

/-- A value that begins right here, in a column of its own, with the line end after it. -/
def blockAt (column : Nat) : Json → List Char
  | .array (first :: rest) => elementsAt column (first :: rest)
  | .object (first :: rest) => membersAt column (first :: rest)
  | .array [] => ['[', ']', '\n']
  | .object [] => ['\x7b', '\x7d', '\n']
  | .string text => scalarText column text
  | .number value => value.text.toList ++ ['\n']
  | .bool value => (if value then "true" else "false").toList ++ ['\n']
  | .null => "null".toList ++ ['\n']

def elementsAt (column : Nat) : List Json → List Char
  | [] => []
  | [element] => ['-', ' '] ++ blockAt (column + 2) element
  | element :: rest =>
      ['-', ' '] ++ blockAt (column + 2) element ++ margin column ++ elementsAt column rest

/-- The value after the colon of its name. -/
def afterColon (column : Nat) : Json → List Char
  | .array (first :: rest) => ['\n'] ++ margin column ++ elementsAt column (first :: rest)
  | .object (first :: rest) =>
      ['\n'] ++ margin (column + 2) ++ membersAt (column + 2) (first :: rest)
  | value => ' ' :: blockAt (column + 2) value

/-- A member; a name that is long or has several lines stands after a question mark. -/
def memberAt (column : Nat) : String × Json → List Char
  | (name, value) =>
      if isShortName name then nameText name ++ ':' :: afterColon column value
      else
        ['?', ' '] ++ scalarText (column + 2) name ++ margin column ++ [':', ' '] ++
          blockAt (column + 2) value

def membersAt (column : Nat) : List (String × Json) → List Char
  | [] => []
  | [member] => memberAt column member
  | member :: rest => memberAt column member ++ margin column ++ membersAt column rest

end

/-- The document with a line end after it. -/
def write (json : Json) : String := String.ofList (blockAt 0 json)

end ResourceEditor.Yaml
