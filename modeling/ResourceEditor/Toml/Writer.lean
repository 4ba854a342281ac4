import ResourceEditor.Text.Encoding
import ResourceEditor.Toml.Basic
/-
This file writes TOML documents. Texts are put between the quotes that need the fewest escapes.
-/

namespace ResourceEditor.Toml

/-- The length of the longest run of a character. -/
def longestRun (mark : Char) (text : List Char) : Nat :=
  (text.foldl (fun (longest, current) c =>
    if c == mark then (max longest (current + 1), current + 1) else (longest, 0)) (0, 0)).1

def isControl (c : Char) : Bool := c.toNat ≤ 0x1F || c.toNat == 0x7F

/-- Whether only an escape can show the character. -/
def needsEscape (c : Char) : Bool := isControl c && c != '\t' && c != '\n'

/-- A character by its escape letter or its code point. -/
def escapeChar (c : Char) : List Char :=
  match c with
  | '\x08' => ['\\', 'b']
  | '\t' => ['\\', 't']
  | '\n' => ['\\', 'n']
  | '\x0c' => ['\\', 'f']
  | '\r' => ['\\', 'r']
  | '"' => ['\\', '"']
  | '\\' => ['\\', '\\']
  | c =>
      if isControl c then
        ['\\', 'u', '0', '0', Text.upperHexDigit (c.toNat / 16), Text.upperHexDigit (c.toNat % 16)]
      else [c]

/-- The text between double quotes. -/
def shortEscaped (text : List Char) : List Char := text.flatMap escapeChar

/-- The text between three double quotes, where line ends and up to two quotes in a row are shown
as they are. -/
def longEscaped : Nat → List Char → List Char
  | _, [] => []
  | quotes, c :: rest =>
      if c == '"' then
        if quotes < 2 then c :: longEscaped (quotes + 1) rest
        else escapeChar c ++ longEscaped 0 rest
      else if c == '\n' then c :: longEscaped 0 rest
      else escapeChar c ++ longEscaped 0 rest

/-- The ways to quote a text. -/
inductive Quoting where
  | escaped
  | plain
  | longEscaped
  | longPlain
deriving Repr, DecidableEq

/-- The first way that shows every character as it is; otherwise escapes are needed. -/
def quotingOf (text : List Char) : Quoting :=
  let hidden := text.any needsEscape
  let backslash := text.contains '\\'
  let lines := text.contains '\n'
  if !hidden && !backslash && !lines && !text.contains '"' then .escaped
  else if !hidden && !lines && !text.contains '\x27' then .plain
  else if !hidden && !backslash && longestRun '"' text ≤ 2 then .longEscaped
  else if !hidden && longestRun '\x27' text ≤ 2 then .longPlain
  else if lines then .longEscaped
  else .escaped

/-- A text with line ends begins on a line of its own. -/
def quoteLong (mark : Char) (text written : List Char) : List Char :=
  let marks := List.replicate 3 mark
  marks ++ (if text.contains '\n' then ['\n'] else []) ++ written ++ marks

def quote (text : String) : String :=
  let text := text.toList
  String.ofList
    (match quotingOf text with
    | .escaped => ['"'] ++ shortEscaped text ++ ['"']
    | .plain => ['\x27'] ++ text ++ ['\x27']
    | .longEscaped => quoteLong '"' text (longEscaped 0 text)
    | .longPlain => quoteLong '\x27' text text)

/-- A name stands without quotes if it consists of letters, digits and a few signs. -/
def nameText (name : String) : String :=
  let text := name.toList
  if !text.isEmpty && text.all isBareChar then name
  else if !text.any (fun c => needsEscape c || c == '\n' || c == '\\' || c == '"') then
    "\"" ++ String.ofList (shortEscaped text) ++ "\""
  else if !text.any (fun c => needsEscape c || c == '\n' || c == '\x27') then
    "'" ++ name ++ "'"
  else "\"" ++ String.ofList (shortEscaped text) ++ "\""

def pathText (path : List String) : String := ".".intercalate (path.map nameText)

mutual

def valueText : Toml → String
  | .string text => quote text
  | .integer value => toString value
  | .float numeral => numeral
  | .bool value => if value then "true" else "false"
  | .date text => text
  | .array elements => "[" ++ ", ".intercalate (elementTexts elements) ++ "]"
  | .table [] => "\x7b\x7d"
  | .table members => "\x7b " ++ ", ".intercalate (memberTexts members) ++ " \x7d"

def elementTexts : List Toml → List String
  | [] => []
  | element :: rest => valueText element :: elementTexts rest

def memberTexts : List (String × Toml) → List String
  | [] => []
  | (name, value) :: rest => (nameText name ++ " = " ++ valueText value) :: memberTexts rest

end

def Statement.text : Statement → String
  | .table path => "[" ++ pathText path ++ "]\n"
  | .element path => "[[" ++ pathText path ++ "]]\n"
  | .pair path value => pathText path ++ " = " ++ valueText value ++ "\n"

def Statement.isHeader : Statement → Bool
  | .pair _ _ => false
  | _ => true

/-- The statements line by line, with a blank line before every header but a first one. -/
def writeStatements : List Statement → String
  | [] => ""
  | first :: rest =>
      first.text ++
        String.join (rest.map fun statement =>
          (if statement.isHeader then "\n" else "") ++ statement.text)

end ResourceEditor.Toml
