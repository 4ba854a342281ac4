import ResourceEditor.Decimal.Shortest
import ResourceEditor.Json.Basic
import ResourceEditor.Text.Encoding
/-
This file writes JSON texts, on one line or indented.
-/

namespace ResourceEditor

open Decimal

namespace JsonNumber

/-- The power of ten after a number, with a sign in either direction. -/
def exponentText (exponent : Int) : String :=
  "e" ++ (if exponent < 0 then "" else "+") ++ toString exponent

/-- A double is written without an exponent when the point falls from five places before the digits
to sixteen places after their first. -/
def floatText (x : Binary64) : String :=
  let sign := if x.negative then "-" else ""
  if x.isZero then sign ++ "0.0"
  else
    let shortest := x.shortest
    let digits := toString shortest.digits
    let point : Int := digits.length + shortest.scale
    let body :=
      if 0 ≤ shortest.scale && point ≤ 16 then
        digits ++ String.ofList (List.replicate shortest.scale.toNat '0') ++ ".0"
      else if 0 < point && point ≤ 16 then
        String.ofList (digits.toList.take point.toNat) ++ "." ++
          String.ofList (digits.toList.drop point.toNat)
      else if -5 < point && point ≤ 0 then
        "0." ++ String.ofList (List.replicate (-point).toNat '0') ++ digits
      else
        match digits.toList with
        | [digit] => String.ofList [digit] ++ exponentText (point - 1)
        | first :: rest => String.ofList (first :: '.' :: rest) ++ exponentText (point - 1)
        | [] => ""
    sign ++ body

def text : JsonNumber → String
  | .integer value => toString value
  | .float value => floatText value

end JsonNumber

namespace Json

def escapeChar (c : Char) : List Char :=
  match c with
  | '"' => ['\\', '"']
  | '\\' => ['\\', '\\']
  | '\x08' => ['\\', 'b']
  | '\x0c' => ['\\', 'f']
  | '\n' => ['\\', 'n']
  | '\r' => ['\\', 'r']
  | '\t' => ['\\', 't']
  | c =>
      if c.toNat < 0x20 then ['\\', 'u', '0', '0', Text.hexDigit (c.toNat / 16),
        Text.hexDigit (c.toNat % 16)]
      else [c]

/-- The text in quotes. -/
def quote (text : String) : String :=
  "\"" ++ String.ofList (text.toList.flatMap escapeChar) ++ "\""

mutual

/-- The document on one line without spaces. -/
def compact : Json → String
  | .null => "null"
  | .bool value => if value then "true" else "false"
  | .number value => value.text
  | .string text => quote text
  | .array elements => "[" ++ ",".intercalate (compactElements elements) ++ "]"
  | .object members => "\x7b" ++ ",".intercalate (compactMembers members) ++ "\x7d"

def compactElements : List Json → List String
  | [] => []
  | element :: rest => element.compact :: compactElements rest

def compactMembers : List (String × Json) → List String
  | [] => []
  | (name, value) :: rest => (quote name ++ ":" ++ value.compact) :: compactMembers rest

end

def newLine (depth : Nat) : String :=
  "\n" ++ String.ofList (List.replicate (2 * depth) ' ')

def block (depth : Nat) (first last : String) (parts : List String) : String :=
  first ++ newLine (depth + 1) ++ ("," ++ newLine (depth + 1)).intercalate parts ++
    newLine depth ++ last

mutual

/-- The document with one member or element a line, two spaces a level. -/
def prettyAt (depth : Nat) : Json → String
  | .array [] => "[]"
  | .array elements => block depth "[" "]" (prettyElements (depth + 1) elements)
  | .object [] => "\x7b\x7d"
  | .object members => block depth "\x7b" "\x7d" (prettyMembers (depth + 1) members)
  | .null => "null"
  | .bool value => if value then "true" else "false"
  | .number value => value.text
  | .string text => quote text

def prettyElements (depth : Nat) : List Json → List String
  | [] => []
  | element :: rest => prettyAt depth element :: prettyElements depth rest

def prettyMembers (depth : Nat) : List (String × Json) → List String
  | [] => []
  | (name, value) :: rest =>
      (quote name ++ ": " ++ prettyAt depth value) :: prettyMembers depth rest

end

def pretty (json : Json) : String := prettyAt 0 json

end Json

end ResourceEditor
