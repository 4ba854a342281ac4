import ResourceEditor.Text.Graphic
import ResourceEditor.Value.Basic
/-
This file holds the reasons why a form does not fit what the controller takes.
-/

namespace ResourceEditor

/-- What a place of the wire layout takes. -/
inductive Wanted where
  | text
  | unsigned (bits : Nat)
  | choice
  | unit
  | sequence
  | record (name : String)
deriving Repr, DecidableEq

def Wanted.wording : Wanted → String
  | .text => "a string"
  | .unsigned bits => "u" ++ toString bits
  | .choice => "string or map"
  | .unit => "unit"
  | .sequence => "a sequence"
  | .record name => "struct " ++ name

inductive WireFault where
  | missing (name : String)
  | wrongKind (found : Value) (wanted : Wanted)
  | outOfRange (value : Int64) (bits : Nat)
  | unknownChoice (text : String) (choices : List String)
  | severalChoices
  | tooShort (position : Nat) (name : String) (fields : Nat)
  | tooLong (length : Nat)
deriving Repr

namespace WireFault

/-- How a value is called in messages. -/
def describe : Value → String
  | .text content => "string " ++ Text.quote content
  | .number (.int value) => "integer `" ++ toString value.toInt ++ "`"
  | .number .notANumber => "null"
  | .bool flag => "boolean `" ++ (if flag then "true" else "false") ++ "`"
  | .record _ => "map"
  | .list _ => "sequence"

def listChoices : List String → String
  | [] => "there are no variants"
  | [only] => "expected `" ++ only ++ "`"
  | [first, second] => "expected `" ++ first ++ "` or `" ++ second ++ "`"
  | choices =>
      "expected one of " ++ String.intercalate ", " (choices.map fun choice => "`" ++ choice ++ "`")

def message : WireFault → String
  | .missing name => "missing field `" ++ name ++ "`"
  | .wrongKind found wanted =>
      "invalid type: " ++ describe found ++ ", expected " ++ wanted.wording
  | .outOfRange value bits =>
      "invalid value: integer `" ++ toString value.toInt ++ "`, expected " ++
        (Wanted.unsigned bits).wording
  | .unknownChoice text choices =>
      "unknown variant `" ++ text ++ "`, " ++ listChoices choices
  | .severalChoices => "invalid value: map, expected map with a single key"
  | .tooShort position name fields =>
      "invalid length " ++ toString position ++ ", expected struct " ++ name ++ " with " ++
        toString fields ++ (if fields = 1 then " element" else " elements")
  | .tooLong length =>
      "invalid length " ++ toString length ++ ", expected fewer elements in array"

end WireFault

end ResourceEditor
