import ResourceEditor.Decimal.Numeral
import ResourceEditor.Text.Blank
/-
This file holds the numbers of a form: integers of 64 bits, and the mark left by malformed input.
-/

namespace ResourceEditor

open Decimal

inductive Number where
  | int (value : Int64)
  | notANumber
deriving Repr, DecidableEq, Inhabited

namespace Number

/-- An integer outside of 64 bits is not a number of the form. -/
def ofInt (value : Int) : Number :=
  if IsSigned value then .int (Int64.ofInt value) else .notANumber

/-- A double loses its fraction part. -/
def ofBinary64 (value : Binary64) : Number := ofInt value.truncate

def int? : Number → Option Int64
  | .int value => some value
  | .notANumber => none

def isNaN : Number → Bool
  | .int _ => false
  | .notANumber => true

/-- The integer that a text writes out, if it has 64 bits. -/
def readExact (text : List Char) : Option Int64 :=
  ((readInt text).filter fun value => IsSigned value).map Int64.ofInt

/-- Reads what a user typed: the text is trimmed, an integer of 64 bits is taken exactly, any other
numeral through the nearest double, and the rest is not a number. -/
def coerce (raw : String) : Number :=
  let text := Text.trimChars raw.toList
  match readExact text with
  | some value => .int value
  | none =>
      match (readNumeral text).bind Numeral.nearest with
      | some value => ofBinary64 value
      | none => .notANumber

end Number

end ResourceEditor
