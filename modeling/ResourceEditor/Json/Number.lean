import ResourceEditor.Decimal.Numeral
import ResourceEditor.Json.Basic
/-
This file reads the numbers of JSON documents. An integer of 64 bits is kept exactly; any other
number becomes a double, computed from the leading digits that fit into 64 bits and a power of ten.
-/

namespace ResourceEditor

open Decimal

namespace JsonNumber

/-- The leading digits that fit into 64 bits after those already read, and the other digits. -/
def takeDigits (significand : Nat) : List Char → Nat × List Char
  | [] => (significand, [])
  | digit :: rest =>
      let next := 10 * significand + digitValue digit
      if next < wordLimit then takeDigits next rest else (significand, digit :: rest)

/-- Divides by a power of ten, in steps that a double can hold. -/
def scaleDown : Nat → Binary64 → Nat → Option Binary64
  | 0, x, _ => some { x with mantissa := 0, exponent := leastExponent }
  | rounds + 1, x, power =>
      if x.isZero then some x
      else if power ≤ 308 then (nearest false (Nat.pow 10 power) 1).bind x.div
      else (nearest false (Nat.pow 10 308) 1).bind fun step =>
        (x.div step).bind fun smaller => scaleDown rounds smaller (power - 308)

/-- The double computed from a significand and a power of ten; none when it is too large. -/
def ofParts (negative : Bool) (significand : Nat) (power : Int) : Option Binary64 :=
  (nearest negative significand 1).bind fun x =>
    match power with
    | .ofNat n =>
        if x.isZero then some x
        else if n ≤ 308 then (nearest false (Nat.pow 10 n) 1).bind x.mul
        else none
    | .negSucc n => scaleDown 4 x (n + 1)

/-- A sign, digits and nothing else; none when the exponent is malformed. -/
def readPower (text : List Char) : Option Int :=
  let (negative, digits) := splitSign text
  (readDigits digits).map fun n => if negative then -(n : Int) else (n : Int)

/-- Beyond this power of ten the exponent alone settles the number. -/
def powerLimit : Int := 0x7FFFFFFF

/-- The double of a significand with a power of ten that comes from the digits and one that is
written out. -/
def ofExponent (negative : Bool) (significand : Nat) (shift written : Int) : Option Binary64 :=
  if powerLimit < written then
    if significand = 0 then nearest negative 0 1 else none
  else if written < -powerLimit then nearest negative 0 1
  else ofParts negative significand (shift + written)

/-- Splits off a fraction: a point and at least one digit. -/
def splitFraction : List Char → Option (List Char × List Char)
  | '.' :: rest =>
      let (digits, rest) := rest.span isDigit
      if digits.isEmpty then none else some (digits, rest)
  | rest => some ([], rest)

/-- Splits off an exponent, which ends the number. -/
def splitExponent : List Char → Option (Option Int)
  | [] => some none
  | c :: rest => if c == 'e' || c == 'E' then (readPower rest).map some else none

def integerOf (negative : Bool) (value : Nat) : JsonNumber :=
  if !negative then .integer value
  else if value = 0 || signedLimit < value then
    .float ((nearest true value 1).getD ⟨true, 0, leastExponent⟩)
  else .integer (-(value : Int))

/-- A number as it is written, with the power of ten that it names, if it names one. -/
structure Written where
  negative : Bool
  whole : List Char
  fraction : List Char
  power : Option Int
deriving Repr, DecidableEq

/-- Takes a number apart that fills the whole text. How large it is does not matter here. -/
def Written.ofChars? (text : List Char) : Option Written := do
  let (negative, rest) :=
    match text with
    | '-' :: rest => (true, rest)
    | rest => (false, rest)
  let (whole, rest) := rest.span isDigit
  if whole.isEmpty || (whole.head? = some '0' && 1 < whole.length) then none
  else
    let (fraction, rest) ← splitFraction rest
    let power ← splitExponent rest
    some ⟨negative, whole, fraction, power⟩

/-- The number that is written; none when it is too large for a double. -/
def Written.number? (written : Written) : Option JsonNumber :=
  let (significand, beyond) := takeDigits 0 written.whole
  if written.fraction.isEmpty && written.power.isNone && beyond.isEmpty then
    some (integerOf written.negative significand)
  else
    let (significand, ignored) := takeDigits significand written.fraction
    let shift : Int :=
      (beyond.length : Int) - ((written.fraction.length - ignored.length : Nat) : Int)
    (ofExponent written.negative significand shift (written.power.getD 0)).map .float

end JsonNumber

end ResourceEditor
