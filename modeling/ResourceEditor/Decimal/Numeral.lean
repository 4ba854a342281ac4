import ResourceEditor.Decimal.Binary64
/-
This file reads the texts of integers and of decimal numerals.
-/

namespace ResourceEditor.Decimal

def isDigit (c : Char) : Bool := '0' ≤ c && c ≤ '9'

def digitValue (c : Char) : Nat := c.toNat - '0'.toNat

theorem isDigit_eq (c : Char) : isDigit c = c.isDigit := by
  simp [isDigit, Char.isDigit, Char.le_def]

/-- The number that a list of decimal digits denotes. -/
def ofDigits (digits : List Char) : Nat :=
  digits.foldl (fun value digit => 10 * value + digitValue digit) 0

theorem ofDigits_toDigits (n : Nat) : ofDigits (Nat.toDigits 10 n) = n :=
  Nat.ofDigitChars_ten_toDigits

/-- Whether a sign comes first and is a minus, and the text after the sign. -/
def splitSign : List Char → Bool × List Char
  | '-' :: rest => (true, rest)
  | '+' :: rest => (false, rest)
  | rest => (false, rest)

/-- Reads one or more digits and nothing else. -/
def readDigits (text : List Char) : Option Nat :=
  if text.isEmpty || !text.all isDigit then none else some (ofDigits text)

/-- Reads an optional plus sign and digits. -/
def readNat : List Char → Option Nat
  | '+' :: rest => readDigits rest
  | text => readDigits text

/-- Reads an optional sign and digits. -/
def readInt (text : List Char) : Option Int :=
  let (negative, rest) := splitSign text
  (readDigits rest).map fun n => if negative then -(n : Int) else (n : Int)

/-- Reads digits as a natural number up to a bound. -/
def readNatUpTo (bound : Nat) (text : List Char) : Option Nat :=
  (readNat text).filter (· ≤ bound)

/-- The numeral `± digits · 10 ^ scale`. -/
structure Numeral where
  negative : Bool
  digits : Nat
  scale : Int
deriving Repr, DecidableEq

/-- Reads the part of a numeral after its digits: nothing, or a mark, a sign and digits. -/
def readExponent : List Char → Option Int
  | [] => some 0
  | c :: rest => if c == 'e' || c == 'E' then readInt rest else none

/-- Reads an optional sign, digits with at most one point among or beside them, and an optional
exponent. -/
def readNumeral (text : List Char) : Option Numeral :=
  let (negative, rest) := splitSign text
  let (whole, rest) := rest.span isDigit
  let (fraction, rest) :=
    match rest with
    | '.' :: rest => rest.span isDigit
    | rest => ([], rest)
  if whole.isEmpty && fraction.isEmpty then none
  else
    (readExponent rest).map fun exponent =>
      ⟨negative, ofDigits (whole ++ fraction), exponent - fraction.length⟩

/-- The number of decimal digits of a natural number, where zero has none. -/
def digitCount (n : Nat) : Nat :=
  if n = 0 then 0 else (Nat.toDigits 10 n).length

/-- The double nearest to a numeral; none when it is too large. Numerals far outside the range are
settled by their number of digits, without building the power of ten. -/
def Numeral.nearest (numeral : Numeral) : Option Binary64 :=
  let size : Int := digitCount numeral.digits + numeral.scale
  if numeral.digits = 0 || size < -330 then some ⟨numeral.negative, 0, leastExponent⟩
  else if 320 < size then none
  else
    match numeral.scale with
    | .ofNat n => Decimal.nearest numeral.negative (numeral.digits * Nat.pow 10 n) 1
    | .negSucc n => Decimal.nearest numeral.negative numeral.digits (Nat.pow 10 (n + 1))

end ResourceEditor.Decimal
