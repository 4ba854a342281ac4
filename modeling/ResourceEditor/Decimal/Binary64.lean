/-
This file holds the bounds of integers with a fixed count of bits, and the double-precision numbers
as exact dyadic fractions. It rounds a quotient of natural numbers to the nearest of these.
-/

namespace ResourceEditor.Decimal

/-- One above the largest integer of 64 bits, of which one is its sign. -/
def signedLimit : Nat := 0x8000000000000000

/-- One above the largest integer of 64 bits without a sign. -/
def wordLimit : Nat := 0x10000000000000000

/-- Whether an integer has 64 bits with its sign. -/
abbrev IsSigned (value : Int) : Prop := -0x8000000000000000 ≤ value ∧ value < 0x8000000000000000

/-- The finite number `± mantissa · 2 ^ exponent`. -/
structure Binary64 where
  negative : Bool
  mantissa : Nat
  exponent : Int
deriving Repr, DecidableEq, Inhabited

/-- The quotient rounded to the nearest natural number, where a tie goes to the even one. -/
def roundHalfEven (numerator denominator : Nat) : Nat :=
  let quotient := numerator / denominator
  let twice := 2 * (numerator % denominator)
  if twice < denominator then quotient
  else if denominator < twice then quotient + 1
  else if quotient % 2 = 0 then quotient
  else quotient + 1

/-- `numerator / (denominator · 2 ^ exponent)` as a quotient of natural numbers. -/
def scaleBy (exponent : Int) (numerator denominator : Nat) : Nat × Nat :=
  match exponent with
  | .ofNat n => (numerator, denominator * Nat.pow 2 n)
  | .negSucc n => (numerator * Nat.pow 2 (n + 1), denominator)

/-- The least exponent that a double has. -/
def leastExponent : Int := -1074

/-- The least mantissa that fills all its 53 bits. -/
def fullMantissa : Nat := 0x10000000000000

/-- The exponent at which the quotient has a mantissa of 53 bits, or the least exponent. -/
def exponentOf (numerator denominator : Nat) : Int :=
  let guess : Int := (Nat.log2 numerator : Int) - (Nat.log2 denominator : Int) - 52
  let (n, d) := scaleBy guess numerator denominator
  max leastExponent (if n < fullMantissa * d then guess - 1 else guess)

/-- The double nearest to a quotient, ties to the even mantissa; none when it is too large. -/
def nearest (negative : Bool) (numerator denominator : Nat) : Option Binary64 :=
  if numerator = 0 then some ⟨negative, 0, leastExponent⟩
  else
    let exponent := exponentOf numerator denominator
    let (n, d) := scaleBy exponent numerator denominator
    let mantissa := roundHalfEven n d
    let (mantissa, exponent) :=
      if mantissa = 2 * fullMantissa then (fullMantissa, exponent + 1) else (mantissa, exponent)
    if 971 < exponent then none else some ⟨negative, mantissa, exponent⟩

namespace Binary64

/-- The magnitude as a quotient of natural numbers. -/
def magnitude (x : Binary64) : Nat × Nat :=
  match x.exponent with
  | .ofNat n => (x.mantissa * Nat.pow 2 n, 1)
  | .negSucc n => (x.mantissa, Nat.pow 2 (n + 1))

/-- The number without its fraction part. -/
def truncate (x : Binary64) : Int :=
  let (n, d) := x.magnitude
  let whole : Int := (n / d : Nat)
  if x.negative then -whole else whole

def isZero (x : Binary64) : Bool := x.mantissa == 0

/-- The product, rounded. -/
def mul (x y : Binary64) : Option Binary64 :=
  let (a, b) := x.magnitude
  let (c, d) := y.magnitude
  nearest (x.negative != y.negative) (a * c) (b * d)

/-- The quotient by a number other than zero, rounded. -/
def div (x y : Binary64) : Option Binary64 :=
  let (a, b) := x.magnitude
  let (c, d) := y.magnitude
  nearest (x.negative != y.negative) (a * d) (b * c)

end Binary64

end ResourceEditor.Decimal
