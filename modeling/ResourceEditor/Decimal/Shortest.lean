import ResourceEditor.Decimal.Binary64
/-
This file finds the shortest decimal that reads back as a given double: of the decimals that round
to it, one with the fewest digits, and of those the nearest.
-/

namespace ResourceEditor.Decimal

/-- The decimal `digits · 10 ^ scale`. -/
structure Shortest where
  digits : Nat
  scale : Int
deriving Repr, DecidableEq

/-- The reals that round to a double, in quarters of the gap above it, and whether the ends belong
to them. -/
structure Interval where
  lower : Nat
  value : Nat
  upper : Nat
  denominator : Nat
  closed : Bool

def Binary64.interval (x : Binary64) : Interval :=
  let below := if x.mantissa = fullMantissa && leastExponent < x.exponent then 1 else 2
  let (n, d) := (⟨false, 1, x.exponent - 2⟩ : Binary64).magnitude
  ⟨(4 * x.mantissa - below) * n, 4 * x.mantissa * n, (4 * x.mantissa + 2) * n, d,
    x.mantissa % 2 = 0⟩

/-- Whether `digits · 10 ^ scale` lies in the interval. -/
def Interval.holds (interval : Interval) (digits : Nat) (scale : Int) : Bool :=
  let (n, d) :=
    match scale with
    | .ofNat k => (digits * Nat.pow 10 k, 1)
    | .negSucc k => (digits, Nat.pow 10 (k + 1))
  let point := n * interval.denominator
  if interval.closed then interval.lower * d ≤ point && point ≤ interval.upper * d
  else interval.lower * d < point && point < interval.upper * d

/-- The neighbours of the value on the grid of multiples of `10 ^ scale` that lie in the interval;
of two the nearer, and of two equally near the even one. -/
def Interval.onGrid (interval : Interval) (scale : Int) : Option Nat :=
  let (n, d) :=
    match scale with
    | .ofNat k => (interval.value, interval.denominator * Nat.pow 10 k)
    | .negSucc k => (interval.value * Nat.pow 10 (k + 1), interval.denominator)
  let below := n / d
  let near := roundHalfEven n d
  let far := if near = below then below + 1 else below
  if near ≠ 0 && interval.holds near scale then some near
  else if far ≠ 0 && interval.holds far scale then some far
  else none

/-- Goes from coarse grids to fine ones. -/
def Interval.search (interval : Interval) : Nat → Int → Shortest
  | 0, scale => ⟨0, scale⟩
  | tries + 1, scale =>
      match interval.onGrid scale with
      | some digits => ⟨digits, scale⟩
      | none => interval.search tries (scale - 1)

/-- The power of ten above every double of the given size. -/
def Interval.topScale (interval : Interval) : Int :=
  ((Nat.log2 interval.value : Int) - Nat.log2 interval.denominator) * 30103 / 100000 + 2

/-- The digits of a double other than zero. -/
def Binary64.shortest (x : Binary64) : Shortest :=
  x.interval.search 22 x.interval.topScale

end ResourceEditor.Decimal
