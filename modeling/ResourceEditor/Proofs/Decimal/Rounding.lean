import Mathlib.Algebra.Order.Field.Power
import Mathlib.Data.Int.Log
import Mathlib.Data.Rat.Floor
import Mathlib.Tactic.FieldSimp
import Mathlib.Tactic.Linarith
import Mathlib.Tactic.LinearCombination
import Mathlib.Tactic.Positivity
import Mathlib.Tactic.Ring
import ResourceEditor.Decimal.Numeral
/-
This file states what the double nearest to a rational number is, and shows that the numbers that
are computed for quotients and for numerals are the nearest ones.
-/

namespace ResourceEditor.Decimal

/-- A number with 53 bits and an exponent that is not too small. Exponents have no upper bound here:
numbers beyond the doubles stand for what is too large to be one. -/
def IsDouble (x : ℚ) : Prop :=
  ∃ m e : ℤ, |m| ≤ 2 ^ 53 ∧ -1074 ≤ e ∧ x = m * 2 ^ e

/-- A double that no other is closer to a number than. Where another one is as close, the two are
neighbours, and the nearest one is an even multiple of the distance between them. -/
structure IsNearest (v x : ℚ) : Prop where
  isDouble : IsDouble x
  least : ∀ y, IsDouble y → |v - x| ≤ |v - y|
  even : ∀ y, IsDouble y → y ≠ x → |v - y| = |v - x| → ∃ m : ℤ, Even m ∧ x = m * (y - x)

/-- The distance between the doubles around a positive number. -/
def gap (q : ℚ) : ℚ := 2 ^ max (-1074) (Int.log 2 q - 52)

/-- A multiple of the gap that is at most half a gap away, and an even one if it is as far as
that. -/
def IsRounded (q x : ℚ) : Prop :=
  ∃ r : ℤ, x = r * gap q ∧ 2 * |q - x| ≤ gap q ∧ (2 * |q - x| = gap q → Even r)

/-- The number, or its opposite. -/
def signed (negative : Bool) (q : ℚ) : ℚ := if negative then -q else q

/-- The rational number that a double is. -/
def Binary64.value (b : Binary64) : ℚ := signed b.negative (b.mantissa * 2 ^ b.exponent)

/-- A double with a sign and a magnitude, or none where the magnitude is too large. -/
inductive Represents (negative : Bool) (x : ℚ) : Option Binary64 → Prop where
  | double {b : Binary64} (value : b.value = signed negative x) : Represents negative x (some b)
  | tooLarge (large : 2 ^ (1024 : ℤ) ≤ x) : Represents negative x none

variable {q v x y : ℚ} {n d : Nat}

/-! The nearest double. -/

/-- At most one double is the nearest. -/
theorem IsNearest.unique (first : IsNearest v x) (second : IsNearest v y) : x = y := by
  by_contra differ
  have same : |v - y| = |v - x| :=
    le_antisymm (second.least x first.isDouble) (first.least y second.isDouble)
  obtain ⟨a, evenA, here⟩ := first.even y second.isDouble (Ne.symm differ) same
  obtain ⟨b, evenB, there⟩ := second.even x first.isDouble differ same.symm
  have apart : y - x ≠ 0 := sub_ne_zero.mpr (Ne.symm differ)
  have sum : ((a + b : ℤ) : ℚ) = -1 := by
    have : ((a + b : ℤ) : ℚ) * (y - x) = -1 * (y - x) := by
      push_cast
      linear_combination there - here
    exact mul_right_cancel₀ apart this
  have odd : a + b = -1 := by exact_mod_cast sum
  have := evenA.add evenB
  rw [odd] at this
  exact absurd this (by decide)

theorem IsDouble.neg (isDouble : IsDouble x) : IsDouble (-x) := by
  obtain ⟨m, e, bounded, least, rfl⟩ := isDouble
  exact ⟨-m, e, by rwa [abs_neg], least, by push_cast; ring⟩

theorem IsNearest.neg (nearest : IsNearest v x) : IsNearest (-v) (-x) := by
  have mirror (y : ℚ) : |-v - y| = |v - -y| := by rw [← abs_neg]; ring_nf
  refine ⟨nearest.isDouble.neg, fun y isDouble => ?_, fun y isDouble differ same => ?_⟩
  · rw [mirror, mirror, neg_neg]
    exact nearest.least (-y) isDouble.neg
  · rw [mirror, mirror, neg_neg] at same
    have other : -y ≠ x := fun equal => differ (by rw [← equal, neg_neg])
    obtain ⟨m, even, value⟩ := nearest.even (-y) isDouble.neg other same
    exact ⟨m, even, by linear_combination -value⟩

theorem IsNearest.signed (nearest : IsNearest v x) (negative : Bool) :
    IsNearest (signed negative v) (signed negative x) := by
  cases negative with
  | false => exact nearest
  | true => exact nearest.neg

/-- Rounding does not go past a double. -/
theorem IsNearest.ge (nearest : IsNearest v x) (isDouble : IsDouble y) (below : y ≤ v) : y ≤ x := by
  by_contra less
  have closer := nearest.least y isDouble
  rw [abs_of_nonneg (by linarith), abs_of_nonneg (by linarith)] at closer
  linarith

/-! Multiples of the gap. -/

theorem gap_pos (q : ℚ) : 0 < gap q := by
  unfold gap
  positivity

/-- A double is a multiple of the gap around a positive number, or it is small. -/
theorem IsDouble.multiple_or_lt (positive : 0 < q) (isDouble : IsDouble y) :
    (∃ j : ℤ, y = j * gap q) ∨ y < 2 ^ 52 * gap q ∧ 2 ^ 52 * gap q ≤ q := by
  obtain ⟨m, e, bounded, least, rfl⟩ := isDouble
  by_cases coarse : max (-1074) (Int.log 2 q - 52) ≤ e
  · obtain ⟨n, rfl⟩ := Int.le.dest coarse
    refine .inl ⟨m * 2 ^ n, ?_⟩
    rw [gap, zpow_add₀ (by decide), zpow_natCast]
    push_cast
    ring
  · have exponent : max (-1074) (Int.log 2 q - 52) = Int.log 2 q - 52 := by omega
    have full : 2 ^ 52 * gap q = (2 : ℚ) ^ Int.log 2 q := by
      rw [gap, exponent, ← zpow_natCast, ← zpow_add₀ (by decide)]
      congr 1
      omega
    have atMost : (m : ℚ) * 2 ^ e ≤ 2 ^ 52 * gap q := by
      have mantissa : (m : ℚ) ≤ 2 ^ 53 := by exact_mod_cast (le_abs_self m).trans bounded
      calc (m : ℚ) * 2 ^ e ≤ 2 ^ (53 : ℤ) * 2 ^ e := by
            exact mul_le_mul_of_nonneg_right mantissa (by positivity)
        _ = 2 ^ (53 + e) := (zpow_add₀ (by decide) _ _).symm
        _ ≤ 2 ^ Int.log 2 q := zpow_le_zpow_right₀ (by decide) (by omega)
        _ = 2 ^ 52 * gap q := full.symm
    rcases lt_or_eq_of_le atMost with less | equal
    · have log : (2 : ℚ) ^ Int.log 2 q ≤ q := Int.zpow_log_le_self (by decide) positive
      exact .inr ⟨less, full ▸ log⟩
    · exact .inl ⟨2 ^ 52, by rw [equal]; norm_num⟩

/-- Multiples of the gap are a gap apart. -/
theorem gap_le_abs_sub (q : ℚ) {a b : ℤ} (differ : a ≠ b) : gap q ≤ |a * gap q - b * gap q| := by
  rw [← sub_mul, abs_mul, abs_of_pos (gap_pos q)]
  have apart : (1 : ℚ) ≤ |(a : ℚ) - b| := by
    exact_mod_cast Int.one_le_abs (sub_ne_zero.mpr differ)
  exact le_mul_of_one_le_left (gap_pos q).le apart

theorem add_gap_le (q : ℚ) {a b : ℤ} (less : a * gap q < b * gap q) :
    a * gap q + gap q ≤ b * gap q := by
  have steps : a < b := by exact_mod_cast lt_of_mul_lt_mul_right less (gap_pos q).le
  rw [← add_one_mul]
  exact mul_le_mul_of_nonneg_right (by exact_mod_cast steps) (gap_pos q).le

theorem IsRounded.le (rounded : IsRounded q x) (j : ℤ) : |q - x| ≤ |q - j * gap q| := by
  obtain ⟨r, rfl, close, -⟩ := rounded
  by_cases same : r = j
  · rw [same]
  · have apart := gap_le_abs_sub q same
    have triangle := abs_sub_le (r * gap q) q (j * gap q)
    rw [abs_sub_comm _ q] at triangle
    linarith

/-- Where another multiple of the gap is as close, the two are neighbours. -/
theorem IsRounded.even (rounded : IsRounded q x) {j : ℤ} (differ : j * gap q ≠ x)
    (same : |q - j * gap q| = |q - x|) : ∃ m : ℤ, Even m ∧ x = m * (j * gap q - x) := by
  obtain ⟨r, rfl, close, even⟩ := rounded
  have other : r ≠ j := fun equal => differ (by rw [equal])
  have apart := gap_le_abs_sub q other
  have triangle := abs_sub_le (r * gap q) q (j * gap q)
  rw [abs_sub_comm _ q, same] at triangle
  have tie : 2 * |q - r * gap q| = gap q := by linarith
  have distance : |((j - r : ℤ) : ℚ)| * gap q = 1 * gap q := by
    rw [← abs_of_pos (gap_pos q), ← abs_mul, abs_of_pos (gap_pos q), Int.cast_sub, sub_mul,
      abs_sub_comm]
    linarith
  have neighbours : |j - r| = 1 := by
    exact_mod_cast mul_right_cancel₀ (gap_pos q).ne' distance
  have square : ((j - r : ℤ) : ℚ) * (j - r : ℤ) = 1 := by
    exact_mod_cast (abs_mul_abs_self (j - r)).symm.trans (by rw [neighbours]; rfl)
  refine ⟨r * (j - r), (even tie).mul_right _, ?_⟩
  push_cast at square ⊢
  linear_combination -(r * gap q) * square

theorem IsRounded.isDouble (nonneg : 0 ≤ q) (rounded : IsRounded q x) : IsDouble x := by
  obtain ⟨r, rfl, close, -⟩ := rounded
  refine ⟨r, max (-1074) (Int.log 2 q - 52), ?_, le_max_left _ _, rfl⟩
  have small : q ≤ 2 ^ 53 * gap q := by
    calc q ≤ 2 ^ (Int.log 2 q + 1) := (Int.lt_zpow_succ_log_self (by decide) q).le
      _ ≤ 2 ^ ((53 : ℤ) + max (-1074) (Int.log 2 q - 52)) :=
        zpow_le_zpow_right₀ (by decide) (by omega)
      _ = 2 ^ 53 * gap q := zpow_add₀ (by decide) _ _
  have bounded : |(r : ℚ)| * gap q < (2 ^ 53 + 1) * gap q := by
    have triangle := abs_sub_abs_le_abs_sub (r * gap q) q
    rw [abs_sub_comm, abs_mul, abs_of_pos (gap_pos q), abs_of_nonneg nonneg] at triangle
    linarith [gap_pos q]
  have less : |r| < 2 ^ 53 + 1 := by
    exact_mod_cast lt_of_mul_lt_mul_right bounded (gap_pos q).le
  exact Int.lt_add_one_iff.mp less

theorem isDouble_zero : IsDouble 0 := ⟨0, 0, by decide, by decide, by norm_num⟩

theorem isNearest_zero : IsNearest 0 0 := by
  refine ⟨isDouble_zero, fun y _ => ?_, fun y _ differ same => ?_⟩
  · rw [sub_zero, abs_zero]
    exact abs_nonneg _
  · rw [sub_zero, abs_zero, abs_eq_zero, zero_sub, neg_eq_zero] at same
    exact absurd same differ

theorem IsRounded.isNearest_of_pos (positive : 0 < q) (rounded : IsRounded q x) :
    IsNearest q x := by
  -- A double that is no multiple of the gap is small, and the power of two below the number is
  -- closer than it.
  have beyond {y : ℚ} (less : y < 2 ^ 52 * gap q) (atMost : 2 ^ 52 * gap q ≤ q) :
      |q - x| < |q - y| := by
    have closer := rounded.le (2 ^ 52)
    rw [Int.cast_pow, Int.cast_ofNat, abs_of_nonneg (sub_nonneg.mpr atMost)] at closer
    have far : 0 ≤ q - y := by linarith
    rw [abs_of_nonneg far]
    linarith
  refine ⟨rounded.isDouble positive.le, fun y isDouble => ?_, fun y isDouble differ same => ?_⟩
  · rcases isDouble.multiple_or_lt positive with ⟨j, rfl⟩ | ⟨less, atMost⟩
    · exact rounded.le j
    · exact (beyond less atMost).le
  · rcases isDouble.multiple_or_lt positive with ⟨j, rfl⟩ | ⟨less, atMost⟩
    · exact rounded.even differ same
    · exact absurd same (beyond less atMost).ne'

theorem IsRounded.eq_zero (rounded : IsRounded 0 x) : x = 0 := by
  obtain ⟨r, rfl, close, -⟩ := rounded
  rw [zero_sub, abs_neg, abs_mul, abs_of_pos (gap_pos 0)] at close
  have small : |(r : ℚ)| * gap 0 < 1 * gap 0 := by linarith [gap_pos 0]
  have zero : |r| < 1 := by exact_mod_cast lt_of_mul_lt_mul_right small (gap_pos 0).le
  rw [Int.abs_lt_one_iff.mp zero, Int.cast_zero, zero_mul]

/-- What is rounded to a multiple of the gap is rounded to the nearest double. -/
theorem IsRounded.isNearest (nonneg : 0 ≤ q) (rounded : IsRounded q x) : IsNearest q x := by
  rcases nonneg.eq_or_lt with rfl | positive
  · rw [rounded.eq_zero]
    exact isNearest_zero
  · exact rounded.isNearest_of_pos positive

theorem IsRounded.nonneg (nonneg : 0 ≤ q) (rounded : IsRounded q x) : 0 ≤ x :=
  (rounded.isNearest nonneg).ge isDouble_zero nonneg

/-! Quotients of natural numbers. -/

theorem scaleBy_pos (exponent : Int) (n : Nat) {d : Nat} (positive : 0 < d) :
    0 < (scaleBy exponent n d).2 := by
  cases exponent with
  | ofNat e => exact Nat.mul_pos positive (Nat.two_pow_pos e)
  | negSucc e => exact positive

theorem scaleBy_eq (exponent : Int) (n d : Nat) :
    ((scaleBy exponent n d).1 : ℚ) / (scaleBy exponent n d).2 = n / d / 2 ^ exponent := by
  cases exponent with
  | ofNat e =>
      change (n : ℚ) / ((d * 2 ^ e : ℕ) : ℚ) = n / d / 2 ^ (e : ℤ)
      rw [zpow_natCast, div_div]
      push_cast
      rfl
  | negSucc e =>
      change ((n * 2 ^ (e + 1) : ℕ) : ℚ) / d = n / d / 2 ^ Int.negSucc e
      rw [zpow_negSucc, div_inv_eq_mul, mul_comm_div]
      push_cast
      ring

theorem two_zpow_log2_le {n : Nat} (positive : 0 < n) : (2 : ℚ) ^ (n.log2 : ℤ) ≤ n := by
  rw [zpow_natCast]
  exact_mod_cast Nat.log2_self_le positive.ne'

theorem lt_two_zpow_log2 (n : Nat) : (n : ℚ) < 2 ^ ((n.log2 : ℤ) + 1) := by
  rw [← Nat.cast_succ, zpow_natCast]
  exact_mod_cast Nat.lt_log2_self

/-- The logarithm of a quotient, up to one. -/
theorem log_div_bounds (positive : 0 < n) (nonzero : 0 < d) :
    (n.log2 : ℤ) - d.log2 - 1 ≤ Int.log 2 ((n : ℚ) / d) ∧
      Int.log 2 ((n : ℚ) / d) < (n.log2 : ℤ) - d.log2 + 1 := by
  have quotient : (0 : ℚ) < n / d := by positivity
  have divisor : (0 : ℚ) < d := by positivity
  have log : 1 < 2 := by decide
  constructor
  · refine (Int.zpow_le_iff_le_log log quotient).mp ((le_div_iff₀ divisor).mpr ?_)
    calc (2 : ℚ) ^ ((n.log2 : ℤ) - d.log2 - 1) * d
        ≤ 2 ^ ((n.log2 : ℤ) - d.log2 - 1) * 2 ^ ((d.log2 : ℤ) + 1) :=
          mul_le_mul_of_nonneg_left (lt_two_zpow_log2 d).le (by positivity)
      _ = 2 ^ (n.log2 : ℤ) := by
          rw [← zpow_add₀ (by decide)]
          congr 1
          omega
      _ ≤ n := two_zpow_log2_le positive
  · refine (Int.lt_zpow_iff_log_lt log quotient).mp ((div_lt_iff₀ divisor).mpr ?_)
    calc (n : ℚ) < 2 ^ ((n.log2 : ℤ) + 1) := lt_two_zpow_log2 n
      _ = 2 ^ ((n.log2 : ℤ) - d.log2 + 1) * 2 ^ (d.log2 : ℤ) := by
          rw [← zpow_add₀ (by decide)]
          congr 1
          omega
      _ ≤ 2 ^ ((n.log2 : ℤ) - d.log2 + 1) * d :=
          mul_le_mul_of_nonneg_left (two_zpow_log2_le nonzero) (by positivity)

/-- The exponent is the one of the gap. -/
theorem exponentOf_eq (positive : 0 < n) (nonzero : 0 < d) :
    exponentOf n d = max (-1074) (Int.log 2 ((n : ℚ) / d) - 52) := by
  have quotient : (0 : ℚ) < n / d := by positivity
  obtain ⟨low, high⟩ := log_div_bounds positive nonzero
  rw [exponentOf]
  generalize exponent : (n.log2 : ℤ) - d.log2 - 52 = guess
  have scaled : (0 : ℚ) < (scaleBy guess n d).2 := by exact_mod_cast scaleBy_pos guess n nonzero
  have small : (scaleBy guess n d).1 < fullMantissa * (scaleBy guess n d).2 ↔
      Int.log 2 ((n : ℚ) / d) < guess + 52 := by
    rw [← Int.lt_zpow_iff_log_lt (by decide) quotient, Nat.cast_ofNat, zpow_add₀ (by decide),
      ← div_lt_iff₀' (by positivity), ← scaleBy_eq, div_lt_iff₀ scaled]
    exact_mod_cast Iff.rfl
  simp only [small]
  split <;> exact congrArg (max (-1074)) (by omega)

theorem roundHalfEven_close (n : Nat) {d : Nat} (positive : 0 < d) :
    2 * |(n : ℚ) / d - roundHalfEven n d| ≤ 1 ∧
      (2 * |(n : ℚ) / d - roundHalfEven n d| = 1 → Even (roundHalfEven n d)) := by
  have divisor : (0 : ℚ) < d := by exact_mod_cast positive
  have split : (n : ℚ) / d = (n / d : ℕ) + ((n % d : ℕ) : ℚ) / d := by
    rw [div_eq_iff divisor.ne', add_mul, div_mul_cancel₀ _ divisor.ne']
    exact_mod_cast (Nat.div_add_mod' n d).symm
  have rest : ((n % d : ℕ) : ℚ) / d < 1 := by
    rw [div_lt_one divisor]
    exact_mod_cast Nat.mod_lt n positive
  have start : 0 ≤ ((n % d : ℕ) : ℚ) / d := by positivity
  have below : 2 * (n % d) < d ↔ 2 * (((n % d : ℕ) : ℚ) / d) < 1 := by
    rw [← mul_div_assoc, div_lt_one divisor]
    exact_mod_cast Iff.rfl
  have above : d < 2 * (n % d) ↔ 1 < 2 * (((n % d : ℕ) : ℚ) / d) := by
    rw [← mul_div_assoc, one_lt_div divisor]
    exact_mod_cast Iff.rfl
  have down : |(n : ℚ) / d - (n / d : ℕ)| = ((n % d : ℕ) : ℚ) / d := by
    rw [split, add_sub_cancel_left, abs_of_nonneg start]
  have up : |(n : ℚ) / d - (n / d + 1 : ℕ)| = 1 - ((n % d : ℕ) : ℚ) / d := by
    rw [split, Nat.cast_add_one, add_sub_add_left_eq_sub, abs_sub_comm, abs_of_pos (by linarith)]
  rw [roundHalfEven]
  simp only [below, above]
  split
  next less => rw [down]; exact ⟨less.le, fun tie => absurd tie less.ne⟩
  next notLess =>
    split
    next more => rw [up]; constructor <;> intros <;> linarith
    next notMore =>
      split
      next even => rw [down]; exact ⟨not_lt.mp notMore, fun _ => Nat.even_iff.mpr even⟩
      next odd =>
        rw [up]
        exact ⟨by linarith, fun _ => (Nat.not_even_iff_odd.mp (odd ∘ Nat.even_iff.mp)).add_one⟩

theorem isRounded_of_scaled {r : ℤ} (close : 2 * |q / gap q - r| ≤ 1)
    (even : 2 * |q / gap q - r| = 1 → Even r) : IsRounded q (r * gap q) := by
  have scaled : |q - r * gap q| = |q / gap q - r| * gap q := by
    rw [← abs_of_pos (gap_pos q), ← abs_mul, abs_of_pos (gap_pos q), sub_mul,
      div_mul_cancel₀ _ (gap_pos q).ne']
  refine ⟨r, rfl, ?_, fun tie => even ?_⟩
  · rw [scaled, ← mul_assoc]
    exact mul_le_of_le_one_left (gap_pos q).le close
  · rw [scaled, ← mul_assoc] at tie
    exact (mul_eq_right₀ (gap_pos q).ne').mp tie

/-- The mantissa that is computed for a quotient is the one of its rounded value. -/
theorem isRounded_mantissa (positive : 0 < n) (nonzero : 0 < d) :
    IsRounded (n / d) (roundHalfEven (scaleBy (exponentOf n d) n d).1
      (scaleBy (exponentOf n d) n d).2 * 2 ^ exponentOf n d) := by
  have exponent : (2 : ℚ) ^ exponentOf n d = gap (n / d) := by
    rw [exponentOf_eq positive nonzero, gap]
  obtain ⟨close, even⟩ := roundHalfEven_close (scaleBy (exponentOf n d) n d).1
    (scaleBy_pos (exponentOf n d) n nonzero)
  rw [scaleBy_eq, exponent] at close even
  rw [exponent]
  exact isRounded_of_scaled close fun tie => (Int.even_coe_nat _).mpr (even tie)

theorem isDouble_two_zpow {e : ℤ} (least : -1074 ≤ e) : IsDouble (2 ^ e) :=
  ⟨1, e, by decide, least, by rw [Int.cast_one, one_mul]⟩

theorem represents_of_value (negative : Bool) {mantissa : Nat} {exponent : Int}
    (value : mantissa * 2 ^ exponent = x) (large : 971 < exponent → 2 ^ (1024 : ℤ) ≤ x) :
    Represents negative x
      (if 971 < exponent then none else some ⟨negative, mantissa, exponent⟩) := by
  split
  next out => exact .tooLarge (large out)
  next => exact .double (congrArg (signed negative) value)

/-- What is computed for a quotient represents its rounded value. -/
theorem nearest_represents (n : Nat) (nonzero : 0 < d) :
    ∃ x, IsRounded (n / d) x ∧ ∀ negative, Represents negative x (nearest negative n d) := by
  rcases n.eq_zero_or_pos with rfl | positive
  · refine ⟨0, ⟨0, by simp, by simpa using (gap_pos _).le, fun _ => Even.zero⟩, fun negative => ?_⟩
    exact .double (by simp [Binary64.value])
  have rounded := isRounded_mantissa positive nonzero
  refine ⟨_, rounded, fun negative => ?_⟩
  have quotient : (0 : ℚ) < n / d := by positivity
  rw [nearest, if_neg positive.ne']
  generalize mantissa : roundHalfEven (scaleBy (exponentOf n d) n d).1
    (scaleBy (exponentOf n d) n d).2 = r at rounded
  simp only [mantissa]
  split
  next carries =>
    -- A mantissa that is one too large is the least one of the next exponent.
    have doubled : (fullMantissa : ℚ) * 2 ^ (exponentOf n d + 1) = r * 2 ^ exponentOf n d := by
      rw [carries, zpow_add_one₀ (by decide)]
      push_cast
      ring
    refine represents_of_value negative doubled fun out => ?_
    calc (2 : ℚ) ^ (1024 : ℤ) ≤ 2 ^ (52 + (exponentOf n d + 1)) :=
          zpow_le_zpow_right₀ (by decide) (by omega)
      _ = fullMantissa * 2 ^ (exponentOf n d + 1) := zpow_add₀ (by decide) 52 _
      _ = r * 2 ^ exponentOf n d := doubled
  next fits =>
    refine represents_of_value negative rfl fun out => ?_
    rw [exponentOf_eq positive nonzero] at out
    have log : 1024 ≤ Int.log 2 ((n : ℚ) / d) := by omega
    have large := (Int.zpow_le_iff_le_log (by decide : 1 < 2) quotient).mpr log
    exact (rounded.isNearest quotient.le).ge (isDouble_two_zpow (by decide)) large

end ResourceEditor.Decimal
