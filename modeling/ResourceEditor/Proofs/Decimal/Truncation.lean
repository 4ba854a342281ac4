import ResourceEditor.Proofs.Decimal.Rounding
/-
This file shows which double a numeral is read as, and when the double has the whole part of the
number that it was rounded from.
-/

namespace ResourceEditor.Decimal

/-- The number that a numeral stands for, without its sign. -/
def Numeral.magnitude (numeral : Numeral) : ℚ := numeral.digits * 10 ^ numeral.scale

def Numeral.value (numeral : Numeral) : ℚ := signed numeral.negative numeral.magnitude

/-- The number without its fraction part. -/
def truncate (q : ℚ) : ℤ := if 0 ≤ q then ⌊q⌋ else ⌈q⌉

/-- Whether rounding leaves the whole part of a number as it is. The whole part must be a multiple
of the gap. Where the gap is one or less, the next integer must be more than half a gap above the
number; half a gap will do where the gap is one and the whole part is even. -/
def KeepsWhole (q : ℚ) : Prop :=
  (∃ k : ℤ, (⌊q⌋ : ℚ) = k * gap q) ∧
    (gap q ≤ 1 → q + gap q / 2 < ⌊q⌋ + 1 ∨ q + gap q / 2 = ⌊q⌋ + 1 ∧ gap q = 1 ∧ Even ⌊q⌋)

variable {q x : ℚ}

/-! Numerals. -/

theorem Numeral.magnitude_nonneg (numeral : Numeral) : 0 ≤ numeral.magnitude := by
  rw [magnitude]
  positivity

theorem exists_isRounded (nonneg : 0 ≤ q) : ∃ x, IsRounded q x := by
  obtain ⟨x, rounded, -⟩ := nearest_represents q.num.natAbs q.den_pos
  have quotient : (q.num.natAbs : ℚ) / q.den = q := by
    rw [Nat.cast_natAbs, abs_of_nonneg (Rat.num_nonneg.mpr nonneg), Rat.num_div_den]
  exact ⟨x, quotient ▸ rounded⟩

theorem digitCount_bounds {n : Nat} (positive : 0 < n) :
    10 ^ (digitCount n - 1) ≤ n ∧ n < 10 ^ digitCount n ∧ 0 < digitCount n := by
  have base : 1 < 10 := by decide
  rw [digitCount, if_neg positive.ne']
  have some : 0 < (Nat.toDigits 10 n).length := Nat.length_toDigits_pos
  refine ⟨?_, (Nat.length_toDigits_le_iff base some).mp le_rfl, some⟩
  by_contra less
  rcases Nat.eq_or_lt_of_le some with one | more
  · rw [← one] at less
    exact less positive
  · have shorter := (Nat.length_toDigits_le_iff base (Nat.sub_pos_of_lt more)).mpr (not_le.mp less)
    omega

/-- The size of a numeral, in the powers of ten around it. -/
theorem Numeral.magnitude_bounds (numeral : Numeral) (positive : 0 < numeral.digits) :
    10 ^ (digitCount numeral.digits + numeral.scale - 1) ≤ numeral.magnitude ∧
      numeral.magnitude < 10 ^ (digitCount numeral.digits + numeral.scale) := by
  obtain ⟨low, high, some⟩ := digitCount_bounds positive
  have scale : (0 : ℚ) < 10 ^ numeral.scale := by positivity
  constructor
  · rw [add_sub_right_comm, zpow_add₀ (by decide), magnitude]
    refine mul_le_mul_of_nonneg_right ?_ scale.le
    rw [← Nat.cast_pred some, zpow_natCast]
    exact_mod_cast low
  · rw [zpow_add₀ (by decide), magnitude]
    refine mul_lt_mul_of_pos_right ?_ scale
    rw [zpow_natCast]
    exact_mod_cast high

/-- Ten has more than three bits. -/
theorem two_zpow_le_ten_zpow (n : Nat) : (2 : ℚ) ^ (33 * n : ℤ) ≤ 10 ^ (10 * n : ℤ) := by
  rw [zpow_mul, zpow_mul, zpow_natCast, zpow_natCast]
  exact pow_le_pow_left₀ (by norm_num) (by norm_num) n

theorem isRounded_of_tiny (nonneg : 0 ≤ q) (tiny : q < 10 ^ (-330 : ℤ)) : IsRounded q 0 := by
  have bound : 2 * q ≤ gap q := by
    calc 2 * q ≤ 2 ^ (1 : ℤ) * 10 ^ (-(10 * (33 : ℕ) : ℤ)) :=
          mul_le_mul_of_nonneg_left tiny.le (by norm_num)
      _ ≤ 2 ^ (1 : ℤ) * 2 ^ (-(33 * (33 : ℕ) : ℤ)) := by
          refine mul_le_mul_of_nonneg_left ?_ (by norm_num)
          rw [zpow_neg, zpow_neg]
          exact inv_anti₀ (by positivity) (two_zpow_le_ten_zpow 33)
      _ = 2 ^ (1 + -(33 * (33 : ℕ) : ℤ)) := (zpow_add₀ (by decide) _ _).symm
      _ ≤ gap q := zpow_le_zpow_right₀ (by decide) (by omega)
  refine ⟨0, by rw [Int.cast_zero, zero_mul], ?_, fun _ => Even.zero⟩
  rwa [sub_zero, abs_of_nonneg nonneg]

/-- What is computed for a numeral represents its rounded magnitude. -/
theorem Numeral.nearest_represents (numeral : Numeral) :
    ∃ x, IsRounded numeral.magnitude x ∧ Represents numeral.negative x numeral.nearest := by
  have nonneg := numeral.magnitude_nonneg
  have zero : Represents numeral.negative 0 (some ⟨numeral.negative, 0, leastExponent⟩) :=
    .double (by simp [Binary64.value])
  rw [nearest]
  split
  next small =>
    refine ⟨0, isRounded_of_tiny nonneg ?_, zero⟩
    rcases numeral.digits.eq_zero_or_pos with none | positive
    · rw [magnitude, none, Nat.cast_zero, zero_mul]
      positivity
    · have size : digitCount numeral.digits + numeral.scale < -330 := by
        simpa [positive.ne'] using small
      exact (numeral.magnitude_bounds positive).2.trans_le
        (zpow_le_zpow_right₀ (by norm_num) size.le)
  next notSmall =>
    split
    next out =>
      obtain ⟨x, rounded⟩ := exists_isRounded nonneg
      have isDouble : IsDouble (2 ^ (1024 : ℤ)) := isDouble_two_zpow (by decide)
      refine ⟨x, rounded, .tooLarge ((rounded.isNearest nonneg).ge isDouble ?_)⟩
      have positive : 0 < numeral.digits := by
        refine Nat.pos_of_ne_zero fun none => notSmall ?_
        simp [none]
      calc (2 : ℚ) ^ (1024 : ℤ) ≤ 2 ^ (33 * (32 : ℕ) : ℤ) :=
            zpow_le_zpow_right₀ (by decide) (by omega)
        _ ≤ 10 ^ (10 * (32 : ℕ) : ℤ) := two_zpow_le_ten_zpow 32
        _ ≤ 10 ^ (digitCount numeral.digits + numeral.scale - 1) :=
            zpow_le_zpow_right₀ (by norm_num) (by omega)
        _ ≤ numeral.magnitude := (numeral.magnitude_bounds positive).1
    next =>
      rw [magnitude]
      cases numeral.scale with
      | ofNat n =>
          obtain ⟨x, rounded, represents⟩ :=
            Decimal.nearest_represents (numeral.digits * Nat.pow 10 n) Nat.one_pos
          refine ⟨x, ?_, represents numeral.negative⟩
          have quotient : ((numeral.digits * Nat.pow 10 n : ℕ) : ℚ) / (1 : ℕ) =
              numeral.digits * 10 ^ (Int.ofNat n) := by
            rw [Int.ofNat_eq_natCast, zpow_natCast, Nat.cast_one, div_one, Nat.pow_eq]
            push_cast
            rfl
          exact quotient ▸ rounded
      | negSucc n =>
          have power : 0 < Nat.pow 10 (n + 1) := Nat.pow_pos (by decide)
          obtain ⟨x, rounded, represents⟩ := Decimal.nearest_represents numeral.digits power
          refine ⟨x, ?_, represents numeral.negative⟩
          have quotient : (numeral.digits : ℚ) / (Nat.pow 10 (n + 1) : ℕ) =
              numeral.digits * 10 ^ (Int.negSucc n) := by
            rw [zpow_negSucc, div_eq_mul_inv, Nat.pow_eq]
            push_cast
            rfl
          exact quotient ▸ rounded

/-! Truncation. -/

theorem truncate_signed (negative : Bool) (nonneg : 0 ≤ q) :
    truncate (signed negative q) = if negative then -⌊q⌋ else ⌊q⌋ := by
  cases negative with
  | false => exact if_pos nonneg
  | true =>
      rcases nonneg.eq_or_lt with rfl | positive
      · simp [signed, truncate]
      · have negated : ¬ 0 ≤ -q := by linarith
        exact (if_neg negated).trans Int.ceil_neg

theorem truncate_signed_inj (negative : Bool) (nonneg : 0 ≤ q) (nonnegX : 0 ≤ x) :
    truncate (signed negative x) = truncate (signed negative q) ↔ ⌊x⌋ = ⌊q⌋ := by
  rw [truncate_signed negative nonneg, truncate_signed negative nonnegX]
  cases negative with
  | false => rfl
  | true => exact neg_inj

theorem abs_signed (negative : Bool) (nonneg : 0 ≤ q) : |signed negative q| = q := by
  cases negative with
  | false => exact abs_of_nonneg nonneg
  | true => exact (abs_neg q).trans (abs_of_nonneg nonneg)

theorem Binary64.magnitude_eq (b : Binary64) :
    (b.magnitude.1 : ℚ) / b.magnitude.2 = b.mantissa * 2 ^ b.exponent := by
  rw [magnitude]
  cases b.exponent with
  | ofNat n => simp
  | negSucc n => simp [zpow_negSucc, div_eq_mul_inv]

theorem Binary64.truncate_eq (b : Binary64) : b.truncate = Decimal.truncate b.value := by
  have nonneg : (0 : ℚ) ≤ b.mantissa * 2 ^ b.exponent := by positivity
  rw [value, truncate_signed b.negative nonneg, ← b.magnitude_eq, Rat.floor_natCast_div_natCast]
  rfl

/-! The whole part of a rounded number. -/

/-- Either an integer of gaps makes one, or the gap is a larger integer. -/
theorem gap_cases (q : ℚ) :
    (∃ n : ℤ, gap q ≤ 1 ∧ n * gap q = 1 ∧ (Odd n → gap q = 1)) ∨
      ∃ n : ℤ, 1 < gap q ∧ gap q = n := by
  rw [gap]
  generalize max (-1074) (Int.log 2 q - 52) = exponent
  rcases le_or_gt exponent 0 with fine | coarse
  · obtain ⟨n, rfl⟩ := Int.exists_eq_neg_ofNat fine
    refine .inl ⟨2 ^ n, zpow_le_one_of_nonpos₀ (by norm_num) fine, ?_, fun odd => ?_⟩
    · rw [zpow_neg, zpow_natCast, Int.cast_pow, Int.cast_ofNat]
      exact mul_inv_cancel₀ (by positivity)
    · cases n with
      | zero => rfl
      | succ n => exact absurd odd (by rw [pow_succ]; simp)
  · obtain ⟨n, rfl⟩ := Int.eq_ofNat_of_zero_le coarse.le
    refine .inr ⟨2 ^ n, one_lt_zpow₀ (by norm_num) coarse, ?_⟩
    rw [zpow_natCast, Int.cast_pow, Int.cast_ofNat]

/-- Where the gap is an integer above one, a rounded number is an integer, and it is the whole part
when that is a multiple of the gap. -/
theorem IsRounded.floor_eq_iff_of_coarse (rounded : IsRounded q x) {n : ℤ} (coarse : 1 < gap q)
    (integral : gap q = n) : ⌊x⌋ = ⌊q⌋ ↔ ∃ k : ℤ, (⌊q⌋ : ℚ) = k * gap q := by
  obtain ⟨r, value, -⟩ := id rounded
  have whole : (⌊x⌋ : ℚ) = r * gap q := by
    rw [value, integral, ← Int.cast_mul, Int.floor_intCast]
  refine ⟨fun same => ⟨r, by rw [← same, whole]⟩, fun ⟨k, multiple⟩ => ?_⟩
  have two : 2 ≤ gap q := by
    rw [integral] at coarse ⊢
    exact_mod_cast (Int.add_one_le_iff.mpr (by exact_mod_cast coarse) : (1 : ℤ) + 1 ≤ n)
  have below : |q - k * gap q| < 1 := by
    rw [← multiple, Int.self_sub_floor, abs_of_nonneg (Int.fract_nonneg q)]
    exact Int.fract_lt_one q
  have same : r = k := by
    by_contra differ
    have apart := gap_le_abs_sub q differ
    have triangle := abs_sub_le (r * gap q) q (k * gap q)
    have closer := rounded.le k
    rw [value, abs_sub_comm q] at closer
    linarith
  exact_mod_cast (by rw [whole, multiple, same] : (⌊x⌋ : ℚ) = ⌊q⌋)

theorem IsRounded.floor_le_of_fine (rounded : IsRounded q x) {n : ℤ} (one : n * gap q = 1) :
    ⌊q⌋ ≤ x ∧ x ≤ ⌊q⌋ + 1 := by
  have multiple (j : ℤ) : ((j * n : ℤ) : ℚ) * gap q = j := by
    rw [Int.cast_mul, mul_assoc, one, mul_one]
  have low := rounded.le (⌊q⌋ * n)
  have high := rounded.le ((⌊q⌋ + 1) * n)
  rw [multiple, abs_of_nonneg (sub_nonneg.mpr (Int.floor_le q))] at low
  rw [multiple, Int.cast_add, Int.cast_one, abs_sub_comm q (⌊q⌋ + 1),
    abs_of_pos (sub_pos.mpr (Int.lt_floor_add_one q))] at high
  exact ⟨by linarith [le_abs_self (q - x)], by linarith [neg_abs_le (q - x)]⟩

/-- Where an integer of gaps makes one, a number is rounded up to the next integer when it is less
than half a gap below it, or half a gap where that integer is an even number of gaps. -/
theorem IsRounded.floor_eq_iff_of_fine (rounded : IsRounded q x) {n : ℤ} (one : n * gap q = 1)
    (odd : Odd n → gap q = 1) :
    ⌊x⌋ = ⌊q⌋ ↔
      q + gap q / 2 < ⌊q⌋ + 1 ∨ q + gap q / 2 = ⌊q⌋ + 1 ∧ gap q = 1 ∧ Even ⌊q⌋ := by
  obtain ⟨low, high⟩ := rounded.floor_le_of_fine one
  have floor : ⌊x⌋ = ⌊q⌋ ↔ x < ⌊q⌋ + 1 := by
    rw [Int.floor_eq_iff]
    exact and_iff_right low
  have next : (((⌊q⌋ + 1) * n : ℤ) : ℚ) * gap q = ⌊q⌋ + 1 := by
    rw [Int.cast_mul, mul_assoc, one, mul_one, Int.cast_add, Int.cast_one]
  obtain ⟨r, value, close, even⟩ := rounded
  have near := (abs_le.mp (show |q - x| ≤ gap q / 2 by linarith))
  rw [floor]
  constructor
  · intro less
    have atMost : x + gap q ≤ ⌊q⌋ + 1 := by
      rw [value, ← next] at less ⊢
      exact add_gap_le q less
    rcases lt_or_eq_of_le (show q + gap q / 2 ≤ ⌊q⌋ + 1 by linarith) with apart | tie
    · exact .inl apart
    · -- The number lies between two multiples, of which the lower one was taken for being even.
      have before : q - x = gap q / 2 := by linarith
      have evenSteps := even (by rw [before, abs_of_pos (half_pos (gap_pos q))]; ring)
      have lower : ((r + 1 : ℤ) : ℚ) * gap q = ((⌊q⌋ + 1) * n : ℤ) * gap q := by
        rw [next, Int.cast_add, Int.cast_one, add_mul, one_mul, ← value]
        linarith
      have steps : r + 1 = (⌊q⌋ + 1) * n := by
        exact_mod_cast mul_right_cancel₀ (gap_pos q).ne' lower
      have odds := Int.odd_mul.mp (steps ▸ evenSteps.add_one)
      exact .inr ⟨tie, odd odds.2, by simpa [Int.even_add_one] using odds.1⟩
  · rintro (apart | ⟨tie, unit, evenWhole⟩)
    · linarith
    · refine lt_of_le_of_ne high fun up => ?_
      have steps : r = ⌊q⌋ + 1 := by
        rw [value, unit, mul_one] at up
        exact_mod_cast up
      have evenSteps := even (by rw [abs_sub_comm, abs_of_nonneg] <;> linarith)
      exact absurd evenSteps (by rw [steps]; exact Int.not_even_iff_odd.mpr evenWhole.add_one)

theorem IsRounded.floor_eq_iff (rounded : IsRounded q x) : ⌊x⌋ = ⌊q⌋ ↔ KeepsWhole q := by
  rw [KeepsWhole]
  rcases gap_cases q with ⟨n, fine, one, odd⟩ | ⟨n, coarse, integral⟩
  · have multiple : ∃ k : ℤ, (⌊q⌋ : ℚ) = k * gap q :=
      ⟨⌊q⌋ * n, by rw [Int.cast_mul, mul_assoc, one, mul_one]⟩
    rw [rounded.floor_eq_iff_of_fine one odd]
    exact ⟨fun apart => ⟨multiple, fun _ => apart⟩, fun ⟨_, apart⟩ => apart fine⟩
  · rw [rounded.floor_eq_iff_of_coarse coarse integral]
    exact (and_iff_left fun fine => absurd coarse fine.not_gt).symm

/-! The bound of integers of 64 bits. -/

theorem IsRounded.floor_ge (nonneg : 0 ≤ q) (rounded : IsRounded q x) {e : Nat}
    (large : 2 ^ e ≤ q) : 2 ^ e ≤ ⌊x⌋ := by
  have isDouble : IsDouble (2 ^ e) := by
    have := isDouble_two_zpow (e := e) (by omega)
    rwa [zpow_natCast] at this
  have above := (rounded.isNearest nonneg).ge isDouble large
  exact Int.le_floor.mpr (by exact_mod_cast above)

/-- Just above the bound, a number is rounded to the bound when it is at most half a gap above. -/
theorem IsRounded.floor_eq_limit_iff (rounded : IsRounded q x) (large : 2 ^ 63 ≤ q) :
    ⌊x⌋ = 2 ^ 63 ↔ q ≤ 2 ^ 63 + 1024 := by
  have nonneg : 0 ≤ q := le_trans (by norm_num) large
  rcases le_or_gt (2 ^ 64) q with beyond | within
  · have above := rounded.floor_ge nonneg beyond
    constructor
    · intro limit
      rw [limit] at above
      exact absurd above (by decide)
    · intro close
      exact absurd (beyond.trans close) (by norm_num)
  · have log : Int.log 2 q = 63 := by
      have positive : 0 < q := lt_of_lt_of_le (by norm_num) large
      have low := (Int.zpow_le_iff_le_log (x := 63) (by decide : 1 < 2) positive).mp large
      have high := (Int.lt_zpow_iff_log_lt (x := 64) (by decide : 1 < 2) positive).mp within
      omega
    have step : gap q = 2048 := by
      rw [gap, log]
      norm_num
    obtain ⟨r, value, close, even⟩ := rounded
    rw [step] at value close even
    have floor : ⌊x⌋ = r * 2048 := by
      rw [value]
      exact_mod_cast Int.floor_intCast (r * 2048)
    have near := abs_le.mp (show |q - x| ≤ 1024 by linarith)
    constructor
    · intro limit
      have reached : x = 2 ^ 63 := by
        rw [floor] at limit
        rw [value]
        exact_mod_cast limit
      linarith
    · intro bounded
      have low : (2 ^ 52 - 1 : ℤ) < r := by
        exact_mod_cast (show ((2 ^ 52 - 1 : ℤ) : ℚ) < r by push_cast; linarith)
      have high : r ≤ 2 ^ 52 + 1 := by
        exact_mod_cast (show (r : ℚ) ≤ ((2 ^ 52 + 1 : ℤ) : ℚ) by push_cast; linarith)
      have notNext : r ≠ 2 ^ 52 + 1 := by
        rintro rfl
        have tie : 2 * |q - x| = 2048 := by
          refine le_antisymm close ?_
          push_cast at value
          linarith [neg_abs_le (q - x)]
        exact absurd (even tie) (by decide)
      rw [floor]
      omega

theorem not_isSigned_truncate_iff (negative : Bool) (nonneg : 0 ≤ q) :
    ¬ IsSigned (truncate (signed negative q)) ↔
      2 ^ 63 ≤ ⌊q⌋ ∧ (negative = true → ⌊q⌋ ≠ 2 ^ 63) := by
  have floor : 0 ≤ ⌊q⌋ := Int.floor_nonneg.mpr nonneg
  rw [truncate_signed negative nonneg]
  cases negative with
  | false =>
      simp only [IsSigned, Bool.false_eq_true, if_false, false_imp_iff, and_true]
      omega
  | true =>
      simp only [IsSigned, if_true, true_imp_iff]
      omega

/-- Where the number and what it is rounded to both lose their fraction part and are out of
range. -/
theorem IsRounded.not_isSigned_iff (negative : Bool) (nonneg : 0 ≤ q) (rounded : IsRounded q x) :
    ¬ IsSigned (truncate (signed negative x)) ∧ ¬ IsSigned (truncate (signed negative q)) ↔
      2 ^ 63 ≤ signed negative q ∨ signed negative q < -(2 ^ 63 + 1024) := by
  have nonnegX := rounded.nonneg nonneg
  have floor : 2 ^ 63 ≤ ⌊q⌋ ↔ 2 ^ 63 ≤ q := by
    rw [Int.le_floor]
    push_cast
    rfl
  rw [not_isSigned_truncate_iff negative nonnegX, not_isSigned_truncate_iff negative nonneg, floor]
  cases negative with
  | false =>
      have notNegative : ¬ signed false q < -(2 ^ 63 + 1024) := by
        rw [signed, if_neg Bool.false_ne_true]
        linarith
      rw [or_iff_left notNegative]
      exact ⟨fun both => both.2.1,
        fun large => ⟨⟨rounded.floor_ge nonneg large, nofun⟩, large, nofun⟩⟩
  | true =>
      have notPositive : ¬ 2 ^ 63 ≤ signed true q := by
        rw [signed, if_pos rfl]
        linarith
      rw [or_iff_right notPositive, signed, if_pos rfl, neg_lt_neg_iff]
      constructor
      · rintro ⟨⟨-, notLimit⟩, large, -⟩
        exact not_le.mp (notLimit rfl ∘ (rounded.floor_eq_limit_iff large).mpr)
      · intro far
        have large : 2 ^ 63 ≤ q := by linarith
        have beyond : 2 ^ 63 + 1 ≤ ⌊q⌋ := Int.le_floor.mpr (by push_cast; linarith)
        refine ⟨⟨rounded.floor_ge nonneg large, fun _ limit => ?_⟩, large, fun _ => by omega⟩
        exact not_le.mpr far ((rounded.floor_eq_limit_iff large).mp limit)

/-- Just below the least integer of 64 bits, a number is rounded to it. -/
theorem IsRounded.truncate_eq_limit (negative : Bool) (nonneg : 0 ≤ q) (rounded : IsRounded q x)
    (low : -(2 ^ 63 + 1024) ≤ signed negative q) (high : signed negative q < -2 ^ 63) :
    truncate (signed negative x) = -2 ^ 63 := by
  cases negative with
  | false =>
      rw [signed, if_neg Bool.false_ne_true] at high
      linarith
  | true =>
      rw [signed, if_pos rfl] at low high
      have large : 2 ^ 63 ≤ q := by linarith
      have limit := (rounded.floor_eq_limit_iff large).mpr (by linarith)
      rw [truncate_signed true (rounded.nonneg nonneg), limit]
      rfl

end ResourceEditor.Decimal
