import ResourceEditor.Proofs.Decimal.Spelling
import ResourceEditor.Proofs.Decimal.Truncation
import ResourceEditor.Value.Basic
/-
This file shows which number a typed text becomes. An integer of 64 bits is taken as it is spelled,
so that a number is read back from its own text. Any other numeral is rounded to a double before its
fraction part is dropped.
-/

namespace ResourceEditor.Number

open Decimal

/-! Integers of 64 bits. -/

theorem isSigned_toInt (n : Int64) : IsSigned n.toInt :=
  ⟨Int64.le_toInt n, Int64.toInt_lt n⟩

theorem readExact_of_spellsInteger {text : List Char} {n : Int64}
    (spelled : SpellsInteger text n.toInt) : readExact text = some n := by
  rw [readExact, spelled.readInt, Option.filter_some, if_pos (decide_eq_true (isSigned_toInt n)),
    Option.map_some, Int64.ofInt_toInt]

theorem coerce_of_spellsInteger {raw : String} {text : List Char} {n : Int64}
    (padded : Pads text raw.toList) (spelled : SpellsInteger text n.toInt) :
    coerce raw = .int n := by
  rw [coerce, padded.trimChars spelled.isBlank]
  simp only [readExact_of_spellsInteger spelled]

theorem coerce_toString (n : Int64) : coerce (toString n.toInt) = .int n :=
  coerce_of_spellsInteger (.refl _) (spellsInteger_toString n.toInt)

/-- An integer of 64 bits is read from each of its spellings, with blank characters around it or
without, and what was read is read again from its text. -/
theorem coerce_exact :
    (∀ (n : Int64) (raw : String) (text : List Char), Pads text raw.toList →
        SpellsInteger text n.toInt → coerce raw = .int n) ∧
      ∀ raw : String, coerce ((Value.number (coerce raw)).text?.getD "NaN") = coerce raw := by
  refine ⟨fun n raw text padded spelled => coerce_of_spellsInteger padded spelled, fun raw => ?_⟩
  cases coerce raw with
  | int n => exact coerce_toString n
  | notANumber => decide

/-- The least integer, with zeros in front and blank characters around it; and a text that loses its
fraction part once. -/
theorem coerce_exact_least :
    coerce " -009223372036854775808\n" = .int Int64.minValue ∧
      coerce ((Value.number (coerce "-2.75")).text?.getD "NaN") = coerce "-2.75" := by
  have padded : Pads "-009223372036854775808".toList " -009223372036854775808\n".toList :=
    ⟨[' '], ['\n'], rfl, List.forall_mem_singleton.mpr rfl, List.forall_mem_singleton.mpr rfl⟩
  have spelled : SpellsInteger "-009223372036854775808".toList Int64.minValue.toInt :=
    ⟨['-'], 2, by decide, .inr ⟨rfl, by decide⟩⟩
  exact ⟨coerce_exact.1 Int64.minValue _ _ padded spelled, coerce_exact.2 "-2.75"⟩

/-! Other numerals. -/

theorem ofInt_of_signed {value : Int} (isSigned : IsSigned value) :
    ofInt value = .int (Int64.ofInt value) :=
  if_pos isSigned

theorem ofInt_of_not_signed {value : Int} (out : ¬ IsSigned value) : ofInt value = .notANumber :=
  if_neg out

theorem ofInt_eq_iff (a b : Int) :
    ofInt a = ofInt b ↔ a = b ∨ ¬ IsSigned a ∧ ¬ IsSigned b := by
  by_cases insideA : IsSigned a <;> by_cases insideB : IsSigned b
  · rw [ofInt_of_signed insideA, ofInt_of_signed insideB, int.injEq]
    refine ⟨fun same => .inl ?_, ?_⟩
    · rw [← Int64.toInt_ofInt_of_le insideA.1 insideA.2, same,
        Int64.toInt_ofInt_of_le insideB.1 insideB.2]
    · rintro (rfl | ⟨outA, -⟩)
      · rfl
      · exact absurd insideA outA
  · rw [ofInt_of_signed insideA, ofInt_of_not_signed insideB]
    refine iff_of_false nofun ?_
    rintro (rfl | ⟨outA, -⟩)
    · exact insideB insideA
    · exact outA insideA
  · rw [ofInt_of_not_signed insideA, ofInt_of_signed insideB]
    refine iff_of_false nofun ?_
    rintro (rfl | ⟨-, outB⟩)
    · exact insideA insideB
    · exact outB insideB
  · rw [ofInt_of_not_signed insideA, ofInt_of_not_signed insideB]
    exact iff_of_true rfl (.inr ⟨insideA, insideB⟩)

/-- A numeral that is no integer of 64 bits is not taken exactly. -/
theorem readExact_eq_none {text : List Char} {numeral : Numeral}
    (spelled : SpellsNumeral text numeral)
    (outside : ∀ n : Int, IsSigned n → numeral.value ≠ n) : readExact text = none := by
  rw [readExact]
  rcases spelled.readInt with unread | ⟨scale, read⟩
  · rw [unread]
    rfl
  · have value : numeral.value =
        ((if numeral.negative then -(numeral.digits : Int) else numeral.digits : Int) : ℚ) := by
      rw [Numeral.value, Numeral.magnitude, scale, zpow_zero, mul_one, signed]
      split <;> push_cast <;> rfl
    rw [read, Option.filter_some, if_neg, Option.map_none]
    rw [decide_eq_true_eq]
    exact fun isSigned => outside _ isSigned value

/-- The numeral is rounded, and what was rounded loses its fraction part. -/
theorem coerce_of_spellsNumeral {raw : String} {text : List Char} {numeral : Numeral}
    (padded : Pads text raw.toList) (spelled : SpellsNumeral text numeral)
    (outside : ∀ n : Int, IsSigned n → numeral.value ≠ n) :
    ∃ x, IsRounded numeral.magnitude x ∧
      coerce raw = ofInt (truncate (signed numeral.negative x)) := by
  obtain ⟨x, rounded, represents⟩ := numeral.nearest_represents
  refine ⟨x, rounded, ?_⟩
  rw [coerce, padded.trimChars spelled.isBlank, readExact_eq_none spelled outside,
    spelled.readNumeral]
  simp only [Option.bind_some]
  have nonneg : 0 ≤ numeral.magnitude := numeral.magnitude_nonneg
  generalize numeral.nearest = result at represents
  cases represents with
  | double value => exact congrArg ofInt ((Binary64.truncate_eq _).trans (congrArg truncate value))
  | tooLarge large =>
      have nonnegX := rounded.nonneg nonneg
      have beyond : 2 ^ 64 ≤ ⌊x⌋ := by
        have below : (2 : ℚ) ^ (64 : ℤ) ≤ 2 ^ (1024 : ℤ) :=
          zpow_le_zpow_right₀ (by norm_num) (by norm_num)
        exact Int.le_floor.mpr (by exact_mod_cast below.trans large)
      refine (ofInt_of_not_signed ?_).symm
      exact (not_isSigned_truncate_iff numeral.negative nonnegX).mpr ⟨by omega, fun _ => by omega⟩

/-! Which numerals lose just their fraction part. -/

/-- A numeral that is no integer of 64 bits is read as the nearest double without its fraction part.
This is the number without its fraction part just where rounding leaves the whole part as it is and
where the number is out of range; the integers right below the range are read as its least one. -/
theorem coerce_rounds {raw : String} {text : List Char} {numeral : Numeral}
    (padded : Pads text raw.toList) (spelled : SpellsNumeral text numeral)
    (outside : ∀ n : Int, IsSigned n → numeral.value ≠ n) :
    (∃ x, IsNearest numeral.value x) ∧
      (∀ x, IsNearest numeral.value x → coerce raw = ofInt (truncate x)) ∧
      (coerce raw = ofInt (truncate numeral.value) ↔
        KeepsWhole |numeral.value| ∨ 2 ^ 63 ≤ numeral.value ∨
          numeral.value < -(2 ^ 63 + 1024)) ∧
      ∀ n : Int, numeral.value = n →
        coerce raw = if -(2 ^ 63 + 1024) ≤ n ∧ n < -2 ^ 63 then .int Int64.minValue
          else .notANumber := by
  obtain ⟨x, rounded, read⟩ := coerce_of_spellsNumeral padded spelled outside
  have nonneg := numeral.magnitude_nonneg
  have nonnegX := rounded.nonneg nonneg
  have limits := rounded.not_isSigned_iff numeral.negative nonneg
  have nearest : IsNearest numeral.value (signed numeral.negative x) :=
    (rounded.isNearest nonneg).signed numeral.negative
  refine ⟨⟨_, nearest⟩, fun other isNearest => ?_, ?_, fun n value => ?_⟩
  · rw [isNearest.unique nearest, read]
  · rw [read, ofInt_eq_iff, Numeral.value, abs_signed numeral.negative nonneg,
      ← rounded.floor_eq_iff, truncate_signed_inj numeral.negative nonneg nonnegX, limits]
  · have out : ¬ IsSigned n := fun isSigned => outside n isSigned value
    rw [Numeral.value] at value
    rw [value] at limits
    rw [read]
    split
    next justBelow =>
      have low : -(2 ^ 63 + 1024) ≤ signed numeral.negative numeral.magnitude := by
        rw [value]
        exact_mod_cast justBelow.1
      have high : signed numeral.negative numeral.magnitude < -2 ^ 63 := by
        rw [value]
        exact_mod_cast justBelow.2
      rw [rounded.truncate_eq_limit numeral.negative nonneg low high]
      rfl
    next other =>
      refine ofInt_of_not_signed (limits.mpr ?_).1
      have far : 2 ^ 63 ≤ n ∨ n < -(2 ^ 63 + 1024) := by omega
      exact_mod_cast far

/-- A numeral that is a double loses its fraction part and nothing else. -/
theorem coerce_rounds_quarters :
    ∃ x, IsNearest (Numeral.value ⟨true, 275, -2⟩) x ∧ coerce " -2.75" = ofInt (truncate x) := by
  have padded : Pads "-2.75".toList " -2.75".toList :=
    ⟨[' '], [], rfl, List.forall_mem_singleton.mpr rfl, nofun⟩
  have spelled : SpellsNumeral "-2.75".toList ⟨true, 275, -2⟩ :=
    ⟨['-'], ['2'], ['.'], ['7', '5'], rfl, .minus, areDigits_of_all rfl, areDigits_of_all rfl,
      nofun, .inr rfl, rfl, rfl⟩
  have outside (n : Int) (_ : IsSigned n) : Numeral.value ⟨true, 275, -2⟩ ≠ n := by
    have quarters : Numeral.value ⟨true, 275, -2⟩ = -11 / 4 := by
      norm_num [Numeral.value, Numeral.magnitude, signed]
    rw [quarters, Ne, div_eq_iff (by decide)]
    intro integral
    have : -11 = n * 4 := by exact_mod_cast integral
    omega
  obtain ⟨⟨x, isNearest⟩, rounds, -⟩ := coerce_rounds padded spelled outside
  exact ⟨x, isNearest, rounds x isNearest⟩

/-- A number just below one is rounded up to it. -/
theorem coerce_not_truncate :
    ¬ ∀ (raw : String) (text : List Char) (numeral : Numeral), Pads text raw.toList →
        SpellsNumeral text numeral → (∀ n : Int, IsSigned n → numeral.value ≠ n) →
        coerce raw = ofInt (truncate numeral.value) := by
  intro exact
  have spelled : SpellsNumeral "0.99999999999999999".toList ⟨false, 99999999999999999, -17⟩ :=
    ⟨[], ['0'], ['.'], List.replicate 17 '9', rfl, .none, areDigits_of_all rfl,
      areDigits_of_all rfl, nofun, .inr rfl, rfl, rfl⟩
  have value : Numeral.value ⟨false, 99999999999999999, -17⟩ = 1 - 1 / 10 ^ 17 := by
    norm_num [Numeral.value, Numeral.magnitude, signed]
  have positive : (0 : ℚ) < 1 - 1 / 10 ^ 17 := by norm_num
  have lessThanOne : (1 - 1 / 10 ^ 17 : ℚ) < 1 := by norm_num
  have between (n : Int) : (1 - 1 / 10 ^ 17 : ℚ) ≠ n := by
    intro integral
    rw [integral] at positive lessThanOne
    have low : 0 < n := by exact_mod_cast positive
    have high : n < 1 := by exact_mod_cast lessThanOne
    omega
  have truncated : truncate (1 - 1 / 10 ^ 17) = 0 :=
    (if_pos positive.le).trans (Int.floor_eq_zero_iff.mpr ⟨positive.le, lessThanOne⟩)
  have read := exact _ _ _ (.refl _) spelled fun n _ => value ▸ between n
  rw [value, truncated] at read
  exact absurd read (by decide)

end ResourceEditor.Number
