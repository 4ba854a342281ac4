import Mathlib.Data.List.TakeDrop
import Mathlib.Data.List.TakeWhile
import ResourceEditor.Decimal.Numeral
import ResourceEditor.Text.Blank
/-
This file tells which texts spell digits, integers and decimal numerals, and shows what is read
from them.
-/

namespace ResourceEditor.Decimal

/-- A plus, a minus or nothing, and whether it is a minus. -/
inductive SpellsSign : List Char → Bool → Prop where
  | none : SpellsSign [] false
  | plus : SpellsSign ['+'] false
  | minus : SpellsSign ['-'] true

def AreDigits (text : List Char) : Prop := ∀ c ∈ text, '0' ≤ c ∧ c ≤ '9'

/-- A sign, zeros and the digits of the magnitude. A minus is for integers that are not positive, a
plus or no sign for those that are not negative. -/
def SpellsInteger (text : List Char) (n : Int) : Prop :=
  ∃ sign zeros, text = sign ++ List.replicate zeros '0' ++ Nat.toDigits 10 n.natAbs ∧
    ((sign = [] ∨ sign = ['+']) ∧ 0 ≤ n ∨ sign = ['-'] ∧ n ≤ 0)

/-- A sign, digits, and possibly a point with digits after it, where the digits on either side of a
point can be left out but not those on both. -/
def SpellsNumeral (text : List Char) (numeral : Numeral) : Prop :=
  ∃ sign whole point fraction, text = sign ++ (whole ++ (point ++ fraction)) ∧
    SpellsSign sign numeral.negative ∧ AreDigits whole ∧ AreDigits fraction ∧
    whole ++ fraction ≠ [] ∧ (point = [] ∧ fraction = [] ∨ point = ['.']) ∧
    numeral.digits = Nat.ofDigitChars 10 (whole ++ fraction) 0 ∧
    numeral.scale = -(fraction.length : Int)

/-- The text with blank characters before it and after it. -/
def Pads (text raw : List Char) : Prop :=
  ∃ before after, raw = before ++ text ++ after ∧ (∀ c ∈ before, Text.isBlank c = true) ∧
    ∀ c ∈ after, Text.isBlank c = true

/-! Digits. -/

/-- A word ends where its characters end. -/
theorem span_append {inside : Char → Bool} {word : List Char}
    (all : ∀ c ∈ word, inside c = true) (rest : List Char)
    (ends : ∀ c ∈ rest.head?, inside c = false) :
    (word ++ rest).span inside = (word, rest) := by
  rw [List.span_eq_takeWhile_dropWhile, List.takeWhile_append_of_pos all,
    List.dropWhile_append_of_pos all]
  cases rest with
  | nil => rw [List.takeWhile_nil, List.dropWhile_nil, List.append_nil]
  | cons c rest =>
      have outside := ends c rfl
      simp [outside]

theorem areDigits_iff (text : List Char) : AreDigits text ↔ ∀ c ∈ text, isDigit c = true := by
  simp [AreDigits, isDigit]

theorem areDigits_of_all {text : List Char} (all : text.all isDigit = true) : AreDigits text :=
  (areDigits_iff text).mpr (List.all_eq_true.mp all)

theorem areDigits_append (first second : List Char) :
    AreDigits (first ++ second) ↔ AreDigits first ∧ AreDigits second :=
  List.forall_mem_append

theorem isDigit_of_mem_toDigits {n : Nat} (c : Char) (member : c ∈ Nat.toDigits 10 n) :
    c.isDigit = true :=
  Nat.isDigit_of_mem_toDigits (by decide) (by decide) member

theorem areDigits_toDigits (n : Nat) : AreDigits (Nat.toDigits 10 n) := by
  refine (areDigits_iff _).mpr fun c member => ?_
  rw [isDigit_eq]
  exact isDigit_of_mem_toDigits c member

theorem areDigits_replicate_zero (count : Nat) : AreDigits (List.replicate count '0') := by
  intro c member
  obtain rfl := List.eq_of_mem_replicate member
  decide

theorem ofDigits_eq (text : List Char) : ofDigits text = Nat.ofDigitChars 10 text 0 := rfl

/-- Zeros in front do not count. -/
theorem ofDigits_replicate_zero_append (count : Nat) (text : List Char) :
    ofDigits (List.replicate count '0' ++ text) = ofDigits text := by
  have zeros : ofDigits (List.replicate count '0') = 0 := by
    induction count with
    | zero => rfl
    | succ count ih => exact ih
  rw [ofDigits_eq] at zeros
  rw [ofDigits_eq, Nat.ofDigitChars_append, zeros, ofDigits_eq]

theorem readDigits_eq_some_iff {text : List Char} {n : Nat} :
    readDigits text = some n ↔
      text ≠ [] ∧ (∀ c ∈ text, '0' ≤ c ∧ c ≤ '9') ∧ n = Nat.ofDigitChars 10 text 0 := by
  have checked : (text.isEmpty || !text.all isDigit) = false ↔
      text ≠ [] ∧ ∀ c ∈ text, '0' ≤ c ∧ c ≤ '9' := by
    simp [isDigit]
  rw [← and_assoc, ← checked, readDigits]
  split
  next fails => simp [fails]
  next holds => simp [holds, ofDigits, Nat.ofDigitChars, digitValue, eq_comm]

/-- A character other than a digit makes the text unreadable as digits. -/
theorem readDigits_eq_none {text : List Char} {c : Char} (member : c ∈ text)
    (other : isDigit c = false) : readDigits text = none := by
  rw [Option.eq_none_iff_forall_ne_some]
  intro n read
  have digit := (areDigits_iff text).mp (readDigits_eq_some_iff.mp read).2.1 c member
  rw [other] at digit
  exact Bool.false_ne_true digit

/-! Signs. -/

/-- A sign is taken off a text that has no sign of its own in front. -/
theorem splitSign_append {sign rest : List Char} {negative : Bool}
    (signed : SpellsSign sign negative) (noPlus : rest.head? ≠ some '+')
    (noMinus : rest.head? ≠ some '-') :
    splitSign (sign ++ rest) = (negative, rest) := by
  cases signed with
  | plus => rfl
  | minus => rfl
  | none =>
      rw [List.nil_append]
      unfold splitSign
      split
      · exact absurd rfl noMinus
      · exact absurd rfl noPlus
      · rfl

theorem AreDigits.splitSign {sign digits : List Char} {negative : Bool}
    (areDigits : AreDigits digits) (signed : SpellsSign sign negative) :
    splitSign (sign ++ digits) = (negative, digits) := by
  have noSign {c : Char} (other : ¬ ('0' ≤ c ∧ c ≤ '9')) : digits.head? ≠ some c := fun first =>
    other (areDigits c (List.mem_of_head? first))
  exact splitSign_append signed (noSign (by decide)) (noSign (by decide))

/-! Integers. -/

theorem AreDigits.readInt {sign digits : List Char} {negative : Bool} (areDigits : AreDigits digits)
    (signed : SpellsSign sign negative) (nonempty : digits ≠ []) :
    readInt (sign ++ digits) =
      some (if negative then -(ofDigits digits : Int) else (ofDigits digits : Int)) := by
  have read : readDigits digits = some (ofDigits digits) :=
    readDigits_eq_some_iff.mpr ⟨nonempty, areDigits, rfl⟩
  rw [Decimal.readInt, areDigits.splitSign signed]
  simp only [read]
  cases negative <;> rfl

/-- An integer is read from each of its spellings. -/
theorem SpellsInteger.readInt {text : List Char} {n : Int} (spelled : SpellsInteger text n) :
    readInt text = some n := by
  obtain ⟨sign, zeros, rfl, signs⟩ := spelled
  have areDigits : AreDigits (List.replicate zeros '0' ++ Nat.toDigits 10 n.natAbs) :=
    (areDigits_append _ _).mpr ⟨areDigits_replicate_zero zeros, areDigits_toDigits n.natAbs⟩
  have nonempty : List.replicate zeros '0' ++ Nat.toDigits 10 n.natAbs ≠ [] :=
    List.append_ne_nil_of_right_ne_nil _ Nat.toDigits_ne_nil
  have value : ofDigits (List.replicate zeros '0' ++ Nat.toDigits 10 n.natAbs) = n.natAbs := by
    rw [ofDigits_replicate_zero_append, ofDigits_toDigits]
  rw [List.append_assoc]
  rcases signs with ⟨rfl | rfl, atLeast⟩ | ⟨rfl, atMost⟩
  · rw [areDigits.readInt .none nonempty, value, if_neg Bool.false_ne_true,
      Int.natAbs_of_nonneg atLeast]
  · rw [areDigits.readInt .plus nonempty, value, if_neg Bool.false_ne_true,
      Int.natAbs_of_nonneg atLeast]
  · rw [areDigits.readInt .minus nonempty, value, if_pos rfl, Int.ofNat_natAbs_of_nonpos atMost,
      Int.neg_neg]

/-- An integer is printed as one of its spellings. -/
theorem spellsInteger_toString (n : Int) : SpellsInteger (toString n).toList n := by
  cases n with
  | ofNat n =>
      refine ⟨[], 0, ?_, .inl ⟨.inl rfl, Int.natCast_nonneg n⟩⟩
      exact Nat.toList_repr
  | negSucc n =>
      refine ⟨['-'], 0, ?_, .inr ⟨rfl, Int.le_of_lt (Int.negSucc_lt_zero n)⟩⟩
      rw [show toString (Int.negSucc n) = "-" ++ (n + 1).repr from rfl, String.toList_append,
        Nat.toList_repr]
      rfl

/-! Numerals. -/

/-- The digits and the point come after the sign. -/
theorem splitSign_numeral {sign whole point fraction : List Char} {negative : Bool}
    (signed : SpellsSign sign negative) (areDigits : AreDigits whole)
    (points : point = [] ∧ fraction = [] ∨ point = ['.']) :
    splitSign (sign ++ (whole ++ (point ++ fraction))) =
      (negative, whole ++ (point ++ fraction)) := by
  have first (c : Char) (begins : (whole ++ (point ++ fraction)).head? = some c) :
      ('0' ≤ c ∧ c ≤ '9') ∨ c = '.' := by
    cases whole with
    | cons digit whole =>
        obtain rfl : digit = c := Option.some.inj begins
        exact .inl (areDigits digit List.mem_cons_self)
    | nil =>
        rcases points with ⟨rfl, rfl⟩ | rfl
        · cases begins
        · exact .inr (Option.some.inj begins).symm
  refine splitSign_append signed (fun begins => ?_) fun begins => ?_
  · exact absurd (first _ begins) (by decide)
  · exact absurd (first _ begins) (by decide)

/-- A numeral is read from each of its spellings. -/
theorem SpellsNumeral.readNumeral {text : List Char} {numeral : Numeral}
    (spelled : SpellsNumeral text numeral) : readNumeral text = some numeral := by
  obtain ⟨sign, whole, point, fraction, rfl, signed, wholeDigits, fractionDigits, nonempty, points,
    digits, scale⟩ := spelled
  have last : (fraction ++ []).span isDigit = (fraction, []) :=
    span_append ((areDigits_iff fraction).mp fractionDigits) [] nofun
  rw [List.append_nil] at last
  have first : (whole ++ (point ++ fraction)).span isDigit = (whole, point ++ fraction) := by
    refine span_append ((areDigits_iff whole).mp wholeDigits) _ fun c begins => ?_
    rcases points with ⟨rfl, rfl⟩ | rfl
    · cases begins
    · obtain rfl : '.' = c := Option.some.inj begins
      rfl
  have present : (whole.isEmpty && fraction.isEmpty) = false := by
    simpa using nonempty
  rw [Decimal.readNumeral, splitSign_numeral signed wholeDigits points]
  simp only [first]
  obtain ⟨negative, value, exponent⟩ := numeral
  obtain rfl : value = _ := digits
  obtain rfl : exponent = _ := scale
  rcases points with ⟨rfl, rfl⟩ | rfl
  · simp only [List.append_nil, present]
    rfl
  · simp only [List.cons_append, List.nil_append, last, present]
    rw [if_neg Bool.false_ne_true, readExponent, Option.map_some, Int.zero_sub]
    rfl

/-- A text with a point is no integer, and the integer that a text without one spells is the
numeral. -/
theorem SpellsNumeral.readInt {text : List Char} {numeral : Numeral}
    (spelled : SpellsNumeral text numeral) :
    readInt text = none ∨ numeral.scale = 0 ∧ readInt text =
      some (if numeral.negative then -(numeral.digits : Int) else (numeral.digits : Int)) := by
  obtain ⟨sign, whole, point, fraction, rfl, signed, wholeDigits, fractionDigits, nonempty, points,
    digits, scale⟩ := spelled
  rcases id points with ⟨rfl, rfl⟩ | rfl
  · rw [List.append_nil] at nonempty digits
    rw [List.append_nil, List.append_nil, wholeDigits.readInt signed nonempty, ofDigits_eq,
      ← digits]
    exact .inr ⟨scale, rfl⟩
  · have unread : readDigits (whole ++ (['.'] ++ fraction)) = none :=
      readDigits_eq_none (List.mem_append_right whole List.mem_cons_self) rfl
    rw [Decimal.readInt, splitSign_numeral signed wholeDigits points]
    simp only [unread]
    exact .inl rfl

/-! Blank characters around a text. -/

theorem isBlank_of_digit {c : Char} (digit : '0' ≤ c ∧ c ≤ '9') : Text.isBlank c = false := by
  have low := UInt32.le_iff_toNat_le.mp (Char.le_def.mp digit.1)
  have high := UInt32.le_iff_toNat_le.mp (Char.le_def.mp digit.2)
  exact Text.isBlank_of_visible
    ⟨Nat.lt_of_lt_of_le (by decide) low, Nat.lt_of_le_of_lt high (by decide)⟩

theorem SpellsSign.isBlank {sign : List Char} {negative : Bool}
    (signed : SpellsSign sign negative) : ∀ c ∈ sign, Text.isBlank c = false := by
  cases signed with
  | none => exact nofun
  | plus => exact List.forall_mem_singleton.mpr rfl
  | minus => exact List.forall_mem_singleton.mpr rfl

theorem Pads.refl (text : List Char) : Pads text text :=
  ⟨[], [], (List.append_nil text).symm, nofun, nofun⟩

theorem Pads.trimChars {text raw : List Char} (pads : Pads text raw)
    (solid : ∀ c ∈ text, Text.isBlank c = false) : Text.trimChars raw = text := by
  obtain ⟨before, after, rfl, blankBefore, blankAfter⟩ := pads
  exact Text.trimChars_append blankBefore blankAfter solid

theorem AreDigits.isBlank {text : List Char} (areDigits : AreDigits text) :
    ∀ c ∈ text, Text.isBlank c = false :=
  fun c member => isBlank_of_digit (areDigits c member)

theorem SpellsNumeral.isBlank {text : List Char} {numeral : Numeral}
    (spelled : SpellsNumeral text numeral) : ∀ c ∈ text, Text.isBlank c = false := by
  obtain ⟨sign, whole, point, fraction, rfl, signed, wholeDigits, fractionDigits, -, points, -⟩ :=
    spelled
  have pointSolid : ∀ c ∈ point, Text.isBlank c = false := by
    rcases points with ⟨rfl, -⟩ | rfl
    · exact nofun
    · exact List.forall_mem_singleton.mpr rfl
  simp only [List.forall_mem_append]
  exact ⟨signed.isBlank, wholeDigits.isBlank, pointSolid, fractionDigits.isBlank⟩

theorem SpellsInteger.isBlank {text : List Char} {n : Int} (spelled : SpellsInteger text n) :
    ∀ c ∈ text, Text.isBlank c = false := by
  obtain ⟨sign, zeros, rfl, signs⟩ := spelled
  have signed : ∃ negative, SpellsSign sign negative := by
    rcases signs with ⟨rfl | rfl, -⟩ | ⟨rfl, -⟩
    · exact ⟨_, .none⟩
    · exact ⟨_, .plus⟩
    · exact ⟨_, .minus⟩
  obtain ⟨negative, signed⟩ := signed
  simp only [List.forall_mem_append]
  exact ⟨⟨signed.isBlank, (areDigits_replicate_zero zeros).isBlank⟩,
    (areDigits_toDigits n.natAbs).isBlank⟩

end ResourceEditor.Decimal
