import Mathlib.Data.List.Chain
import ResourceEditor.Text.Normal
import ResourceEditor.Text.Ranges
/-
This file says how characters are taken apart and composed.
-/

namespace ResourceEditor.Text

/-! The table of compositions. -/

/-- Code points as the bits of a number. -/
def bits (codes : List Nat) : Nat := codes.foldr (fun code set => 1 <<< code ||| set) 0

theorem testBit_bits {codes : List Nat} {code : Nat} :
    (bits codes).testBit code = true ↔ code ∈ codes := by
  induction codes with
  | nil => simp [bits]
  | cons other codes ih =>
      rw [bits, List.foldr_cons, ← bits, Nat.testBit_or, Bool.or_eq_true, ih, Nat.one_shiftLeft,
        Nat.testBit_two_pow, decide_eq_true_eq, List.mem_cons, eq_comm]

/-- The bits of all code points in some ranges. -/
def Ranges.bits (ranges : Ranges) : Nat :=
  ranges.foldr (fun range set => (1 <<< (range.2 + 1 - range.1) - 1) <<< range.1 ||| set) 0

theorem Ranges.testBit_bits {ranges : Ranges} {code : Nat} :
    ranges.bits.testBit code = true ↔ ∃ range ∈ ranges, range.1 ≤ code ∧ code ≤ range.2 := by
  induction ranges with
  | nil => simp [bits]
  | cons range ranges ih =>
      rw [bits, List.foldr_cons, ← bits, Nat.testBit_or, Bool.or_eq_true, ih,
        Nat.testBit_shiftLeft, Nat.one_shiftLeft, Nat.testBit_two_pow_sub_one, Bool.and_eq_true,
        decide_eq_true_eq, decide_eq_true_eq]
      simp only [List.mem_cons, exists_eq_or_imp]
      refine or_congr_left (and_congr_right fun above => ?_)
      omega

theorem toNat_ofNat {code : Nat} (valid : code.isValidChar) : (Char.ofNat code).toNat = code := by
  rw [Char.ofNat, dif_pos valid]
  rfl

/-- The characters that are compositions. -/
def wholeBits : Nat := bits (composites.map Composite.whole)

/-- The compositions with so many compositions inside. -/
def deepBits : Nat → Nat
  | 0 => wholeBits
  | depth + 1 =>
      bits ((composites.filter fun composite => (deepBits depth).testBit composite.first).map
        Composite.whole)

/-- The marks. -/
def classBits : Nat := Ranges.bits (classRuns.map fun run => (run.first, run.last))

/-- What the compositions have in common. -/
structure Composite.Regular (composite : Composite) : Prop where
  valid : composite.whole.isValidChar ∧ composite.first.isValidChar ∧ composite.second.isValidChar
  noSyllable : (composite.whole < 0xAC00 ∨ 0xD7A3 < composite.whole) ∧
    (composite.first < 0xAC00 ∨ 0xD7A3 < composite.first) ∧
    (composite.second < 0xAC00 ∨ 0xD7A3 < composite.second)
  noLetter : composite.whole < 0x1100 ∨ 0x11FF < composite.whole
  single : wholeBits.testBit composite.second = false
  starts : classBits.testBit composite.first = false
  foreign : 128 ≤ composite.whole ∧ 128 ≤ composite.second
  noPoint : composite.first ≠ 0x2E

instance (composite : Composite) : Decidable composite.Regular :=
  decidable_of_iff (_ ∧ _ ∧ _ ∧ _ ∧ _ ∧ _ ∧ _)
    ⟨fun ⟨valid, noSyllable, noLetter, single, starts, foreign, noPoint⟩ =>
      ⟨valid, noSyllable, noLetter, single, starts, foreign, noPoint⟩,
    fun ⟨valid, noSyllable, noLetter, single, starts, foreign, noPoint⟩ =>
      ⟨valid, noSyllable, noLetter, single, starts, foreign, noPoint⟩⟩

theorem Composite.regular : ∀ composite ∈ composites, composite.Regular := by
  decide +kernel

theorem deepBits_eq_zero : deepBits 3 = 0 := by
  decide +kernel

theorem composites_rise : composites.IsChain (·.whole < ·.whole) := by
  decide +kernel

/-- A composition is found by its character. -/
theorem find_whole {composite : Composite} (member : composite ∈ composites) :
    composites.find? (·.whole == composite.whole) = some composite := by
  have rising := composites_rise.pairwise
  generalize composites = table at member rising
  induction table with
  | nil => cases member
  | cons other rest ih =>
      obtain ⟨first, rising⟩ := List.pairwise_cons.mp rising
      obtain rfl | member := List.mem_cons.mp member
      · exact List.find?_cons_of_pos (beq_self_eq_true _)
      · rw [List.find?_cons_of_neg]
        · exact ih member rising
        · rw [beq_iff_eq]
          exact Nat.ne_of_lt (first composite member)

theorem find_whole_eq_none {code : Nat} :
    composites.find? (·.whole == code) = none ↔ wholeBits.testBit code = false := by
  rw [List.find?_eq_none, ← Bool.not_eq_true, wholeBits, testBit_bits, List.mem_map]
  simp only [beq_iff_eq, not_exists, not_and]

/-- The first of two characters has one composition less inside. -/
theorem flat_first {depth : Nat} {c : Char} {composite : Composite}
    (flat : (deepBits (depth + 1)).testBit c.toNat = false)
    (found : composites.find? (·.whole == c.toNat) = some composite) :
    composite ∈ composites ∧
      (deepBits depth).testBit (Char.ofNat composite.first).toNat = false := by
  have member := List.mem_of_find?_eq_some found
  have whole : composite.whole = c.toNat := by
    simpa only [beq_iff_eq] using List.find?_some found
  refine ⟨member, ?_⟩
  rw [toNat_ofNat (composite.regular member).valid.2.1]
  refine eq_false_of_ne_true fun deep => ?_
  have deeper : (deepBits (depth + 1)).testBit composite.whole = true :=
    testBit_bits.mpr (List.mem_map_of_mem (List.mem_filter.mpr ⟨member, deep⟩))
  rw [whole, flat] at deeper
  cases deeper

/-- Where there are no deeper compositions, no more is taken apart. -/
theorem takeApart_succ {depth : Nat} {c : Char} (flat : (deepBits depth).testBit c.toNat = false) :
    takeApart (depth + 1) c = takeApart depth c := by
  induction depth generalizing c with
  | zero => rw [takeApart, takeApart, find_whole_eq_none.mpr flat]
  | succ depth ih =>
      rw [takeApart, takeApart]
      split
      next composite found => rw [ih (flat_first flat found).2]
      next => rfl

/-! Syllables. -/

namespace Syllable

theorem ofChar_eq_none {c : Char} (outside : c.toNat < 0xAC00 ∨ 0xD7A3 < c.toNat) :
    ofChar? c = none := by
  rw [ofChar?, if_neg]
  rw [Bool.and_eq_true, decide_eq_true_eq, decide_eq_true_eq]
  omega

/-- Whether there are such letters. -/
def IsProper (syllable : Syllable) : Prop :=
  syllable.consonant < 19 ∧ syllable.vowel < 21 ∧ syllable.final < 28

theorem toNat_toChar {syllable : Syllable} (proper : syllable.IsProper) :
    syllable.toChar.toNat =
      0xAC00 + 588 * syllable.consonant + 28 * syllable.vowel + syllable.final := by
  obtain ⟨consonant, vowel, final⟩ := proper
  exact toNat_ofNat (.inl (by omega))

theorem ofChar_toChar {syllable : Syllable} (proper : syllable.IsProper) :
    ofChar? syllable.toChar = some syllable := by
  have code := toNat_toChar proper
  obtain ⟨first, second, last⟩ := proper
  obtain ⟨consonant, vowel, final⟩ := syllable
  dsimp only at code first second last
  rw [ofChar?, code, if_pos]
  · rw [Option.some.injEq, mk.injEq]
    omega
  · rw [Bool.and_eq_true, decide_eq_true_eq, decide_eq_true_eq]
    omega

theorem isProper_of_ofChar {c : Char} {syllable : Syllable} (found : ofChar? c = some syllable) :
    syllable.IsProper := by
  rw [ofChar?] at found
  split at found
  next inside =>
    cases found
    rw [Bool.and_eq_true, decide_eq_true_eq, decide_eq_true_eq] at inside
    unfold IsProper
    dsimp only
    omega
  next => cases found

theorem isProper_of_join {first second : Char} {syllable : Syllable}
    (joined : join? first second = some syllable) : syllable.IsProper := by
  rw [join?] at joined
  split at joined
  next letters =>
    obtain rfl := Option.some.inj joined
    simp only [Bool.and_eq_true, decide_eq_true_eq] at letters
    unfold IsProper
    dsimp only
    omega
  next =>
    split at joined
    next consonant vowel opened =>
      split at joined
      next last =>
        obtain rfl := Option.some.inj joined
        simp only [Bool.and_eq_true, decide_eq_true_eq] at last
        obtain ⟨least, most, _⟩ := isProper_of_ofChar opened
        exact ⟨least, most, by dsimp only; omega⟩
      next => cases joined
    next => cases joined

/-- A letter of Hangul is no composition. -/
theorem single_letter {code : Nat} (letter : 0x1100 ≤ code ∧ code ≤ 0x11FF) :
    wholeBits.testBit code = false := by
  refine eq_false_of_ne_true fun whole => ?_
  obtain ⟨composite, member, rfl⟩ := List.mem_map.mp (testBit_bits.mp whole)
  have outside := (composite.regular member).noLetter
  omega

end Syllable

/-! Characters without compositions. -/

theorem decomposeChar_of_single {c : Char} (outside : c.toNat < 0xAC00 ∨ 0xD7A3 < c.toNat)
    (single : wholeBits.testBit c.toNat = false) : decomposeChar c = [c] := by
  rw [decomposeChar, Syllable.ofChar_eq_none outside]
  dsimp only
  rw [takeApart, find_whole_eq_none.mpr single]

theorem decomposeChar_letter {code : Nat} (letter : 0x1100 ≤ code ∧ code ≤ 0x11FF) :
    decomposeChar (Char.ofNat code) = [Char.ofNat code] := by
  have same : (Char.ofNat code).toNat = code := toNat_ofNat (.inl (by omega))
  exact decomposeChar_of_single (by omega) (by rw [same, Syllable.single_letter letter])

/-- Where a character is taken apart far enough, characters that stand for themselves are left. -/
theorem decomposeChar_of_mem_takeApart {depth : Nat} {c d : Char}
    (outside : c.toNat < 0xAC00 ∨ 0xD7A3 < c.toNat)
    (flat : (deepBits depth).testBit c.toNat = false) (member : d ∈ takeApart depth c) :
    decomposeChar d = [d] := by
  induction depth generalizing c with
  | zero =>
      cases List.mem_singleton.mp member
      exact decomposeChar_of_single outside flat
  | succ depth ih =>
      rw [takeApart] at member
      split at member
      next composite found =>
        obtain ⟨among, flat⟩ := flat_first flat found
        have regular := composite.regular among
        obtain ⟨_, first, second⟩ := regular.valid
        obtain ⟨_, before, after⟩ := regular.noSyllable
        have single := regular.single
        obtain member | member := List.mem_append.mp member
        · exact ih ((toNat_ofNat first).symm ▸ before) flat member
        · cases List.mem_singleton.mp member
          rw [← toNat_ofNat second] at after single
          exact decomposeChar_of_single after single
      next found =>
        cases List.mem_singleton.mp member
        exact decomposeChar_of_single outside (find_whole_eq_none.mp found)

theorem decomposeChar_of_syllable {c : Char} {syllable : Syllable}
    (found : Syllable.ofChar? c = some syllable) : decomposeChar c = syllable.letters := by
  rw [decomposeChar, found]

theorem decomposeChar_toChar {consonant vowel final : Nat} (first : consonant < 19)
    (second : vowel < 21) (last : final < 28) :
    decomposeChar (Syllable.mk consonant vowel final).toChar =
      Char.ofNat (0x1100 + consonant) :: Char.ofNat (0x1161 + vowel) ::
        if final = 0 then [] else [Char.ofNat (0x11A7 + final)] :=
  decomposeChar_of_syllable (Syllable.ofChar_toChar ⟨first, second, last⟩)

/-- All characters of a decomposition stand for themselves. -/
theorem decomposeChar_of_mem {c d : Char} (member : d ∈ decomposeChar c) :
    decomposeChar d = [d] := by
  rw [decomposeChar] at member
  split at member
  next syllable found =>
    obtain ⟨consonant, vowel, final⟩ := Syllable.isProper_of_ofChar found
    rw [Syllable.letters, List.mem_cons, List.mem_cons] at member
    obtain rfl | rfl | member := member
    · exact decomposeChar_letter (by omega)
    · exact decomposeChar_letter (by omega)
    · split at member
      · cases member
      · cases List.mem_singleton.mp member
        exact decomposeChar_letter (by omega)
  next found =>
    have outside : c.toNat < 0xAC00 ∨ 0xD7A3 < c.toNat := by
      by_contra inside
      rw [Syllable.ofChar?, if_pos] at found
      · cases found
      · rw [Bool.and_eq_true, decide_eq_true_eq, decide_eq_true_eq]
        omega
    refine decomposeChar_of_mem_takeApart outside ?_ member
    rw [deepBits_eq_zero, Nat.zero_testBit]

/-- Two letters that make up a syllable are what it is taken apart into. -/
theorem decomposeChar_join_syllable {first second : Char} {syllable : Syllable}
    (joined : Syllable.join? first second = some syllable) :
    decomposeChar syllable.toChar = decomposeChar first ++ [second] := by
  rw [Syllable.join?] at joined
  split at joined
  next letters =>
    obtain rfl := Option.some.inj joined
    simp only [Bool.and_eq_true, decide_eq_true_eq] at letters
    obtain ⟨⟨⟨low, high⟩, least⟩, most⟩ := letters
    have letter : 0x1100 ≤ first.toNat ∧ first.toNat ≤ 0x11FF := by omega
    have alone := decomposeChar_letter letter
    rw [Char.ofNat_toNat] at alone
    rw [alone, decomposeChar_toChar (by omega) (by omega) (by decide), Nat.add_sub_cancel' low,
      Nat.add_sub_cancel' least, Char.ofNat_toNat, Char.ofNat_toNat, if_pos rfl]
    rfl
  next =>
    split at joined
    next consonant vowel opened =>
      split at joined
      next last =>
        obtain rfl := Option.some.inj joined
        simp only [Bool.and_eq_true, decide_eq_true_eq] at last
        obtain ⟨least, most, _⟩ := Syllable.isProper_of_ofChar opened
        rw [decomposeChar_toChar least most (by omega), if_neg (by omega),
          Nat.add_sub_cancel' (by omega), Char.ofNat_toNat, decomposeChar_of_syllable opened,
          Syllable.letters, if_pos rfl]
        rfl
      next => cases joined
    next => cases joined

/-- A composition is taken apart into the two that it stands for. -/
theorem decomposeChar_join {first second whole : Char} (joined : join? first second = some whole) :
    decomposeChar whole = decomposeChar first ++ [second] := by
  rw [join?] at joined
  split at joined
  next syllable found =>
    obtain rfl := Option.some.inj joined
    exact decomposeChar_join_syllable found
  next =>
    obtain ⟨composite, found, rfl⟩ := Option.map_eq_some_iff.mp joined
    have among := List.mem_of_find?_eq_some found
    have same := List.find?_some found
    rw [Bool.and_eq_true, beq_iff_eq, beq_iff_eq] at same
    have valid := (composite.regular among).valid.1
    obtain ⟨outside, before, _⟩ := (composite.regular among).noSyllable
    have flat : (deepBits 3).testBit (Char.ofNat composite.whole).toNat = false := by
      rw [deepBits_eq_zero, Nat.zero_testBit]
    have whole : composites.find? (·.whole == (Char.ofNat composite.whole).toNat) =
        some composite := by
      rw [toNat_ofNat valid, find_whole among]
    have apart : takeApart 3 (Char.ofNat composite.whole) =
        takeApart 3 (Char.ofNat composite.first) ++ [Char.ofNat composite.second] := by
      rw [takeApart_succ (flat_first flat whole).2, takeApart, whole]
    rw [decomposeChar, Syllable.ofChar_eq_none ((toNat_ofNat valid).symm ▸ outside), decomposeChar,
      Syllable.ofChar_eq_none (same.1 ▸ before)]
    dsimp only
    rw [apart, same.1, same.2, Char.ofNat_toNat, Char.ofNat_toNat]

/-! What is never composed. -/

variable {c : Char}

/-- The characters of ASCII, the syllables of Hangul and the letters that those start with. -/
def startBits : Nat := Ranges.bits [(0, 127), (0x1100, 0x1112), (0xAC00, 0xD7A3)]

theorem marks_start_nothing : classBits &&& startBits = 0 := by
  decide +kernel

theorem testBit_classBits (mark : 0 < combiningClass c) : classBits.testBit c.toNat = true := by
  rw [combiningClass] at mark
  split at mark
  next run found =>
    have inside := List.find?_some found
    rw [Bool.and_eq_true, decide_eq_true_eq, decide_eq_true_eq] at inside
    exact Ranges.testBit_bits.mpr
      ⟨_, List.mem_map_of_mem (List.mem_of_find?_eq_some found), inside⟩
  next => exact absurd mark (Nat.lt_irrefl 0)

theorem outside_of_mark (mark : 0 < combiningClass c) :
    128 ≤ c.toNat ∧ (c.toNat < 0x1100 ∨ 0x1112 < c.toNat) ∧
      (c.toNat < 0xAC00 ∨ 0xD7A3 < c.toNat) := by
  have noStart : ¬startBits.testBit c.toNat = true := by
    have both := Nat.testBit_and classBits startBits c.toNat
    rw [marks_start_nothing, Nat.zero_testBit, testBit_classBits mark, Bool.true_and] at both
    exact Bool.eq_false_iff.mp both.symm
  rw [startBits, Ranges.testBit_bits] at noStart
  simp only [List.mem_cons, List.not_mem_nil, or_false, exists_eq_or_imp, exists_eq_left]
    at noStart
  omega

theorem combiningClass_ascii (ascii : c.toNat < 128) : combiningClass c = 0 :=
  Nat.eq_zero_of_not_pos fun mark => by
    have outside := outside_of_mark mark
    omega

theorem decomposeChar_ascii (ascii : c.toNat < 128) : decomposeChar c = [c] := by
  refine decomposeChar_of_single (.inl (by omega)) (eq_false_of_ne_true fun whole => ?_)
  obtain ⟨composite, among, same⟩ := List.mem_map.mp (testBit_bits.mp whole)
  have foreign := (composite.regular among).foreign
  omega

theorem join_eq_none {first second : Char} (noSyllable : Syllable.join? first second = none)
    (other : ∀ composite ∈ composites,
      ¬(composite.first = first.toNat ∧ composite.second = second.toNat)) :
    join? first second = none := by
  rw [join?, noSyllable]
  dsimp only
  rw [Option.map_eq_none_iff, List.find?_eq_none]
  simpa only [Bool.and_eq_true, beq_iff_eq] using other

/-- Nothing is composed with a mark before it. -/
theorem join_mark (mark : 0 < combiningClass c) (d : Char) : join? c d = none := by
  have outside := outside_of_mark mark
  refine join_eq_none ?_ fun composite among same => ?_
  · rw [Syllable.join?, if_neg, Syllable.ofChar_eq_none outside.2.2]
    simp only [Bool.and_eq_true, decide_eq_true_eq]
    omega
  · have starts := (composite.regular among).starts
    rw [same.1, testBit_classBits mark] at starts
    cases starts

/-- No character of ASCII is composed with a character before it. -/
theorem join_ascii (ascii : c.toNat < 128) (d : Char) : join? d c = none := by
  refine join_eq_none ?_ fun composite among same => ?_
  · rw [Syllable.join?, if_neg]
    · split
      · rw [if_neg]
        simp only [Bool.and_eq_true, decide_eq_true_eq]
        omega
      · rfl
    · simp only [Bool.and_eq_true, decide_eq_true_eq]
      omega
  · have foreign := (composite.regular among).foreign
    omega

theorem point_join (c : Char) : join? '.' c = none := by
  refine join_eq_none ?_ fun composite among same => (composite.regular among).noPoint same.1
  rw [Syllable.join?, if_neg]
  · rfl
  · simp only [Bool.and_eq_true, decide_eq_true_eq]
    rintro ⟨⟨⟨low, _⟩, _⟩, _⟩
    exact absurd low (by decide)

theorem point_mem_takeApart {depth : Nat} (member : '.' ∈ takeApart depth c) : c = '.' := by
  induction depth generalizing c with
  | zero => exact (List.mem_singleton.mp member).symm
  | succ depth ih =>
      rw [takeApart] at member
      split at member
      next composite found =>
        have regular := composite.regular (List.mem_of_find?_eq_some found)
        obtain ⟨_, first, second⟩ := regular.valid
        obtain member | member := List.mem_append.mp member
        · have point := congrArg Char.toNat (ih member)
          rw [toNat_ofNat first] at point
          exact absurd point regular.noPoint
        · have point : 0x2E = (Char.ofNat composite.second).toNat :=
            congrArg Char.toNat (List.mem_singleton.mp member)
          rw [toNat_ofNat second] at point
          have foreign := regular.foreign
          omega
      next => exact (List.mem_singleton.mp member).symm

/-- A point comes of no other character. -/
theorem point_mem_decomposeChar (member : '.' ∈ decomposeChar c) : c = '.' := by
  rw [decomposeChar] at member
  split at member
  next syllable found =>
    obtain ⟨consonant, vowel, final⟩ := Syllable.isProper_of_ofChar found
    have other {code : Nat} (letter : 0x1100 ≤ code ∧ code ≤ 0x11FF) : '.' ≠ Char.ofNat code := by
      intro same
      have point : 0x2E = (Char.ofNat code).toNat := congrArg Char.toNat same
      rw [toNat_ofNat (.inl (by omega))] at point
      omega
    rw [Syllable.letters, List.mem_cons, List.mem_cons] at member
    obtain same | same | member := member
    · exact absurd same (other (by omega))
    · exact absurd same (other (by omega))
    · split at member
      · cases member
      · exact absurd (List.mem_singleton.mp member) (other (by omega))
  next => exact point_mem_takeApart member

end ResourceEditor.Text
