import Mathlib.Data.List.TakeWhile
import ResourceEditor.Domain.Mapping
import ResourceEditor.Proofs.Text.Normal
/-
This file says that the one spelling of a name is its own spelling.
-/

namespace ResourceEditor

namespace Text

theorem Ranges.has_eq_testBit (ranges : Ranges) (c : Char) :
    ranges.has c = ranges.bits.testBit c.toNat := by
  rw [Bool.eq_iff_iff, testBit_bits, has, List.any_eq_true]
  simp only [Bool.and_eq_true, decide_eq_true_eq]

/-! Lower case. -/

/-- The letters of a run. -/
def CaseRun.codes (run : CaseRun) : List Nat :=
  (List.range ((run.last - run.first) / run.step + 1)).map (run.first + run.step * ·)

theorem CaseRun.of_lower {run : CaseRun} {code lowered : Nat}
    (found : run.lower? code = some lowered) :
    code ∈ run.codes ∧ lowered = (code + run.shift).toNat := by
  rw [lower?] at found
  split at found
  next inside =>
    simp only [Bool.and_eq_true, decide_eq_true_eq, beq_iff_eq] at inside
    obtain ⟨⟨least, most⟩, steps⟩ := inside
    refine ⟨List.mem_map.mpr ⟨(code - run.first) / run.step, List.mem_range.mpr ?_, ?_⟩,
      (Option.some.inj found).symm⟩
    · exact Nat.lt_succ_of_le (Nat.div_le_div_right (by omega))
    · rw [Nat.mul_div_cancel' (Nat.dvd_of_mod_eq_zero steps), Nat.add_sub_cancel' least]
  next => cases found

theorem CaseRun.lower_of_mem {run : CaseRun} {code : Nat} (proper : run.first ≤ run.last)
    (member : code ∈ run.codes) : run.lower? code = some (code + run.shift).toNat := by
  obtain ⟨index, small, rfl⟩ := List.mem_map.mp member
  have most := Nat.mul_div_le (run.last - run.first) run.step
  have steps : run.step * index ≤ run.step * ((run.last - run.first) / run.step) :=
    Nat.mul_le_mul_left _ (Nat.lt_succ_iff.mp (List.mem_range.mp small))
  rw [lower?, if_pos]
  simp only [Bool.and_eq_true, decide_eq_true_eq, beq_iff_eq, Nat.add_sub_cancel_left,
    Nat.mul_mod_right, and_true]
  omega

/-- The letters that have another lower case. -/
def caseBits : Nat := bits (0x130 :: caseRuns.flatMap CaseRun.codes)

theorem caseRuns_proper : ∀ run ∈ caseRuns, run.first ≤ run.last := by
  decide +kernel

theorem lowerChar_cases (c : Char) :
    (caseBits.testBit c.toNat = false ∧ lowerChar c = [c]) ∨
    (c.toNat = 0x130 ∧ lowerChar c = ['i', '\u0307']) ∨
    ∃ run ∈ caseRuns, c.toNat ∈ run.codes ∧
      lowerChar c = [Char.ofNat (c.toNat + run.shift).toNat] := by
  rw [lowerChar]
  split
  next same => exact .inr (.inl ⟨congrArg Char.toNat (beq_iff_eq.mp same), rfl⟩)
  next other =>
    cases found : caseRuns.findSome? fun run => run.lower? c.toNat with
    | some lowered =>
        obtain ⟨run, member, lower⟩ := List.exists_of_findSome?_eq_some found
        obtain ⟨inside, rfl⟩ := CaseRun.of_lower lower
        exact .inr (.inr ⟨run, member, inside, rfl⟩)
    | none =>
        refine .inl ⟨eq_false_of_ne_true fun bit => ?_, rfl⟩
        rw [caseBits, testBit_bits, List.mem_cons, List.mem_flatMap] at bit
        obtain same | ⟨run, member, inside⟩ := bit
        · exact other (beq_iff_eq.mpr (Char.toNat_inj.mp same))
        · have lower := CaseRun.lower_of_mem (caseRuns_proper run member) inside
          rw [List.findSome?_eq_none_iff.mp found run member] at lower
          cases lower

theorem lowerChar_self {c : Char} (single : caseBits.testBit c.toNat = false) :
    lowerChar c = [c] := by
  have outside : c.toNat ∉ 0x130 :: caseRuns.flatMap CaseRun.codes := by
    rwa [← testBit_bits, Bool.not_eq_true]
  obtain ⟨_, same⟩ | ⟨capital, _⟩ | ⟨run, member, inside, _⟩ := lowerChar_cases c
  · exact same
  · exact absurd (capital ▸ List.mem_cons_self) outside
  · exact absurd (List.mem_cons_of_mem _ (List.mem_flatMap.mpr ⟨run, member, inside⟩)) outside

end Text

namespace Domain

open Text

/-! Replacements. -/

/-- The first code point of a run and the characters of its texts. -/
abbrev Row := Nat × List Char

def ReplacementRun.row (run : ReplacementRun) : Row := (run.first, run.texts.toList)

def rows : List Row := replacementRuns.map ReplacementRun.row

/-- The code points from the first to the last of a row. -/
def codeRange (row : Row) : Nat × Nat := (row.1, row.1 + row.2.countP (· == '|'))

theorem replacement_eq (c : Char) :
    replacement? c = match (rows.takeWhile fun row => row.1 ≤ c.toNat).getLast? with
      | some row => (splitAll '|' row.2)[c.toNat - row.1]?
      | none => none := by
  have mapped : rows.takeWhile (fun row => row.1 ≤ c.toNat) =
      (replacementRuns.takeWhile fun run => run.first ≤ c.toNat).map ReplacementRun.row := by
    rw [rows, List.takeWhile_map]
    rfl
  rw [mapped, List.getLast?_map, replacement?]
  cases (replacementRuns.takeWhile fun run => run.first ≤ c.toNat).getLast? <;> rfl

/-- A character that is replaced is in the range of a row, and its text is one of the row's. -/
theorem replacement_of_some {c : Char} {text : List Char} (found : replacement? c = some text) :
    ∃ row ∈ rows, ((codeRange row).1 ≤ c.toNat ∧ c.toNat ≤ (codeRange row).2) ∧
      text ∈ splitAll '|' row.2 := by
  rw [replacement_eq] at found
  split at found
  next row last =>
    have among := List.mem_of_getLast? last
    have above : row.1 ≤ c.toNat :=
      of_decide_eq_true
        (List.mem_takeWhile_imp (p := fun row : Row => decide (row.1 ≤ c.toNat)) among)
    obtain ⟨inside, rfl⟩ := List.getElem?_eq_some_iff.mp found
    rw [length_splitAll] at inside
    refine ⟨row, (List.takeWhile_prefix _).subset among, ⟨above, ?_⟩, List.getElem_mem _⟩
    rw [codeRange]
    dsimp only
    omega
  next => cases found

/-- The ranges of the rows rise. -/
def Rises (table : List Row) : Prop := table.IsChain fun row next => (codeRange row).2 < next.1

theorem getLast_takeWhile {table : List Row} (rises : Rises table) {row : Row} (among : row ∈ table)
    {code : Nat} (inside : (codeRange row).1 ≤ code ∧ code ≤ (codeRange row).2) :
    (table.takeWhile fun row => row.1 ≤ code).getLast? = some row := by
  induction table with
  | nil => cases among
  | cons first table ih =>
      have above : first.1 ≤ (codeRange first).2 := Nat.le_add_right ..
      obtain rfl | among := List.mem_cons.mp among
      · have starts : row.1 ≤ code := inside.1
        rw [List.takeWhile_cons_of_pos (by rwa [decide_eq_true_eq])]
        cases table with
        | nil => rfl
        | cons next table =>
            have later := (List.isChain_cons_cons.mp rises).1
            rw [List.takeWhile_cons_of_neg (by rw [decide_eq_true_eq]; omega)]
            rfl
      · have last := ih rises.tail among
        cases table with
        | nil => cases among
        | cons next table =>
            have later := (List.isChain_cons_cons.mp rises).1
            have reached : next.1 ≤ code := by
              by_contra beyond
              rw [List.takeWhile_cons_of_neg (by rwa [decide_eq_true_eq])] at last
              cases last
            rw [List.takeWhile_cons_of_pos (by rw [decide_eq_true_eq]; omega), List.getLast?_cons,
              last]
            rfl

/-- A character in the range of a row is replaced. -/
theorem replacement_ne_none (rises : Rises rows) {row : Row} (among : row ∈ rows) {c : Char}
    (inside : (codeRange row).1 ≤ c.toNat ∧ c.toNat ≤ (codeRange row).2) :
    replacement? c ≠ none := by
  rw [replacement_eq, getLast_takeWhile rises among inside]
  dsimp only
  rw [ne_eq, List.getElem?_eq_none_iff, length_splitAll]
  rw [codeRange] at inside
  dsimp only at inside
  omega

/-! Characters that stay. -/

/-- The bits of a number without those of another. -/
def without (set other : Nat) : Nat := set ^^^ (set &&& other)

theorem testBit_without (set other code : Nat) :
    (without set other).testBit code = (set.testBit code && !other.testBit code) := by
  rw [without, Nat.testBit_xor, Nat.testBit_and]
  cases set.testBit code <;> cases other.testBit code <;> rfl

/-- The characters that other characters stand for, or nothing. -/
def changedBits (table : List Row) : Nat :=
  Ranges.bits (table.map codeRange) ||| Ranges.bits ignoredRanges |||
    Ranges.bits [(0xFF01, 0xFF5E)]

def keptBits : Nat := Ranges.bits [(0x13A0, 0x13F5)]

def allowedBits : Nat :=
  Ranges.bits [(0, 127), (0x200C, 0x200D)] |||
    without (Ranges.bits graphicRanges) (Ranges.bits refusedRanges)

/-- The characters that are put into lower case. -/
def loweredBits (table : List Row) : Nat := without allowedBits (changedBits table ||| keptBits)

/-- The characters that stay as they are. -/
def plainBits (table : List Row) : Nat :=
  without (keptBits ||| without allowedBits caseBits) (changedBits table)

/-- The syllables of Hangul and their letters. -/
def hangulBits : Nat :=
  Ranges.bits [(0x1100, 0x1112), (0x1161, 0x1175), (0x11A8, 0x11C2), (0xAC00, 0xD7A3)]

/-- What stands for a character stays as it is, and a composition stays just if the two that it
stands for do. In ASCII only capital letters are changed. -/
def IsClosed (table : List Row) : Prop :=
  Rises table ∧
  (∀ row ∈ table, (row.2.all fun c => c == '|' || (plainBits table).testBit c.toNat) = true) ∧
  (∀ run ∈ caseRuns, ∀ code ∈ run.codes, (loweredBits table).testBit code = true →
    (plainBits table).testBit (Char.ofNat (code + run.shift).toNat).toNat = true) ∧
  (∀ composite ∈ composites, (plainBits table).testBit composite.whole =
    ((plainBits table).testBit composite.first && (plainBits table).testBit composite.second)) ∧
  without (Ranges.bits [(0, 127)]) (loweredBits table) = 0 ∧
  without hangulBits (plainBits table) = 0 ∧
  without (Ranges.bits [(0, 0x40), (0x5B, 127), (0x307, 0x307)]) (plainBits table) = 0

instance (table : List Row) : Decidable (IsClosed table) :=
  inferInstanceAs (Decidable (List.IsChain _ _ ∧ _))

theorem map_row_cons (first : Nat) (letters : List Char) {runs : List ReplacementRun}
    {table : List Row} (rest : runs.map ReplacementRun.row = table) :
    (⟨first, String.ofList letters⟩ :: runs).map ReplacementRun.row = (first, letters) :: table := by
  rw [List.map_cons, rest, ReplacementRun.row, String.toList_ofList]

set_option maxRecDepth 10000 in
theorem isClosed_rows : IsClosed rows := by
  -- The texts are taken as lists of their characters before anything is evaluated.
  obtain ⟨table, same, closed⟩ : ∃ table, rows = table ∧ IsClosed table := by
    refine ⟨_, (by
      unfold rows replacementRuns
      repeat apply map_row_cons
      exact List.map_nil), ?closed⟩
    case closed => decide +kernel
  exact same ▸ closed

theorem rises_rows : Rises rows := isClosed_rows.1

/-- Whether a character stays as it is. -/
def IsPlain (c : Char) : Prop := (plainBits rows).testBit c.toNat = true

theorem changedBits_of_replaced {c : Char} {text : List Char} (found : replacement? c = some text) :
    (changedBits rows).testBit c.toNat = true := by
  obtain ⟨row, among, inside, _⟩ := replacement_of_some found
  have bit : (Ranges.bits (rows.map codeRange)).testBit c.toNat = true :=
    Ranges.testBit_bits.mpr ⟨_, List.mem_map_of_mem among, inside⟩
  rw [changedBits, Nat.testBit_or, Nat.testBit_or, bit]
  rfl

theorem changedBits_eq_false {c : Char} (found : replacement? c = none)
    (seen : ignoredRanges.has c = false) (narrow : ¬(0xFF01 ≤ c.toNat ∧ c.toNat ≤ 0xFF5E)) :
    (changedBits rows).testBit c.toNat = false := by
  have noRow : (Ranges.bits (rows.map codeRange)).testBit c.toNat = false := by
    refine eq_false_of_ne_true fun bit => ?_
    obtain ⟨_, member, inside⟩ := Ranges.testBit_bits.mp bit
    obtain ⟨row, among, rfl⟩ := List.mem_map.mp member
    exact replacement_ne_none rises_rows among inside found
  have noWide : (Ranges.bits [(0xFF01, 0xFF5E)]).testBit c.toNat = false := by
    refine eq_false_of_ne_true fun bit => ?_
    obtain ⟨_, member, inside⟩ := Ranges.testBit_bits.mp bit
    cases List.mem_singleton.mp member
    exact narrow inside
  rw [changedBits, Nat.testBit_or, Nat.testBit_or, noRow, noWide, ← Ranges.has_eq_testBit, seen]
  rfl

theorem isKeptCapital_eq (c : Char) : isKeptCapital c = keptBits.testBit c.toNat :=
  Ranges.has_eq_testBit _ c

theorem isAllowed_eq (c : Char) : isAllowed c = allowedBits.testBit c.toNat := by
  have first : Ranges.has [(0, 127), (0x200C, 0x200D)] c =
      (c.toNat < 128 || c == '\u200C' || c == '\u200D') := by
    have same (other : Char) : (c == other) = (c.toNat == other.toNat) := by
      rw [Bool.eq_iff_iff, beq_iff_eq, beq_iff_eq, Char.toNat_inj]
    rw [same, same, Bool.eq_iff_iff]
    simp [Ranges.has]
    omega
  rw [allowedBits, Nat.testBit_or, testBit_without, ← Ranges.has_eq_testBit,
    ← Ranges.has_eq_testBit, ← Ranges.has_eq_testBit, first]
  rfl

/-- A character that stays is mapped to itself. -/
theorem mapChar_of_isPlain {c : Char} (plain : IsPlain c) : mapChar? c = some [c] := by
  rw [IsPlain, plainBits, testBit_without, Nat.testBit_or, testBit_without, Bool.and_eq_true,
    Bool.or_eq_true, Bool.and_eq_true, Bool.not_eq_true', Bool.not_eq_true'] at plain
  obtain ⟨stays, unchanged⟩ := plain
  have noText : replacement? c = none := by
    cases found : replacement? c with
    | none => rfl
    | some text =>
        rw [changedBits_of_replaced found] at unchanged
        cases unchanged
  rw [changedBits, Nat.testBit_or, Nat.testBit_or, Bool.or_eq_false_iff, Bool.or_eq_false_iff,
    ← Ranges.has_eq_testBit, ← Ranges.has_eq_testBit, ← Ranges.has_eq_testBit] at unchanged
  obtain ⟨⟨_, seen⟩, narrow⟩ := unchanged
  have noWide : (0xFF01 ≤ c.toNat && c.toNat ≤ 0xFF5E) = false := by
    simpa [Ranges.has] using narrow
  rw [mapChar?, noText]
  dsimp only
  rw [seen, noWide, isKeptCapital_eq, isAllowed_eq]
  obtain kept | ⟨allowed, single⟩ := stays
  · rw [kept]
    rfl
  · rw [allowed, lowerChar_self single]
    cases keptBits.testBit c.toNat <;> rfl

theorem testBit_of_without {set other code : Nat} (inside : without set other = 0)
    (bit : set.testBit code = true) : other.testBit code = true := by
  have both := testBit_without set other code
  rw [inside, Nat.zero_testBit, bit, Bool.true_and] at both
  exact Bool.not_eq_false' .. ▸ both.symm

/-- The lower case of a character stays as it is. -/
theorem isPlain_lowerChar {c d : Char} (lowered : (loweredBits rows).testBit c.toNat = true)
    (member : d ∈ lowerChar c) : IsPlain d := by
  obtain ⟨_, _, targets, _, _, _, special⟩ := isClosed_rows
  obtain ⟨single, same⟩ | ⟨_, same⟩ | ⟨run, among, inside, same⟩ := lowerChar_cases c
  · rw [same, List.mem_singleton] at member
    subst member
    rw [loweredBits, testBit_without, Nat.testBit_or, Bool.and_eq_true, Bool.not_eq_true',
      Bool.or_eq_false_iff] at lowered
    rw [IsPlain, plainBits, testBit_without, Nat.testBit_or, testBit_without, lowered.1, single,
      lowered.2.1, lowered.2.2]
    rfl
  · rw [same] at member
    refine testBit_of_without special (Ranges.testBit_bits.mpr ?_)
    obtain rfl | member := List.mem_cons.mp member
    · exact ⟨(0x5B, 127), by decide, by decide⟩
    · cases List.mem_singleton.mp member
      exact ⟨(0x307, 0x307), by decide, by decide⟩
  · rw [same, List.mem_singleton] at member
    subst member
    exact targets run among c.toNat inside lowered

theorem isPlain_ascii {c : Char} (ascii : c.toNat < 128)
    (small : c.toNat < 0x41 ∨ 0x5A < c.toNat) : IsPlain c := by
  obtain ⟨_, _, _, _, _, _, special⟩ := isClosed_rows
  refine testBit_of_without special (Ranges.testBit_bits.mpr ?_)
  simp only [List.mem_cons, List.not_mem_nil, or_false, exists_eq_or_imp, exists_eq_left]
  omega

/-- What stands for a character stays as it is. -/
theorem isPlain_mapChar {c d : Char} {text : List Char} (mapped : mapChar? c = some text)
    (member : d ∈ text) : IsPlain d := by
  obtain ⟨_, texts, _, _, ascii, _⟩ := isClosed_rows
  rw [mapChar?] at mapped
  cases found : replacement? c with
  | some other =>
      rw [found] at mapped
      cases mapped
      obtain ⟨row, among, _, part⟩ := replacement_of_some found
      obtain ⟨inside, noBar⟩ := mem_of_mem_splitAll part member
      have plain := List.all_eq_true.mp (texts row among) d inside
      rwa [beq_false_of_ne noBar, Bool.false_or] at plain
  | none =>
      rw [found] at mapped
      dsimp only at mapped
      split at mapped
      next =>
        cases mapped
        cases member
      next seen =>
        have seen := Bool.eq_false_iff.mpr seen
        split at mapped
        next wide =>
          obtain rfl := Option.some.inj mapped
          rw [Bool.and_eq_true, decide_eq_true_eq, decide_eq_true_eq] at wide
          refine isPlain_lowerChar (testBit_of_without ascii (Ranges.testBit_bits.mpr
            ⟨_, List.mem_cons_self, Nat.zero_le _, ?_⟩)) member
          rw [toNat_ofNat (.inl (by omega))]
          dsimp only
          omega
        next narrow =>
          rw [Bool.and_eq_true, decide_eq_true_eq, decide_eq_true_eq] at narrow
          have unchanged := changedBits_eq_false found seen narrow
          split at mapped
          next kept =>
            cases mapped
            cases List.mem_singleton.mp member
            rw [isKeptCapital_eq] at kept
            rw [IsPlain, plainBits, testBit_without, Nat.testBit_or, kept, unchanged]
            rfl
          next other =>
            split at mapped
            next allowed =>
              obtain rfl := Option.some.inj mapped
              refine isPlain_lowerChar ?_ member
              rw [isAllowed_eq] at allowed
              rw [isKeptCapital_eq, Bool.not_eq_true] at other
              rw [loweredBits, testBit_without, Nat.testBit_or, allowed, unchanged, other]
              rfl
            next => cases mapped

theorem isPlain_hangul {code : Nat}
    (letter : (0x1100 ≤ code ∧ code ≤ 0x1112) ∨ (0x1161 ≤ code ∧ code ≤ 0x1175) ∨
      (0x11A8 ≤ code ∧ code ≤ 0x11C2) ∨ (0xAC00 ≤ code ∧ code ≤ 0xD7A3)) :
    IsPlain (Char.ofNat code) := by
  obtain ⟨_, _, _, _, _, hangul, _⟩ := isClosed_rows
  refine testBit_of_without hangul (Ranges.testBit_bits.mpr ?_)
  rw [toNat_ofNat (.inl (by omega))]
  simpa only [List.mem_cons, List.not_mem_nil, or_false, exists_eq_or_imp, exists_eq_left]
    using letter

theorem isPlain_takeApart {depth : Nat} {c d : Char} (plain : IsPlain c)
    (member : d ∈ takeApart depth c) : IsPlain d := by
  induction depth generalizing c with
  | zero => exact List.mem_singleton.mp member ▸ plain
  | succ depth ih =>
      rw [takeApart] at member
      split at member
      next composite found =>
        obtain ⟨_, _, _, parts, _⟩ := isClosed_rows
        have among := List.mem_of_find?_eq_some found
        obtain ⟨_, first, second⟩ := (composite.regular among).valid
        have whole : composite.whole = c.toNat := by
          simpa only [beq_iff_eq] using List.find?_some found
        have both := parts composite among
        rw [whole, plain, eq_comm, Bool.and_eq_true] at both
        obtain member | member := List.mem_append.mp member
        · exact ih (by rw [IsPlain, toNat_ofNat first, both.1]) member
        · cases List.mem_singleton.mp member
          rw [IsPlain, toNat_ofNat second, both.2]
      next => exact List.mem_singleton.mp member ▸ plain

/-- A character that stays is taken apart into others that stay. -/
theorem isPlain_decomposeChar {c d : Char} (plain : IsPlain c) (member : d ∈ decomposeChar c) :
    IsPlain d := by
  rw [decomposeChar] at member
  split at member
  next syllable found =>
    obtain ⟨consonant, vowel, final⟩ := Syllable.isProper_of_ofChar found
    rw [Syllable.letters, List.mem_cons, List.mem_cons] at member
    obtain rfl | rfl | member := member
    · exact isPlain_hangul (by omega)
    · exact isPlain_hangul (by omega)
    · split at member
      · cases member
      · cases List.mem_singleton.mp member
        exact isPlain_hangul (by omega)
  next => exact isPlain_takeApart plain member

theorem isPlain_join {first second whole : Char} (former : IsPlain first) (latter : IsPlain second)
    (joined : join? first second = some whole) : IsPlain whole := by
  rw [join?] at joined
  split at joined
  next syllable found =>
    obtain rfl := Option.some.inj joined
    obtain ⟨consonant, vowel, final⟩ := Syllable.isProper_of_join found
    exact isPlain_hangul (by omega)
  next =>
    obtain ⟨composite, found, rfl⟩ := Option.map_eq_some_iff.mp joined
    obtain ⟨_, _, _, parts, _⟩ := isClosed_rows
    have among := List.mem_of_find?_eq_some found
    have same := List.find?_some found
    rw [Bool.and_eq_true, beq_iff_eq, beq_iff_eq] at same
    rw [IsPlain, toNat_ofNat (composite.regular among).valid.1, parts composite among, same.1,
      same.2, former, latter]
    rfl

/-! Names. -/

theorem mapM_eq_some_iff {α β : Type} {f : α → Option β} {parts : List α} {others : List β} :
    parts.mapM f = some others ↔ List.Forall₂ (fun part other => f part = some other) parts others
    := by
  induction parts generalizing others with
  | nil =>
      rw [List.mapM_nil, List.forall₂_nil_left_iff]
      exact ⟨fun same => (Option.some.inj same).symm, fun same => by rw [same]; rfl⟩
  | cons part parts ih =>
      rw [List.mapM_cons, List.forall₂_cons_left_iff]
      cases first : f part with
      | none => simp
      | some other =>
          cases rest : parts.mapM f with
          | none => simp [← ih, rest]
          | some later => simp [← ih, rest, eq_comm]

theorem exists_of_mem_right {α β : Type} {related : α → β → Prop} {parts : List α}
    {others : List β} (all : List.Forall₂ related parts others) {other : β}
    (among : other ∈ others) : ∃ part ∈ parts, related part other := by
  induction all with
  | nil => cases among
  | cons here _ ih =>
      obtain rfl | among := List.mem_cons.mp among
      · exact ⟨_, List.mem_cons_self, here⟩
      · obtain ⟨part, member, there⟩ := ih among
        exact ⟨part, List.mem_cons_of_mem _ member, there⟩

/-- The characters of a name in the one spelling stay as they are. -/
theorem isPlain_map {text mapped : List Char} (found : map? text = some mapped) {c : Char}
    (member : c ∈ mapped) : IsPlain c := by
  obtain ⟨texts, all, rfl⟩ := Option.map_eq_some_iff.mp found
  refine forall_normalize (fun plain d member => isPlain_decomposeChar plain member)
    (fun former latter joined => isPlain_join former latter joined) (fun c member => ?_) c member
  obtain ⟨part, among, inside⟩ := List.mem_flatten.mp member
  obtain ⟨d, _, here⟩ := exists_of_mem_right (mapM_eq_some_iff.mp all) among
  exact isPlain_mapChar here inside

/-- A text of characters that stay is brought into the normal form only. -/
theorem map_of_isPlain {text : List Char} (plain : ∀ c ∈ text, IsPlain c) :
    map? text = some (normalize text) := by
  have all : text.mapM mapChar? = some (text.map fun c => [c]) := by
    rw [mapM_eq_some_iff, List.forall₂_map_right_iff, List.forall₂_same]
    exact fun c member => mapChar_of_isPlain (plain c member)
  rw [map?, all, Option.map_some, ← List.flatMap_def, List.flatMap_singleton']

/-- Each part of a name in the one spelling has that spelling. -/
theorem map_part {text mapped part : List Char} (found : map? text = some mapped)
    (among : part ∈ splitAll '.' mapped) : map? part = some part := by
  have plain (c : Char) (member : c ∈ part) : IsPlain c :=
    isPlain_map found (mem_of_mem_splitAll among member).1
  obtain ⟨texts, _, rfl⟩ := Option.map_eq_some_iff.mp found
  rw [map_of_isPlain plain, normalize_part among]

/-- The one spelling of a name is its own spelling. -/
theorem map_map {text mapped : List Char} (found : map? text = some mapped) :
    map? mapped = some mapped := by
  have plain (c : Char) (member : c ∈ mapped) : IsPlain c := isPlain_map found member
  obtain ⟨texts, _, rfl⟩ := Option.map_eq_some_iff.mp found
  rw [map_of_isPlain plain, normalize_normalize]

end Domain

end ResourceEditor
