import ResourceEditor.Domain.Basic
import ResourceEditor.Proofs.Domain.Mapping
import ResourceEditor.Proofs.Domain.Punycode
/-
This file says when a name in ASCII is read as itself.
-/

namespace ResourceEditor

namespace Domain

open Text

/-! Labels. -/

theorem isAscii_eq_true_iff {text : List Char} :
    isAscii text = true ↔ ∀ c ∈ text, c.toNat < 128 := by
  rw [isAscii, List.all_eq_true]
  simp only [decide_eq_true_eq]

/-- What is read from the text after a mark can be told from it. -/
theorem decode_of_decodeLabel {encoded label : List Char}
    (found : decodeLabel? encoded = some label) :
    (∀ c ∈ encoded, c.toNat < 128) ∧ encoded.length ≤ 2000 := by
  rw [decodeLabel?] at found
  cases decoded : Punycode.decode? encoded with
  | none =>
      rw [decoded] at found
      cases found
  | some _ =>
      rw [Punycode.decode?] at decoded
      split at decoded
      next fits => simpa using fits
      next => cases decoded

/-- A label is in ASCII as it is, or it is encoded. -/
theorem Label.read_cases {part : List Char} {label : Label}
    (found : Label.read? part = some label) :
    (label.ascii = part ∧ (∀ c ∈ part, c.toNat < 128) ∧
      (encodedMark.isPrefixOf part = true → part.length ≤ 2004)) ∨
    (label = ⟨part, encodedMark ++ Punycode.encode part⟩ ∧ part.length ≤ 1000 ∧
      isAscii part = false ∧ encodedMark.isPrefixOf part = false ∧ isWellFormed part = true) := by
  rw [Label.read?] at found
  split at found
  next marked =>
    obtain ⟨shown, decoded, rfl⟩ := Option.map_eq_some_iff.mp found
    obtain ⟨ascii, fits⟩ := decode_of_decodeLabel decoded
    obtain ⟨rest, rfl⟩ := List.isPrefixOf_iff_prefix.mp marked
    rw [List.drop_left] at ascii fits
    refine .inl ⟨rfl, List.forall_mem_append.mpr ⟨?_, ascii⟩, fun _ => ?_⟩
    · exact isAscii_eq_true_iff.mp (by decide)
    · rw [List.length_append]
      exact Nat.add_le_add_left fits 4
  next unmarked =>
    have unmarked := Bool.eq_false_iff.mpr unmarked
    split at found
    next ascii =>
      cases found
      refine .inl ⟨rfl, isAscii_eq_true_iff.mp ascii, fun marked => ?_⟩
      rw [marked] at unmarked
      cases unmarked
    next foreign =>
      split at found
      next formed =>
        obtain ⟨encoded, written, rfl⟩ := Option.map_eq_some_iff.mp found
        rw [Punycode.encode?] at written
        split at written
        next short =>
          cases written
          exact .inr ⟨rfl, short, Bool.eq_false_iff.mpr foreign, unmarked, formed⟩
        next => cases written
      next => cases found

/-- A label in the one spelling that was encoded is read as what it encodes. -/
theorem Label.read_encoded {part : List Char} (short : part.length ≤ 1000)
    (foreign : isAscii part = false) (unmarked : encodedMark.isPrefixOf part = false)
    (formed : isWellFormed part = true) (spelled : map? part = some part)
    (fits : (encodedMark ++ Punycode.encode part).length ≤ 2004) :
    Label.read? (encodedMark ++ Punycode.encode part) =
      some ⟨part, encodedMark ++ Punycode.encode part⟩ := by
  have marked : encodedMark.isPrefixOf (encodedMark ++ Punycode.encode part) = true :=
    List.isPrefixOf_iff_prefix.mpr (List.prefix_append ..)
  have decoded : Punycode.decode? (Punycode.encode part) = some part := by
    refine Punycode.decode_encode short ?_
    have four : encodedMark.length = 4 := rfl
    rw [List.length_append] at fits
    omega
  rw [Label.read?, if_pos marked, List.drop_left, decodeLabel?, decoded]
  simp [foreign, unmarked, formed, spelled]

/-- Characters of a name in ASCII. -/
structure IsSettled (c : Char) : Prop where
  ascii : c.toNat < 128
  plain : IsPlain c
  inside : c ≠ '.'

theorem isSettled_of_code {c : Char}
    (code : c.toNat = 0x2D ∨ (0x30 ≤ c.toNat ∧ c.toNat ≤ 0x39) ∨
      (0x61 ≤ c.toNat ∧ c.toNat ≤ 0x7A)) : IsSettled c := by
  refine ⟨by omega, isPlain_ascii (by omega) (by omega), ?_⟩
  rintro rfl
  exact absurd code (by decide)

/-- Labels in ASCII have only characters that stay as they are. -/
theorem Label.isSettled {part : List Char} {label : Label} (found : Label.read? part = some label)
    (plain : ∀ c ∈ part, IsPlain c ∧ c ≠ '.') : ∀ c ∈ label.ascii, IsSettled c := by
  intro c member
  obtain ⟨same, ascii, _⟩ | ⟨rfl, short, _⟩ := Label.read_cases found
  · rw [same] at member
    exact ⟨ascii c member, (plain c member).1, (plain c member).2⟩
  · obtain mark | member := List.mem_append.mp member
    · have all : (encodedMark.all fun c => c.toNat == 0x2D || (0x61 ≤ c.toNat && c.toNat ≤ 0x7A)) =
          true := by decide
      have code := List.all_eq_true.mp all c mark
      simp only [Bool.or_eq_true, beq_iff_eq, Bool.and_eq_true, decide_eq_true_eq] at code
      exact isSettled_of_code (by omega)
    · obtain ⟨inside, ascii⟩ | rfl | ⟨digit, small, rfl⟩ := Punycode.mem_encode short member
      · exact ⟨ascii, (plain c inside).1, (plain c inside).2⟩
      · exact isSettled_of_code (by decide)
      · exact isSettled_of_code (.inr (Punycode.digitChar_code small))

/-! Names. -/

/-- A name whose encoded labels are not too long to be read. -/
def IsReadable (name : List Char) : Prop :=
  ∀ label ∈ splitAll '.' name, encodedMark.isPrefixOf label = true → label.length ≤ 2004

/-- A name in ASCII from labels that stay as they are is split into these labels. -/
theorem map_intercalate {labels : List (List Char)} (some : labels ≠ [])
    (settled : ∀ label ∈ labels, ∀ c ∈ label, IsSettled c) :
    splitAll '.' (['.'].intercalate labels) = labels ∧
      map? (['.'].intercalate labels) = .some (['.'].intercalate labels) := by
  refine ⟨splitAll_intercalate some fun label among point =>
    (settled label among _ point).inside rfl, ?_⟩
  have each (c : Char) (member : c ∈ ['.'].intercalate labels) : c.toNat < 128 ∧ IsPlain c := by
    obtain point | ⟨label, among, member⟩ := mem_intercalate member
    · cases List.mem_singleton.mp point
      exact ⟨by decide, isPlain_ascii (by decide) (by decide)⟩
    · exact ⟨(settled label among c member).ascii, (settled label among c member).plain⟩
  rw [map_of_isPlain fun c member => (each c member).2,
    normalize_ascii fun c member => (each c member).1]

/-- What a name is in ASCII. -/
theorem toAscii_eq_some_iff {name ascii : List Char} :
    toAscii? name = some ascii ↔ ∃ mapped labels, map? name = some mapped ∧
      List.Forall₂ (fun part label => Label.read? part = some label) (splitAll '.' mapped) labels ∧
      areOrdered labels = true ∧ ['.'].intercalate (labels.map Label.ascii) = ascii := by
  rw [toAscii?]
  simp only [bind, Option.bind_eq_some_iff, mapM_eq_some_iff]
  constructor
  · rintro ⟨mapped, found, labels, read, ends⟩
    split at ends
    next ordered => exact ⟨mapped, labels, found, read, ordered, Option.some.inj ends⟩
    next => cases ends
  · rintro ⟨mapped, labels, found, read, ordered, rfl⟩
    exact ⟨mapped, found, labels, read, by rw [if_pos ordered]⟩

section Again

variable {name ascii mapped : List Char} {labels : List Label}

/-- A name in ASCII is split into the labels that it was made of. -/
theorem map_ascii (spelled : map? name = some mapped)
    (read : List.Forall₂ (fun part label => Label.read? part = some label) (splitAll '.' mapped)
      labels) :
    splitAll '.' (['.'].intercalate (labels.map Label.ascii)) = labels.map Label.ascii ∧
      map? (['.'].intercalate (labels.map Label.ascii)) =
        some (['.'].intercalate (labels.map Label.ascii)) := by
  refine map_intercalate (fun none => ?_) fun text member => ?_
  · have length := read.length_eq
    rw [length_splitAll, List.map_eq_nil_iff.mp none] at length
    cases length
  · obtain ⟨label, among, rfl⟩ := List.mem_map.mp member
    obtain ⟨part, member, here⟩ := exists_of_mem_right read among
    refine Label.isSettled here fun c inside => ?_
    have within := mem_of_mem_splitAll member inside
    exact ⟨isPlain_map spelled within.1, within.2⟩

/-- A name in ASCII is read as itself when its encoded labels are not too long. -/
theorem toAscii_of_isReadable (found : toAscii? name = some ascii) (readable : IsReadable ascii) :
    toAscii? ascii = some ascii := by
  obtain ⟨mapped, labels, spelled, read, ordered, rfl⟩ := toAscii_eq_some_iff.mp found
  obtain ⟨split, again⟩ := map_ascii spelled read
  rw [IsReadable, split] at readable
  refine toAscii_eq_some_iff.mpr ⟨_, labels, again, ?_, ordered, rfl⟩
  rw [split, List.forall₂_map_left_iff, List.forall₂_same]
  intro label among
  obtain ⟨part, member, here⟩ := exists_of_mem_right read among
  obtain ⟨same, _⟩ | ⟨rfl, short, foreign, unmarked, formed⟩ := Label.read_cases here
  · rw [same, here]
  · refine Label.read_encoded short foreign unmarked formed (map_part spelled member) ?_
    exact readable _ (List.mem_map_of_mem among)
      (List.isPrefixOf_iff_prefix.mpr (List.prefix_append ..))

/-- A name in ASCII is not read at all when one of its encoded labels is too long. -/
theorem isReadable_of_toAscii (found : toAscii? name = some ascii) {other : List Char}
    (again : toAscii? ascii = some other) : IsReadable ascii := by
  obtain ⟨mapped, labels, spelled, read, _, rfl⟩ := toAscii_eq_some_iff.mp found
  obtain ⟨split, same⟩ := map_ascii spelled read
  obtain ⟨_, others, found, reread, _⟩ := toAscii_eq_some_iff.mp again
  rw [same] at found
  cases found
  rw [split] at reread
  intro text member marked
  rw [split] at member
  obtain ⟨_, _, here⟩ := exists_of_mem_right reread.flip member
  obtain ⟨_, _, fits⟩ | ⟨_, _, _, unmarked, _⟩ := Label.read_cases here
  · exact fits marked
  · rw [marked] at unmarked
    cases unmarked

end Again

theorem ascii_has_no_direction :
    Ranges.bits [(0, 127)] &&& (rightToLeftRanges.bits ||| arabicNumberRanges.bits) = 0 := by
  decide +kernel

/-- Characters of ASCII are not written from right to left. -/
theorem isMixed_ascii {text : List Char} (ascii : ∀ c ∈ text, c.toNat < 128) :
    isMixed text = false := by
  rw [isMixed, List.any_eq_false]
  intro c member
  have none : (rightToLeftRanges.bits ||| arabicNumberRanges.bits).testBit c.toNat = false := by
    have both := Nat.testBit_and (Ranges.bits [(0, 127)])
      (rightToLeftRanges.bits ||| arabicNumberRanges.bits) c.toNat
    have bit : (Ranges.bits [(0, 127)]).testBit c.toNat = true :=
      Ranges.testBit_bits.mpr
        ⟨_, List.mem_cons_self, Nat.zero_le _, Nat.le_of_lt_succ (ascii c member)⟩
    rw [ascii_has_no_direction, Nat.zero_testBit, bit, Bool.true_and] at both
    exact both.symm
  rw [Nat.testBit_or, Bool.or_eq_false_iff, ← Ranges.has_eq_testBit,
    ← Ranges.has_eq_testBit] at none
  rw [Direction.ofChar, none.1, none.2]
  split
  · decide
  · rw [if_neg Bool.false_ne_true]
    split
    · decide
    · rw [if_neg Bool.false_ne_true]
      split <;> decide

/-- A name in ASCII without marks is read as itself. -/
theorem toAscii_unmarked {labels : List (List Char)} (some : labels ≠ [])
    (settled : ∀ label ∈ labels, ∀ c ∈ label, IsSettled c)
    (unmarked : ∀ label ∈ labels, encodedMark.isPrefixOf label = false) :
    toAscii? (['.'].intercalate labels) = .some (['.'].intercalate labels) := by
  obtain ⟨split, again⟩ := map_intercalate some settled
  have ascii (label : List Char) (among : label ∈ labels) : ∀ c ∈ label, c.toNat < 128 :=
    fun c member => (settled label among c member).ascii
  refine toAscii_eq_some_iff.mpr ⟨_, labels.map fun label => ⟨label, label⟩, again, ?_, ?_, ?_⟩
  · rw [split, List.forall₂_map_right_iff, List.forall₂_same]
    intro label among
    rw [Label.read?, unmarked label among, if_neg Bool.false_ne_true,
      if_pos (isAscii_eq_true_iff.mpr (ascii label among))]
  · rw [areOrdered, Bool.or_eq_true, Bool.not_eq_true', List.any_eq_false]
    refine .inl fun label member => ?_
    obtain ⟨text, among, rfl⟩ := List.mem_map.mp member
    rw [isMixed_ascii (ascii text among)]
    exact Bool.false_ne_true
  · rw [List.map_map]
    exact congrArg _ (List.map_id labels)

end Domain

end ResourceEditor
