import Mathlib.Data.List.TakeWhile
import ResourceEditor.Path.Parser
import ResourceEditor.Proofs.Decimal.Spelling
import ResourceEditor.Proofs.Edit.Route
/-
This file states the grammar of paths and shows that the texts that are read as a path are those
that the grammar has for it, and that the text that a path is written as is one of them.
-/

namespace ResourceEditor

open Decimal Text

/-! The grammar of paths. -/

/-- One or more ASCII letters, digits, `_` and `-`. -/
def Path.IsName (text : List Char) : Prop :=
  text ≠ [] ∧ ∀ c ∈ text,
    'a' ≤ c ∧ c ≤ 'z' ∨ 'A' ≤ c ∧ c ≤ 'Z' ∨ '0' ≤ c ∧ c ≤ '9' ∨ c = '_' ∨ c = '-'

/-- A segment that a text can name. -/
def Segment.IsWritable : Segment → Prop
  | .field name => Path.IsName name.toList
  | .index position => position ≤ 0xFFFFFFFFFFFFFFFF

namespace Path

/-- One or more decimal digits, which a plus sign may come before. -/
def SpellsNumber (text : List Char) (n : Nat) : Prop :=
  ∃ sign digits, text = sign ++ digits ∧ (sign = [] ∨ sign = ['+']) ∧ digits ≠ [] ∧
    (∀ c ∈ digits, '0' ≤ c ∧ c ≤ '9') ∧ n = Nat.ofDigitChars 10 digits 0

inductive SpellsPositions : List Char → List Segment → Prop where
  | none : SpellsPositions [] []
  | more {digits text : List Char} {position : Nat} {positions : List Segment}
      (number : SpellsNumber digits position) (small : position ≤ 0xFFFFFFFFFFFFFFFF)
      (rest : SpellsPositions text positions) :
      SpellsPositions ('[' :: (digits ++ ']' :: text)) (.index position :: positions)

/-- A name and the positions after it. -/
inductive SpellsPart : List Char → List Segment → Prop where
  | mk {name text : List Char} {positions : List Segment} (isName : IsName name)
      (rest : SpellsPositions text positions) :
      SpellsPart (name ++ text) (.field (String.ofList name) :: positions)

/-- Parts joined by points. -/
inductive Spells : List Char → Path → Prop where
  | one {text : List Char} {path : Path} (part : SpellsPart text path) : Spells text path
  | more {text others : List Char} {path rest : Path} (part : SpellsPart text path)
      (parts : Spells others rest) : Spells (text ++ '.' :: others) (path ++ rest)

/-- Whether a path starts with a name and a text can name each of its segments. -/
def IsWritable (path : Path) : Prop :=
  (∃ name rest, path = .field name :: rest) ∧ ∀ segment ∈ path, segment.IsWritable

/-! The characters of names and numbers. -/

theorem isNameChar_iff (c : Char) :
    isNameChar c = true ↔
      ('a' ≤ c ∧ c ≤ 'z' ∨ 'A' ≤ c ∧ c ≤ 'Z' ∨ '0' ≤ c ∧ c ≤ '9' ∨ c = '_' ∨ c = '-') := by
  have spelled : isNameChar c =
      (decide ('A' ≤ c ∧ c ≤ 'Z') || 'a' ≤ c && c ≤ 'z' || '0' ≤ c && c ≤ '9' || c == '_' ||
        c == '-') := rfl
  rw [spelled]
  simp only [Bool.or_eq_true, Bool.and_eq_true, decide_eq_true_eq, beq_iff_eq]
  rw [or_assoc, or_assoc, or_assoc]
  exact or_left_comm

theorem isName_iff (text : List Char) :
    IsName text ↔ text ≠ [] ∧ ∀ c ∈ text, isNameChar c = true := by
  simp only [IsName, isNameChar_iff]

theorem isName_of_all {name : String} (nonempty : name.isEmpty = false)
    (inside : name.toList.all isNameChar = true) : IsName name.toList := by
  refine (isName_iff _).mpr ⟨?_, List.all_eq_true.mp inside⟩
  rw [Ne, String.toList_eq_nil_iff]
  rintro rfl
  cases nonempty

theorem IsName.not_mem {text : List Char} (isName : IsName text) {c : Char}
    (other : isNameChar c = false) : c ∉ text := by
  rintro member
  have inside := ((isName_iff text).mp isName).2 c member
  rw [other] at inside
  exact Bool.false_ne_true inside

theorem isBlank_of_isNameChar (c : Char) (inside : isNameChar c = true) : isBlank c = false := by
  refine isBlank_of_visible ?_
  rw [isNameChar_iff] at inside
  rcases inside with between | between | between | rfl | rfl
  case inr.inr.inr.inl => decide
  case inr.inr.inr.inr => decide
  all_goals
    have low := UInt32.le_iff_toNat_le.mp (Char.le_def.mp between.1)
    have high := UInt32.le_iff_toNat_le.mp (Char.le_def.mp between.2)
    exact ⟨Nat.lt_of_lt_of_le (by decide) low, Nat.lt_of_le_of_lt high (by decide)⟩

theorem readNat_eq_some_iff {text : List Char} {n : Nat} :
    readNat text = some n ↔ SpellsNumber text n := by
  unfold readNat SpellsNumber
  split
  next digits =>
    rw [readDigits_eq_some_iff]
    constructor
    · intro read
      exact ⟨['+'], digits, rfl, .inr rfl, read⟩
    · rintro ⟨sign, others, same, rfl | rfl, nonempty, decimal, value⟩
      · obtain rfl : '+' :: digits = others := same
        exact absurd (decimal '+' List.mem_cons_self) (by decide)
      · obtain rfl : digits = others := (List.cons.inj same).2
        exact ⟨nonempty, decimal, value⟩
  next unsigned =>
    rw [readDigits_eq_some_iff]
    constructor
    · intro read
      exact ⟨[], text, rfl, .inl rfl, read⟩
    · rintro ⟨sign, others, same, rfl | rfl, read⟩
      · obtain rfl : text = others := same
        exact read
      · exact absurd same (unsigned others)

theorem SpellsNumber.not_mem {text : List Char} {n : Nat} (number : SpellsNumber text n) {c : Char}
    (noSign : c ≠ '+') (noDigit : ¬ ('0' ≤ c ∧ c ≤ '9')) : c ∉ text := by
  obtain ⟨sign, digits, rfl, signed, -, decimal, -⟩ := number
  intro member
  rcases List.mem_append.mp member with inSign | inDigits
  · rcases signed with rfl | rfl
    · exact absurd inSign List.not_mem_nil
    · exact noSign (List.mem_singleton.mp inSign)
  · exact noDigit (decimal c inDigits)

theorem readNatUpTo_eq_some_iff {text : List Char} {n : Nat} :
    readNatUpTo positionLimit text = some n ↔ SpellsNumber text n ∧ n ≤ 0xFFFFFFFFFFFFFFFF := by
  rw [readNatUpTo, Option.filter_eq_some_iff, readNat_eq_some_iff, decide_eq_true_eq]
  rfl

/-! Positions. -/

theorem readPositions_append {digits : List Char} (inside : ']' ∉ digits) (text : List Char) :
    readPositions ('[' :: (digits ++ ']' :: text)) =
      match readNatUpTo positionLimit digits with
      | none => .error .badPosition
      | some position => (readPositions text).map (.index position :: ·) := by
  have other : ∀ c ∈ digits, (c != ']') = true := fun c member =>
    bne_iff_ne.mpr fun same => inside (same ▸ member)
  have before : (digits ++ ']' :: text).takeWhile (· != ']') = digits := by
    rw [List.takeWhile_append_of_pos other]
    simp
  have after : (digits ++ ']' :: text).dropWhile (· != ']') = ']' :: text := by
    rw [List.dropWhile_append_of_pos other]
    simp
  rw [readPositions, before]
  simp only [bne_self_eq_false, Bool.false_eq_true, if_false]
  split
  next none => exact absurd (after.symm.trans none) (List.cons_ne_nil _ _)
  next rest found =>
    obtain ⟨-, rfl⟩ := List.cons.inj (after.symm.trans found)
    rfl

theorem readPositions_unclosed {text : List Char} (absent : ']' ∉ text) :
    readPositions ('[' :: text) = .error .unclosed := by
  have other : ∀ c ∈ text, (c != ']') = true := fun c member =>
    bne_iff_ne.mpr fun same => absent (same ▸ member)
  rw [readPositions]
  simp only [bne_self_eq_false, Bool.false_eq_true, if_false]
  split
  next => rfl
  next found =>
    rw [List.dropWhile_eq_nil_iff.mpr other] at found
    exact absurd found.symm (List.cons_ne_nil _ _)

theorem readPositions_eq_ok_iff {text : List Char} {positions : List Segment} :
    readPositions text = .ok positions ↔ SpellsPositions text positions := by
  constructor
  · intro read
    induction size : text.length using Nat.strongRecOn generalizing text positions with
    | ind size ih =>
        cases text with
        | nil =>
            rw [readPositions] at read
            cases read
            exact .none
        | cons c rest =>
            by_cases bracket : c = '['
            case neg =>
              rw [readPositions, if_pos (bne_iff_ne.mpr bracket)] at read
              cases read
            subst bracket
            by_cases closed : ']' ∈ rest
            case neg =>
              rw [readPositions_unclosed closed] at read
              cases read
            obtain ⟨digits, after, rfl, inside⟩ := List.eq_append_cons_of_mem closed
            rw [readPositions_append inside] at read
            cases number : readNatUpTo positionLimit digits with
            | none =>
                rw [number] at read
                cases read
            | some position =>
                rw [number] at read
                obtain ⟨others, readOthers, rfl⟩ := map_eq_ok_iff.mp read
                obtain ⟨spelled, small⟩ := readNatUpTo_eq_some_iff.mp number
                refine .more spelled small (ih after.length ?_ readOthers rfl)
                rw [← size, List.length_cons, List.length_append, List.length_cons]
                omega
  · intro spells
    induction spells with
    | none => rw [readPositions]
    | more number small rest ih =>
        rw [readPositions_append (number.not_mem (by decide) (by decide)),
          readNatUpTo_eq_some_iff.mpr ⟨number, small⟩]
        simp only [ih, Except.map]

theorem SpellsPositions.append {text rest : List Char} {positions others : List Segment}
    (spells : SpellsPositions text positions) (after : SpellsPositions rest others) :
    SpellsPositions (text ++ rest) (positions ++ others) := by
  induction spells with
  | none => exact after
  | more number small _ ih =>
      rw [List.cons_append, List.append_assoc, List.cons_append]
      exact .more number small ih

theorem SpellsPositions.eq_nil_or_cons {text : List Char} {positions : List Segment}
    (spells : SpellsPositions text positions) : text = [] ∨ ∃ rest, text = '[' :: rest := by
  cases spells with
  | none => exact .inl rfl
  | more => exact .inr ⟨_, rfl⟩

theorem SpellsPositions.point_not_mem {text : List Char} {positions : List Segment}
    (spells : SpellsPositions text positions) : '.' ∉ text := by
  induction spells with
  | none => exact List.not_mem_nil
  | more number small rest ih =>
      have noNumber := number.not_mem (c := '.') (by decide) (by decide)
      simp [noNumber, ih]

theorem spellsPositions_singleton {position : Nat} (small : position ≤ 0xFFFFFFFFFFFFFFFF) :
    SpellsPositions ("[" ++ toString position ++ "]").toList [.index position] := by
  have number : SpellsNumber (Nat.toDigits 10 position) position :=
    ⟨[], _, rfl, .inl rfl, Nat.toDigits_ne_nil, areDigits_toDigits position,
      Nat.ofDigitChars_ten_toDigits.symm⟩
  have text : ("[" ++ toString position ++ "]").toList =
      '[' :: (Nat.toDigits 10 position ++ ']' :: []) := by
    simp [Nat.toList_repr]
  rw [text]
  exact .more number small .none

/-! Parts. -/

theorem takeWhile_part {name text : List Char} {positions : List Segment} (isName : IsName name)
    (rest : SpellsPositions text positions) :
    (name ++ text).takeWhile (· != '[') = name ∧ (name ++ text).dropWhile (· != '[') = text := by
  have other : ∀ c ∈ name, (c != '[') = true := fun c member =>
    bne_iff_ne.mpr fun same => isName.not_mem (c := '[') (by decide) (same ▸ member)
  rw [List.takeWhile_append_of_pos other, List.dropWhile_append_of_pos other]
  rcases rest.eq_nil_or_cons with rfl | ⟨text, rfl⟩ <;> simp

theorem readPart_eq_ok_iff {text : List Char} {path : Path} :
    readPart text = .ok path ↔ SpellsPart text path := by
  constructor
  · intro read
    rw [readPart] at read
    split at read
    next => cases read
    next nonempty =>
      split at read
      next => cases read
      next inside =>
        obtain ⟨positions, readRest, rfl⟩ := map_eq_ok_iff.mp read
        have isName : IsName (text.takeWhile (· != '[')) :=
          (isName_iff _).mpr ⟨by simpa using nonempty, by simpa using inside⟩
        have part := SpellsPart.mk isName (readPositions_eq_ok_iff.mp readRest)
        rwa [List.takeWhile_append_dropWhile] at part
  · rintro @⟨name, _, _, isName, rest⟩
    obtain ⟨before, after⟩ := takeWhile_part isName rest
    obtain ⟨nonempty, inside⟩ := (isName_iff name).mp isName
    have noName : ¬ name.isEmpty = true := mt List.isEmpty_iff.mp nonempty
    have allName : ¬ (!name.all isNameChar) = true := by
      rw [List.all_eq_true.mpr inside]
      decide
    rw [readPart, before, after, if_neg noName, if_neg allName, readPositions_eq_ok_iff.mpr rest]
    rfl

theorem SpellsPart.point_not_mem {text : List Char} {path : Path} (part : SpellsPart text path) :
    '.' ∉ text := by
  obtain ⟨isName, rest⟩ := part
  exact List.not_mem_append (isName.not_mem (by decide)) rest.point_not_mem

theorem SpellsPart.append {text rest : List Char} {path : Path} {positions : List Segment}
    (part : SpellsPart text path) (after : SpellsPositions rest positions) :
    SpellsPart (text ++ rest) (path ++ positions) := by
  obtain ⟨isName, before⟩ := part
  rw [List.append_assoc, List.cons_append]
  exact .mk isName (before.append after)

theorem spellsPart_singleton {name : String} (isName : IsName name.toList) :
    SpellsPart name.toList [.field name] := by
  have part := SpellsPart.mk isName .none
  rwa [List.append_nil, String.ofList_toList] at part

/-! Paths. -/

theorem readParts_cons_eq_ok_iff {part : List Char} {parts : List (List Char)} {path : Path} :
    readParts (part :: parts) = .ok path ↔
      ∃ first rest, SpellsPart part first ∧ readParts parts = .ok rest ∧ first ++ rest = path := by
  rw [readParts, bind_eq_ok_iff]
  simp only [bind_eq_ok_iff, readPart_eq_ok_iff, pure, Except.pure, Except.ok.injEq,
    exists_and_left]

theorem readParts_eq_ok_iff {text : List Char} {path : Path} :
    readParts (splitAll '.' text) = .ok path ↔ Spells text path := by
  constructor
  · intro read
    induction size : text.length using Nat.strongRecOn generalizing text path with
    | ind size ih =>
        rcases splitAll_cases '.' text with whole | ⟨first, after, rfl, split⟩
        · rw [whole] at read
          obtain ⟨path, rest, part, nothing, rfl⟩ := readParts_cons_eq_ok_iff.mp read
          obtain rfl : [] = rest := Except.ok.inj nothing
          rw [List.append_nil]
          exact .one part
        · rw [split] at read
          obtain ⟨path, rest, part, readRest, rfl⟩ := readParts_cons_eq_ok_iff.mp read
          refine .more part (ih after.length ?_ readRest rfl)
          rw [← size, List.length_append, List.length_cons]
          omega
  · intro spells
    induction spells with
    | @one _ path part =>
        rw [splitAll_of_not_mem part.point_not_mem]
        exact readParts_cons_eq_ok_iff.mpr ⟨path, [], part, rfl, List.append_nil path⟩
    | @more _ _ path rest part _ ih =>
        rw [splitAll_append part.point_not_mem]
        exact readParts_cons_eq_ok_iff.mpr ⟨path, rest, part, ih, rfl⟩

theorem SpellsPart.startsWithName {text : List Char} {path : Path} (part : SpellsPart text path) :
    ∃ c rest, text = c :: rest ∧ isNameChar c = true := by
  obtain @⟨name, text, _, isName, -⟩ := part
  obtain ⟨nonempty, inside⟩ := (isName_iff name).mp isName
  obtain ⟨c, name, rfl⟩ := List.exists_cons_of_ne_nil nonempty
  exact ⟨c, name ++ text, rfl, inside c List.mem_cons_self⟩

theorem Spells.isBlankText {text : String} {path : Path} (spells : Spells text.toList path) :
    isBlankText text = false := by
  obtain ⟨c, rest, same, inside⟩ : ∃ c rest, text.toList = c :: rest ∧ isNameChar c = true := by
    generalize text.toList = text at spells
    cases spells with
    | one part => exact part.startsWithName
    | more part _ =>
        obtain ⟨c, rest, rfl, inside⟩ := part.startsWithName
        exact ⟨c, _, rfl, inside⟩
  rw [Text.isBlankText, same, List.all_cons, isBlank_of_isNameChar c inside, Bool.false_and]

theorem parse_eq_ok_iff {text : String} {path : Path} :
    parse text = .ok path ↔ Spells text.toList path := by
  rw [parse]
  split
  next blank =>
    refine iff_of_false nofun fun spells => ?_
    rw [spells.isBlankText] at blank
    exact Bool.false_ne_true blank
  next => exact readParts_eq_ok_iff

theorem spells_renderRest {text : List Char} {path : Path} (part : SpellsPart text path)
    (rest : List Segment) (writable : ∀ segment ∈ rest, segment.IsWritable) :
    Spells (text ++ (renderRest rest).toList) (path ++ rest) := by
  induction rest generalizing text path with
  | nil => simpa [renderRest] using Spells.one part
  | cons segment rest ih =>
      obtain ⟨own, others⟩ := List.forall_mem_cons.mp writable
      cases segment with
      | field name =>
          have more := Spells.more part (ih (spellsPart_singleton own) others)
          simpa [renderRest] using more
      | index position =>
          have more := ih (part.append (spellsPositions_singleton own)) others
          simpa [renderRest] using more

theorem IsWritable.spells_render {path : Path} (writable : path.IsWritable) :
    Spells path.render.toList path := by
  obtain ⟨⟨name, rest, rfl⟩, each⟩ := writable
  obtain ⟨own, others⟩ := List.forall_mem_cons.mp each
  have spells := spells_renderRest (spellsPart_singleton own) rest others
  rw [render, String.toList_append]
  exact spells

theorem IsWritable.parse_render {path : Path} (writable : path.IsWritable) :
    parse path.render = .ok path :=
  parse_eq_ok_iff.mpr writable.spells_render

theorem SpellsPositions.isWritable {text : List Char} {positions : List Segment}
    (spells : SpellsPositions text positions) : ∀ segment ∈ positions, segment.IsWritable := by
  induction spells with
  | none => exact List.forall_mem_nil _
  | more _ small _ ih => exact List.forall_mem_cons.mpr ⟨small, ih⟩

theorem SpellsPart.isWritable {text : List Char} {path : Path} (part : SpellsPart text path) :
    path.IsWritable := by
  obtain @⟨name, _, positions, isName, rest⟩ := part
  refine ⟨⟨_, positions, rfl⟩, List.forall_mem_cons.mpr ⟨?_, rest.isWritable⟩⟩
  rw [Segment.IsWritable, String.toList_ofList]
  exact isName

theorem Spells.isWritable {text : List Char} {path : Path} (spells : Spells text path) :
    path.IsWritable := by
  induction spells with
  | one part => exact part.isWritable
  | more part _ ih =>
      obtain ⟨⟨name, positions, rfl⟩, each⟩ := part.isWritable
      exact ⟨⟨name, _, rfl⟩, List.forall_mem_append.mpr ⟨each, ih.2⟩⟩

theorem isWritable_of_parse {text : String} {path : Path} (parsed : parse text = .ok path) :
    path.IsWritable :=
  (parse_eq_ok_iff.mp parsed).isWritable

/-- What comes before something on a path that can be written can be written itself. -/
theorem IsWritable.of_prefix {front path : Path} (writable : path.IsWritable) (some : front ≠ [])
    (before : front <+: path) : front.IsWritable := by
  obtain ⟨⟨name, rest, rfl⟩, each⟩ := writable
  obtain ⟨segment, front, rfl⟩ := List.exists_cons_of_ne_nil some
  obtain ⟨rfl, -⟩ := List.cons_prefix_cons.mp before
  exact ⟨⟨name, front, rfl⟩, fun segment member => each segment (before.subset member)⟩

/-- A text is read as the path that it spells, there is an error for a text that spells none, and
the text that a path is written as is read as this path. -/
theorem parse_exact :
    (∀ (text : String) (path : Path), parse text = .ok path ↔ Spells text.toList path) ∧
      (∀ text : String,
        (∃ fault, parse text = .error fault) ↔ ∀ path, ¬ Spells text.toList path) ∧
      ∀ path : Path, path.IsWritable → parse path.render = .ok path := by
  refine ⟨fun _ _ => parse_eq_ok_iff, fun text => ?_, fun _ => IsWritable.parse_render⟩
  simp only [← parse_eq_ok_iff]
  cases parse text with
  | ok path => exact iff_of_false nofun fun none => none path rfl
  | error fault => exact iff_of_true ⟨fault, rfl⟩ nofun

theorem parse_exact_entries :
    let path : Path := [.field "traffic-rules", .index 2, .index 18446744073709551615, .field "x_1"]
    path.IsWritable ∧ path.render = "traffic-rules[2][18446744073709551615].x_1" ∧
      parse path.render = .ok path := by
  have writable : Path.IsWritable
      [.field "traffic-rules", .index 2, .index 18446744073709551615, .field "x_1"] := by
    simp only [IsWritable, List.forall_mem_cons]
    exact ⟨⟨_, _, rfl⟩, isName_of_all rfl rfl, (by decide : 2 ≤ _), Nat.le_refl _,
      isName_of_all rfl rfl, List.forall_mem_nil _⟩
  exact ⟨writable, rfl, parse_exact.2.2 _ writable⟩

end Path

end ResourceEditor
