import ResourceEditor.Controller.Host
import ResourceEditor.Proofs.Domain.Reading
/-
This file shows that numeric addresses are read back: those of four bytes, and those of eight groups
with the longest run of zeros left out.
-/

namespace ResourceEditor

theorem mem_toDigits {base : Nat} (several : 1 < base) {n : Nat} {c : Char}
    (member : c ∈ Nat.toDigits base n) : ∃ digit < base, c = Nat.digitChar digit := by
  induction n using Nat.strongRecOn with
  | ind n ih =>
      rw [Nat.toDigits_eq_if several] at member
      split at member
      next small => exact ⟨n, small, List.mem_singleton.mp member⟩
      next large =>
        obtain member | member := List.mem_append.mp member
        · exact ih (n / base) (Nat.div_lt_self (by omega) several) member
        · exact ⟨n % base, Nat.mod_lt n (by omega), List.mem_singleton.mp member⟩

namespace Host

open Text

theorem plain_digit {digit : Nat} (small : digit < 16) :
    isForbiddenInDomain (Nat.digitChar digit) = false := by
  have all : ∀ digit < 16, isForbiddenInDomain (Nat.digitChar digit) = false := by decide
  exact all digit small

theorem code_digitChar {digit : Nat} (small : digit < 16) :
    (0x30 ≤ (Nat.digitChar digit).toNat ∧ (Nat.digitChar digit).toNat ≤ 0x39) ∨
      (0x61 ≤ (Nat.digitChar digit).toNat ∧ (Nat.digitChar digit).toNat ≤ 0x66) := by
  have all : ∀ digit < 16, (0x30 ≤ (Nat.digitChar digit).toNat ∧
      (Nat.digitChar digit).toNat ≤ 0x39) ∨ (0x61 ≤ (Nat.digitChar digit).toNat ∧
        (Nat.digitChar digit).toNat ≤ 0x66) := by decide
  exact all digit small

theorem hexValue_digitChar {digit : Nat} (small : digit < 16) :
    hexValue? (Nat.digitChar digit) = some digit := by
  have all : ∀ digit < 16, hexValue? (Nat.digitChar digit) = some digit := by decide
  exact all digit small

theorem digitChar_ne {digit : Nat} (small : digit < 16) {c : Char} (other : hexValue? c = none) :
    c ≠ Nat.digitChar digit := by
  rintro rfl
  rw [hexValue_digitChar small] at other
  cases other

/-! Addresses of four bytes. -/

/-- The digits of the four bytes of an address. -/
def ipv4Parts (number : Nat) : List (List Char) :=
  [3, 2, 1, 0].map fun place => Nat.toDigits 10 (number / Nat.pow 256 place % 256)

theorem toList_renderIpv4 (number : Nat) :
    (renderIpv4 number).toList = ['.'].intercalate (ipv4Parts number) := by
  rw [renderIpv4, String.toList_intercalate, List.map_map, ipv4Parts]
  refine congrArg₂ _ rfl (List.map_congr_left fun place _ => ?_)
  rw [Function.comp_apply, Nat.toString_eq_ofList_toDigits, String.toList_ofList]

theorem mem_ipv4Parts {number : Nat} {part : List Char} (member : part ∈ ipv4Parts number)
    {c : Char} (inside : c ∈ part) : ∃ digit < 16, c = Nat.digitChar digit := by
  obtain ⟨place, _, rfl⟩ := List.mem_map.mp member
  obtain ⟨digit, small, rfl⟩ := mem_toDigits (by decide) inside
  exact ⟨digit, Nat.lt_trans small (by decide), rfl⟩

theorem plain_renderIpv4 (number : Nat) :
    ∀ c ∈ (renderIpv4 number).toList, isForbiddenInDomain c = false := by
  intro c member
  rw [toList_renderIpv4] at member
  obtain member | ⟨part, among, member⟩ := mem_intercalate member
  · cases List.mem_singleton.mp member
    decide
  · obtain ⟨digit, small, rfl⟩ := mem_ipv4Parts among member
    exact plain_digit small

theorem renderIpv4_ne_nil (number : Nat) : (renderIpv4 number).toList ≠ [] := by
  rw [toList_renderIpv4, ipv4Parts]
  simp only [List.map_cons, List.map_nil, List.intercalate_cons_cons]
  exact List.append_ne_nil_of_left_ne_nil (List.append_ne_nil_of_right_ne_nil _ (by decide)) _

theorem isSettled_ipv4Parts (number : Nat) :
    ∀ part ∈ ipv4Parts number, ∀ c ∈ part, Domain.IsSettled c := by
  intro part member c inside
  obtain ⟨digit, small, rfl⟩ := mem_ipv4Parts member inside
  have code := code_digitChar small
  exact Domain.isSettled_of_code (by omega)

/-- A byte is read from its digits. -/
theorem readPart_byte {byte : Nat} (small : byte < 256) :
    readPart (Nat.toDigits 10 byte) = some byte ∧
      (Nat.toDigits 10 byte).all Decimal.isDigit = true := by
  have all : ∀ byte < 256, readPart (Nat.toDigits 10 byte) = some byte ∧
      (Nat.toDigits 10 byte).all Decimal.isDigit = true := by decide +kernel
  exact all byte small

section Bytes

variable {a b c d : Nat} (first : a < 256) (second : b < 256) (third : c < 256) (last : d < 256)

include first second third last

theorem combine_bytes :
    combine [a, b, c, d] 4 = some (a * 16777216 + (b * 65536 + (c * 256 + d))) := by
  rw [combine, if_pos first, combine, if_pos second, combine, if_pos third, combine, if_pos last]
  · rfl
  all_goals simp

theorem renderIpv4_bytes : renderIpv4 (a * 16777216 + (b * 65536 + (c * 256 + d))) =
    String.intercalate "." ([a, b, c, d].map toString) := by
  generalize whole : a * 16777216 + (b * 65536 + (c * 256 + d)) = number
  have byte3 : number / Nat.pow 256 3 % 256 = a := by
    rw [show Nat.pow 256 3 = 16777216 from rfl]
    omega
  have byte2 : number / Nat.pow 256 2 % 256 = b := by
    rw [show Nat.pow 256 2 = 65536 from rfl]
    omega
  have byte1 : number / Nat.pow 256 1 % 256 = c := by
    rw [show Nat.pow 256 1 = 256 from rfl]
    omega
  have byte0 : number / Nat.pow 256 0 % 256 = d := by
    rw [show Nat.pow 256 0 = 1 from rfl]
    omega
  simp only [renderIpv4, List.map_cons, List.map_nil, byte3, byte2, byte1, byte0]

end Bytes

/-- An address of four bytes is read back. -/
theorem readIpv4_render (number : Nat) :
    endsInNumber (renderIpv4 number).toList = true ∧
      ∃ same, readIpv4 (renderIpv4 number).toList = some same ∧
        renderIpv4 same = renderIpv4 number := by
  have split : parts (renderIpv4 number).toList = ipv4Parts number := by
    have last : Nat.toDigits 10 (number / Nat.pow 256 0 % 256) ≠ [] := Nat.toDigits_ne_nil
    have whole : splitAll '.' (['.'].intercalate (ipv4Parts number)) = ipv4Parts number :=
      splitAll_intercalate (List.cons_ne_nil _ _) fun part member point =>
        (isSettled_ipv4Parts number part member '.' point).inside rfl
    rw [parts, toList_renderIpv4, whole, ipv4Parts]
    simp only [List.map_cons, List.map_nil, List.reverse_cons, List.reverse_nil, List.nil_append,
      List.cons_append]
    cases digits : Nat.toDigits 10 (number / Nat.pow 256 0 % 256) with
    | nil => exact absurd digits last
    | cons c rest => rfl
  have byte (place : Nat) : number / Nat.pow 256 place % 256 < 256 := Nat.mod_lt _ (by decide)
  have read (place : Nat) := (readPart_byte (byte place)).1
  have last := (readPart_byte (byte 0)).2
  rw [endsInNumber, readIpv4, split, ipv4Parts]
  simp only [List.map_cons, List.map_nil, List.mapM_cons, List.mapM_nil, read]
  constructor
  · change (!(Nat.toDigits 10 (number / Nat.pow 256 0 % 256)).isEmpty &&
      (Nat.toDigits 10 (number / Nat.pow 256 0 % 256)).all Decimal.isDigit || _) = true
    rw [last, List.isEmpty_eq_false_iff.mpr Nat.toDigits_ne_nil]
    rfl
  · refine ⟨_, combine_bytes (byte 3) (byte 2) (byte 1) (byte 0), ?_⟩
    rw [renderIpv4_bytes (byte 3) (byte 2) (byte 1) (byte 0), renderIpv4]
    rfl

/-! Addresses of eight groups. -/

/-- The digits of the groups of an address. -/
def hexParts (groups : List Nat) : List (List Char) := groups.map (Nat.toDigits 16)

theorem toList_renderGroups (groups : List Nat) :
    (renderGroups groups).toList = [':'].intercalate (hexParts groups) := by
  rw [renderGroups, String.toList_intercalate, List.map_map, hexParts]
  exact congrArg _ (List.map_congr_left fun group _ => String.toList_ofList)

theorem mem_renderGroups {groups : List Nat} {c : Char}
    (member : c ∈ (renderGroups groups).toList) : c = ':' ∨ ∃ digit < 16, c = Nat.digitChar digit := by
  rw [toList_renderGroups] at member
  obtain colon | ⟨part, among, member⟩ := mem_intercalate member
  · exact .inl (List.mem_singleton.mp colon)
  · obtain ⟨group, _, rfl⟩ := List.mem_map.mp among
    exact .inr (mem_toDigits (by decide) member)

theorem mem_renderIpv6 {groups : List Nat} {c : Char} (member : c ∈ (renderIpv6 groups).toList) :
    c = ':' ∨ ∃ digit < 16, c = Nat.digitChar digit := by
  rw [renderIpv6] at member
  dsimp only at member
  split at member
  · exact mem_renderGroups member
  · rw [String.toList_append, String.toList_append, List.mem_append, List.mem_append] at member
    obtain (member | member) | member := member
    · exact mem_renderGroups member
    · exact .inl (by simpa using member)
    · exact mem_renderGroups member

theorem noColon_digits (group : Nat) : ':' ∉ Nat.toDigits 16 group := by
  intro member
  obtain ⟨digit, small, same⟩ := mem_toDigits (by decide) member
  exact digitChar_ne small (by decide) same

theorem noPoint_renderGroups (groups : List Nat) :
    (renderGroups groups).toList.contains '.' = false := by
  refine Bool.eq_false_iff.mpr fun contains => ?_
  obtain colon | ⟨digit, small, same⟩ := mem_renderGroups (List.contains_iff_mem.mp contains)
  · cases colon
  · exact digitChar_ne small (by decide) same

theorem splitDouble_append {part : List Char} (absent : ':' ∉ part) (rest : List Char) :
    splitDouble (part ++ rest) =
      (splitDouble rest).map fun (before, after) => (part ++ before, after) := by
  induction part with
  | nil => simp
  | cons c part ih =>
      obtain ⟨other, absent⟩ := not_or.mp fun member => absent (List.mem_cons.mpr member)
      rw [List.cons_append, splitDouble, ih absent, Option.map_map]
      · rfl
      · rintro rest rfl
        exact absurd rfl other

/-- Between two groups stands one colon, so a double colon comes after them. -/
theorem splitDouble_groups (groups : List Nat) (rest : List Char) :
    splitDouble ((renderGroups groups).toList ++ rest) =
      (splitDouble rest).map fun (before, after) =>
        ((renderGroups groups).toList ++ before, after) := by
  rw [toList_renderGroups]
  induction groups with
  | nil => simp [hexParts]
  | cons group groups ih =>
      have first := noColon_digits group
      cases groups with
      | nil => simpa [hexParts] using splitDouble_append first rest
      | cons next groups =>
          obtain ⟨c, digits, same⟩ :=
            List.exists_cons_of_ne_nil (Nat.toDigits_ne_nil (b := 16) (n := next))
          have other : c ≠ ':' := by
            rintro rfl
            exact noColon_digits next (same ▸ List.mem_cons_self)
          obtain ⟨tail, begins⟩ :
              ∃ tail, [':'].intercalate (hexParts (next :: groups)) = c :: tail := by
            rw [hexParts, List.map_cons, same]
            cases groups.map (Nat.toDigits 16) with
            | nil => exact ⟨digits, List.intercalate_singleton ..⟩
            | cons _ _ => exact ⟨_, List.intercalate_cons_cons⟩
          have one : [':'].intercalate (hexParts (group :: next :: groups)) ++ rest =
              Nat.toDigits 16 group ++ (':' :: (c :: tail ++ rest)) := by
            rw [← begins]
            simp [hexParts, List.intercalate_cons_cons]
          rw [begins] at ih
          rw [one, splitDouble_append first, splitDouble, ih, Option.map_map, Option.map_map]
          · refine congrArg (Option.map · _) (funext fun (before, after) => ?_)
            simp [← begins, hexParts, List.intercalate_cons_cons]
          · intro tail _ same
            exact other (List.cons.inj same).1

theorem readBase_toDigits (group : Nat) : readBase 16 (Nat.toDigits 16 group) = some group := by
  induction group using Nat.strongRecOn with
  | ind group ih =>
      rw [Nat.toDigits_eq_if (by decide)]
      split
      next small => simp [readBase, hexValue_digitChar small, small]
      next large =>
        have before := ih (group / 16) (Nat.div_lt_self (by omega) (by decide))
        have small := Nat.mod_lt group (y := 16) (by decide)
        rw [readBase] at before ⊢
        rw [List.foldlM_append, before]
        simp [hexValue_digitChar small, small]
        omega

/-- Groups of two bytes are read back. -/
theorem readGroups_renderGroups {groups : List Nat} (small : ∀ group ∈ groups, group < 65536) :
    readGroups (renderGroups groups).toList = some groups := by
  cases groups with
  | nil => rfl
  | cons group groups =>
      have split : splitAll ':' (renderGroups (group :: groups)).toList =
          hexParts (group :: groups) := by
        rw [toList_renderGroups]
        refine splitAll_intercalate (List.cons_ne_nil _ _) fun part member => ?_
        obtain ⟨other, _, rfl⟩ := List.mem_map.mp member
        exact noColon_digits other
      have full : (renderGroups (group :: groups)).toList.isEmpty = false := by
        refine List.isEmpty_eq_false_iff.mpr fun nothing => ?_
        rw [nothing, splitAll] at split
        exact Nat.toDigits_ne_nil (List.cons.inj split).1.symm
      obtain ⟨before, last, pieces⟩ :=
        (List.eq_nil_or_concat (hexParts (group :: groups))).resolve_left (List.cons_ne_nil _ _)
      have noPoint : last.contains '.' = false := by
        refine Bool.eq_false_iff.mpr fun contains => ?_
        have member : last ∈ splitAll ':' (renderGroups (group :: groups)).toList := by
          simp [split, pieces]
        have inside := mem_of_mem_splitAll member (List.contains_iff_mem.mp contains)
        have absent := noPoint_renderGroups (group :: groups)
        rw [List.contains_iff_mem.mpr inside.1] at absent
        cases absent
      rw [readGroups, full, if_neg Bool.false_ne_true]
      dsimp only
      rw [split, pieces, List.concat_eq_append, List.reverse_append, List.reverse_singleton,
        List.singleton_append]
      dsimp only
      rw [noPoint, if_neg Bool.false_ne_true, ← List.concat_eq_append, ← pieces, hexParts,
        Domain.mapM_eq_some_iff, List.forall₂_map_left_iff, List.forall₂_same]
      intro group member
      have short : (Nat.toDigits 16 group).length ≤ 4 :=
        (Nat.length_toDigits_le_iff (by decide) (by decide)).mpr (small group member)
      have some : (Nat.toDigits 16 group).isEmpty = false :=
        List.isEmpty_eq_false_iff.mpr Nat.toDigits_ne_nil
      rw [some, Bool.false_or, decide_eq_false (by omega), if_neg Bool.false_ne_true,
        readBase_toDigits]

/-- How many zeros stand one after another from a place on. -/
def zerosFrom (groups : List Nat) (start : Nat) : Nat :=
  ((groups.drop start).takeWhile (· == 0)).length

/-- No more groups are left out than there are zeros. -/
theorem longestZeros_le (groups : List Nat) :
    (longestZeros groups).2 ≤ zerosFrom groups (longestZeros groups).1 := by
  refine List.foldlRecOn (motive := fun best : Nat × Nat => best.2 ≤ zerosFrom groups best.1) _ _
    (Nat.zero_le _) fun best fits start _ => ?_
  dsimp only
  split
  · exact Nat.le_refl _
  · exact fits

theorem take_zeros {groups : List Nat} {start length : Nat}
    (fits : length ≤ zerosFrom groups start) :
    (groups.drop start).take length = List.replicate length 0 := by
  rw [zerosFrom] at fits
  have same : (groups.drop start).take length =
      ((groups.drop start).takeWhile (· == 0)).take length := by
    obtain ⟨rest, whole⟩ := List.takeWhile_prefix (l := groups.drop start) (· == 0)
    calc (groups.drop start).take length
      _ = ((groups.drop start).takeWhile (· == 0) ++ rest).take length := by rw [whole]
      _ = ((groups.drop start).takeWhile (· == 0)).take length :=
          List.take_append_of_le_length fits
  refine List.eq_replicate_iff.mpr ⟨?_, fun group member => ?_⟩
  · rw [same, List.length_take, Nat.min_eq_left fits]
  · rw [same] at member
    have zero := List.mem_takeWhile_imp (List.mem_of_mem_take member)
    exact beq_iff_eq.mp zero

/-- The groups around the zeros that are left out. -/
theorem around_longestZeros (groups : List Nat) :
    groups.take (longestZeros groups).1 ++ (List.replicate (longestZeros groups).2 0 ++
      groups.drop ((longestZeros groups).1 + (longestZeros groups).2)) = groups := by
  rw [← take_zeros (longestZeros_le groups), ← List.drop_drop, List.take_append_drop,
    List.take_append_drop]

/-- The groups of an address. -/
structure AreGroups (groups : List Nat) : Prop where
  eight : groups.length = 8
  small : ∀ group ∈ groups, group < 65536

/-- An address of eight groups is read back. -/
theorem readIpv6_render {groups : List Nat} (address : AreGroups groups) :
    readIpv6 (renderIpv6 groups).toList = some groups := by
  obtain ⟨eight, small⟩ := address
  have around := around_longestZeros groups
  rw [renderIpv6]
  generalize longestZeros groups = zeros at around
  obtain ⟨start, length⟩ := zeros
  dsimp only at around ⊢
  split
  next =>
    have none : splitDouble (renderGroups groups).toList = none := by
      simpa [splitDouble] using splitDouble_groups groups []
    rw [readIpv6, none]
    dsimp only
    rw [readGroups_renderGroups small, Option.filter_some, eight, beq_self_eq_true, if_pos rfl]
  next =>
    have lengths := congrArg List.length around
    simp only [List.length_append, List.length_replicate] at lengths
    have readBefore : readGroups (renderGroups (groups.take start)).toList =
        some (groups.take start) :=
      readGroups_renderGroups fun group member => small group (List.mem_of_mem_take member)
    have readAfter : readGroups (renderGroups (groups.drop (start + length))).toList =
        some (groups.drop (start + length)) :=
      readGroups_renderGroups fun group member => small group (List.mem_of_mem_drop member)
    have noPoint := noPoint_renderGroups (groups.take start)
    have double (after : List Char) := splitDouble_groups (groups.take start) (':' :: ':' :: after)
    simp only [splitDouble, Option.map_some, List.append_nil] at double
    generalize groups.take start = before, groups.drop (start + length) = after at *
    have text : (renderGroups before ++ "::" ++ renderGroups after).toList =
        (renderGroups before).toList ++ ':' :: ':' :: (renderGroups after).toList := by simp
    have fits : ¬7 < before.length + after.length := by omega
    have left : 8 - before.length - after.length = length := by omega
    rw [readIpv6, text, double]
    dsimp only
    rw [readBefore, readAfter, noPoint]
    simp only [bind, Option.bind_some]
    rw [if_neg (by simpa using fits), left, List.append_assoc, around]

/-- So many digits of base 16 make a number of so many digits. -/
theorem lt_of_readBase {text : List Char} {value : Nat} (found : readBase 16 text = some value) :
    value < 16 ^ text.length := by
  have grows (text : List Char) (start : Nat) (found : text.foldlM (fun value c =>
      (hexValue? c).bind fun digit =>
        if digit < 16 then some (16 * value + digit) else none) start = some value) :
      value < (start + 1) * 16 ^ text.length := by
    induction text generalizing start with
    | nil =>
        cases found
        simp
    | cons c text ih =>
        rw [List.foldlM_cons] at found
        obtain ⟨next, here, rest⟩ := Option.bind_eq_some_iff.mp found
        obtain ⟨digit, _, small⟩ := Option.bind_eq_some_iff.mp here
        split at small
        next small =>
          cases Option.some.inj small
          calc value < (16 * start + digit + 1) * 16 ^ text.length := ih _ rest
            _ ≤ ((start + 1) * 16) * 16 ^ text.length := Nat.mul_le_mul_right _ (by omega)
            _ = (start + 1) * 16 ^ (c :: text).length := by
                rw [List.length_cons, Nat.pow_succ', Nat.mul_assoc]
        next => cases small
  simpa using grows text 0 found

theorem lt_of_readBytes {text : List Char} {bytes : List Nat}
    (found : readBytes text = some bytes) : ∀ byte ∈ bytes, byte < 256 := by
  rw [readBytes] at found
  split at found
  next => cases found
  next =>
    intro byte member
    obtain ⟨part, _, here⟩ :=
      Domain.exists_of_mem_right (Domain.mapM_eq_some_iff.mp found) member
    have allowed := (Option.filter_eq_some_iff.mp here).2
    simp only [Bool.and_eq_true, decide_eq_true_eq] at allowed
    exact allowed.1.1

theorem lt_of_readGroups {text : List Char} {groups : List Nat}
    (found : readGroups text = some groups) : ∀ group ∈ groups, group < 65536 := by
  have of_pieces {pieces : List (List Char)} {groups : List Nat}
      (found : pieces.mapM (fun piece =>
        if piece.isEmpty || 4 < piece.length then none else readBase 16 piece) = some groups) :
      ∀ group ∈ groups, group < 65536 := by
    intro group member
    obtain ⟨piece, _, here⟩ :=
      Domain.exists_of_mem_right (Domain.mapM_eq_some_iff.mp found) member
    split at here
    next => cases here
    next short =>
      have short : piece ≠ [] ∧ piece.length ≤ 4 := by simpa using short
      exact Nat.lt_of_lt_of_le (lt_of_readBase here) (Nat.pow_le_pow_right (by decide) short.2)
  rw [readGroups] at found
  split at found
  next =>
    cases found
    exact nofun
  next =>
    dsimp only at found
    split at found
    next last before _ =>
      split at found
      next =>
        simp only [bind, Option.bind_eq_some_iff] at found
        obtain ⟨first, here, bytes, four, ends⟩ := found
        split at ends
        next a b c d =>
          cases ends
          have small := lt_of_readBytes four
          simp only [List.forall_mem_cons] at small
          obtain ⟨_, _, _, _, _⟩ := small
          refine List.forall_mem_append.mpr ⟨of_pieces here, ?_⟩
          simp only [List.forall_mem_cons]
          exact ⟨by omega, by omega, nofun⟩
        next => cases ends
      next => exact of_pieces found
    next => cases found

/-- What is read is an address. -/
theorem areGroups_of_readIpv6 {text : List Char} {groups : List Nat}
    (found : readIpv6 text = some groups) : AreGroups groups := by
  rw [readIpv6] at found
  split at found
  next =>
    obtain ⟨read, eight⟩ := Option.filter_eq_some_iff.mp found
    exact ⟨beq_iff_eq.mp eight, lt_of_readGroups read⟩
  next before after _ =>
    simp only [bind, Option.bind_eq_some_iff] at found
    obtain ⟨first, readFirst, last, readLast, ends⟩ := found
    split at ends
    next => cases ends
    next fits =>
      cases ends
      have fits : '.' ∉ before ∧ first.length + last.length ≤ 7 := by simpa using fits
      refine ⟨?_, List.forall_mem_append.mpr
        ⟨List.forall_mem_append.mpr ⟨lt_of_readGroups readFirst, ?_⟩, lt_of_readGroups readLast⟩⟩
      · simp only [List.length_append, List.length_replicate]
        omega
      · intro group member
        rw [List.eq_of_mem_replicate member]
        decide

end Host

end ResourceEditor
