import ResourceEditor.Proofs.Controller.Numeric
/-
This file says how the host of a web address is written in its normal form, and when a host in this
form is read as itself.
-/

namespace ResourceEditor

/-- A test of each of some characters says something of any of them. -/
theorem of_all {text : String} (test : Char → Prop) [DecidablePred test]
    (all : (text.toList.all fun c => decide (test c)) = true) {c : Char}
    (member : c ∈ text.toList) : test c :=
  of_decide_eq_true (List.all_eq_true.mp all c member)

namespace Host

open Text

/-! Names. -/

theorem percentDecode_plain {text : List Char} (plain : '%' ∉ text) :
    percentDecode text = text.flatMap String.utf8EncodeChar := by
  induction text with
  | nil => rw [percentDecode]; rfl
  | cons c text ih =>
      obtain ⟨other, plain⟩ := not_or.mp fun member => plain (List.mem_cons.mpr member)
      rw [percentDecode, ih plain, List.flatMap_cons]
      · rintro high low rest rfl
        exact absurd rfl other

theorem fromUTF8_encode (text : List Char) :
    String.fromUTF8? ⟨(text.flatMap String.utf8EncodeChar).toArray⟩ =
      some (String.ofList text) := by
  have bytes : (⟨(text.flatMap String.utf8EncodeChar).toArray⟩ : ByteArray) = text.utf8Encode := by
    rw [List.utf8Encode]
    exact ByteArray.ext (List.data_toByteArray ..).symm
  rw [bytes, String.fromUTF8?, dif_pos ByteArray.isValidUTF8_utf8Encode]
  rfl

theorem decode_plain {text : List Char} (plain : ∀ c ∈ text, isForbiddenInDomain c = false) :
    (String.fromUTF8? ⟨(percentDecode text).toArray⟩).bind (Domain.toAscii? ·.toList) =
      Domain.toAscii? text := by
  have noPercent : '%' ∉ text := fun member => by
    cases plain '%' member
  rw [percentDecode_plain noPercent, fromUTF8_encode, Option.bind_some, String.toList_ofList]

/-- A name that can stand in an address. -/
structure IsName (ascii : List Char) : Prop where
  known : ∃ name, Domain.toAscii? name = some ascii
  some : ascii ≠ []
  plain : ∀ c ∈ ascii, isForbiddenInDomain c = false
  named : endsInNumber ascii = false

/-- What a domain is read as: a name or an address of four bytes. -/
theorem readDomain_cases {text : List Char} {host : String} (found : readDomain text = .ok host) :
    IsName host.toList ∨ ∃ number, host = renderIpv4 number := by
  rw [readDomain] at found
  split at found
  next => cases found
  next ascii decoded =>
    split at found
    next => cases found
    next plain =>
      split at found
      next => cases found
      next some =>
        split at found
        next =>
          split at found
          next number _ =>
            cases found
            exact .inr ⟨number, rfl⟩
          next => cases found
        next named =>
          cases found
          rw [String.toList_ofList]
          obtain ⟨name, _, known⟩ := Option.bind_eq_some_iff.mp decoded
          refine .inl ⟨⟨name.toList, known⟩, by simpa using some, fun c member => ?_,
            Bool.eq_false_iff.mpr named⟩
          exact eq_false_of_ne_true fun refused =>
            plain (List.any_eq_true.mpr ⟨c, member, refused⟩)

/-- A host that was read is a name, four bytes or eight groups in brackets. -/
theorem read_cases {text : List Char} {host : String} (found : read text = .ok host) :
    IsName host.toList ∨ (∃ number, host = renderIpv4 number) ∨
      ∃ groups, AreGroups groups ∧ host = "[" ++ renderIpv6 groups ++ "]" := by
  unfold read at found
  split at found
  next => cases found
  next =>
    split at found
    next inner _ =>
      split at found
      next groups address =>
        cases found
        exact .inr (.inr ⟨groups, areGroups_of_readIpv6 address, rfl⟩)
      next => cases found
    next => cases found
  next =>
    obtain name | address := readDomain_cases found
    · exact .inl name
    · exact .inr (.inl address)

/-! Hosts in their normal form. -/

/-- A host as it is written in its normal form: a name or four bytes, or eight groups in brackets.
-/
inductive IsWritten : List Char → Prop
  | bare {text : List Char} (some : text ≠ [])
      (plain : ∀ c ∈ text, isForbiddenInDomain c = false) : IsWritten text
  | bracketed {inner : List Char} (plain : ∀ c ∈ inner, c = ':' ∨ isForbiddenInDomain c = false) :
      IsWritten ('[' :: (inner ++ [']']))

theorem IsWritten.ne_nil {host : List Char} (written : IsWritten host) : host ≠ [] := by
  cases written with
  | bare some _ => exact some
  | bracketed _ => exact List.cons_ne_nil _ _

theorem IsWritten.mem {host : List Char} (written : IsWritten host) {c : Char} (member : c ∈ host) :
    c ∈ "[]:".toList ∨ isForbiddenInDomain c = false := by
  cases written with
  | bare _ plain => exact .inr (plain c member)
  | bracketed plain =>
      rw [List.mem_cons, List.mem_append, List.mem_singleton] at member
      obtain rfl | member | rfl := member
      · exact .inl (by decide)
      · obtain rfl | plain := plain c member
        · exact .inl (by decide)
        · exact .inr plain
      · exact .inl (by decide)

/-- A host that was read is in its normal form. -/
theorem isWritten_of_read {text : List Char} {host : String} (found : read text = .ok host) :
    IsWritten host.toList := by
  obtain name | ⟨number, rfl⟩ | ⟨groups, _, rfl⟩ := read_cases found
  · exact .bare name.some name.plain
  · exact .bare (renderIpv4_ne_nil number) (plain_renderIpv4 number)
  · rw [String.toList_append, String.toList_append]
    refine .bracketed fun c member => ?_
    obtain colon | ⟨digit, small, rfl⟩ := mem_renderIpv6 member
    · exact .inl colon
    · exact .inr (plain_digit small)

/-- A text without brackets is read as a domain. -/
theorem read_plain {text : List Char} (some : text ≠ [])
    (plain : ∀ c ∈ text, isForbiddenInDomain c = false) : read text = readDomain text := by
  cases text with
  | nil => exact absurd rfl some
  | cons c text =>
      rw [read]
      · exact List.cons_ne_nil _ _
      · rintro rest ⟨⟩
        cases plain '[' List.mem_cons_self

/-- A name in ASCII that is known as itself is kept unless it ends in a number. -/
theorem readDomain_known {text : List Char} (some : text ≠ [])
    (plain : ∀ c ∈ text, isForbiddenInDomain c = false)
    (known : Domain.toAscii? text = .some text) :
    readDomain text =
      if endsInNumber text then
        match readIpv4 text with
        | .some number => .ok (renderIpv4 number)
        | none => .error .badIpv4
      else .ok (String.ofList text) := by
  have allowed : ¬text.any isForbiddenInDomain = true := by
    rw [List.any_eq_true]
    rintro ⟨c, member, refused⟩
    rw [plain c member] at refused
    cases refused
  rw [readDomain, decode_plain plain, known]
  exact (if_neg allowed).trans (if_neg (by simpa using some))

/-- A label of an encoded name starts with a letter that no number has. -/
theorem isReadable_of_noMark {text : List Char} (absent : 'x' ∉ text) : Domain.IsReadable text := by
  intro label member marked
  obtain ⟨rest, rfl⟩ := List.isPrefixOf_iff_prefix.mp marked
  exact absurd (mem_of_mem_splitAll member List.mem_cons_self).1 absent

theorem read_renderIpv4 (number : Nat) :
    read (renderIpv4 number).toList = .ok (renderIpv4 number) ∧
      Domain.IsReadable (renderIpv4 number).toList := by
  have noMark : ∀ part ∈ ipv4Parts number, 'x' ∉ part := fun part among member => by
    obtain ⟨digit, small, same⟩ := mem_ipv4Parts among member
    exact digitChar_ne small (by decide) same
  have known : Domain.toAscii? (renderIpv4 number).toList = some (renderIpv4 number).toList := by
    rw [toList_renderIpv4]
    refine Domain.toAscii_unmarked (List.cons_ne_nil _ _) (isSettled_ipv4Parts number) ?_
    intro part among
    refine Bool.eq_false_iff.mpr fun marked => noMark part among ?_
    obtain ⟨rest, rfl⟩ := List.isPrefixOf_iff_prefix.mp marked
    exact List.mem_cons_self
  obtain ⟨numeric, same, address, rendered⟩ := readIpv4_render number
  constructor
  · rw [read_plain (renderIpv4_ne_nil number) (plain_renderIpv4 number),
      readDomain_known (renderIpv4_ne_nil number) (plain_renderIpv4 number) known, numeric,
      if_pos rfl, address]
    exact congrArg _ rendered
  · refine isReadable_of_noMark fun member => ?_
    rw [toList_renderIpv4] at member
    obtain point | ⟨part, among, member⟩ := mem_intercalate member
    · cases List.mem_singleton.mp point
    · exact noMark part among member

theorem read_renderIpv6 {groups : List Nat} (address : AreGroups groups) :
    read ("[" ++ renderIpv6 groups ++ "]").toList = .ok ("[" ++ renderIpv6 groups ++ "]") ∧
      Domain.IsReadable ("[" ++ renderIpv6 groups ++ "]").toList := by
  have text : ("[" ++ renderIpv6 groups ++ "]").toList =
      '[' :: ((renderIpv6 groups).toList ++ [']']) := by
    rw [String.toList_append, String.toList_append]
    rfl
  constructor
  · have turned : ((renderIpv6 groups).toList ++ [']']).reverse =
        ']' :: (renderIpv6 groups).toList.reverse := by
      rw [List.reverse_append]
      rfl
    have same := readIpv6_render address
    rw [← List.reverse_reverse (renderIpv6 groups).toList] at same
    rw [text, read, turned]
    simp only [same]
  · refine isReadable_of_noMark fun member => ?_
    rw [text, List.mem_cons, List.mem_append, List.mem_singleton] at member
    obtain same | member | same := member
    · cases same
    · obtain same | ⟨digit, small, same⟩ := mem_renderIpv6 member
      · cases same
      · exact digitChar_ne small (by decide) same
    · cases same

/-- A name is read as itself just if its encoded labels are not too long. -/
theorem IsName.read_again_iff {host : String} (name : IsName host.toList) :
    read host.toList = .ok host ↔ Domain.IsReadable host.toList := by
  obtain ⟨before, known⟩ := name.known
  rw [read_plain name.some name.plain]
  constructor
  · intro again
    rw [readDomain, decode_plain name.plain] at again
    cases other : Domain.toAscii? host.toList with
    | none =>
        rw [other] at again
        cases again
    | some ascii => exact Domain.isReadable_of_toAscii known other
  · intro readable
    have same := Domain.toAscii_of_isReadable known readable
    rw [readDomain_known name.some name.plain same, name.named, if_neg Bool.false_ne_true,
      String.ofList_toList]

/-- A host that was read is read as itself just if its encoded labels are not too long. -/
theorem read_again_iff {text : List Char} {host : String} (found : read text = .ok host) :
    read host.toList = .ok host ↔ Domain.IsReadable host.toList := by
  obtain name | ⟨number, rfl⟩ | ⟨groups, address, rfl⟩ := read_cases found
  · exact name.read_again_iff
  · exact iff_of_true (read_renderIpv4 number).1 (read_renderIpv4 number).2
  · exact iff_of_true (read_renderIpv6 address).1 (read_renderIpv6 address).2

end Host

end ResourceEditor
