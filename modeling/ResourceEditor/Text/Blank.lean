/-
This file tells which characters are blank and takes them off the ends of a text.
-/

namespace ResourceEditor.Text

/-- The characters with the property `White_Space`. -/
def isBlank (c : Char) : Bool :=
  c == ' ' || (0x09 ≤ c.toNat && c.toNat ≤ 0x0D) || c.toNat == 0x85 || c.toNat == 0xA0 ||
    c.toNat == 0x1680 || (0x2000 ≤ c.toNat && c.toNat ≤ 0x200A) || c.toNat == 0x2028 ||
    c.toNat == 0x2029 || c.toNat == 0x202F || c.toNat == 0x205F || c.toNat == 0x3000

/-- The visible characters of ASCII are not blank. -/
theorem isBlank_of_visible {c : Char} (visible : 0x20 < c.toNat ∧ c.toNat < 0x7F) :
    isBlank c = false := by
  have noSpace : c ≠ ' ' := by
    rintro rfl
    exact absurd visible (by decide)
  simp only [isBlank, beq_eq_false_iff_ne.mpr noSpace, Bool.false_or, Bool.or_eq_false_iff,
    Bool.and_eq_false_iff, beq_eq_false_iff_ne, decide_eq_false_iff_not]
  omega

def dropLastWhile (drop : Char → Bool) (text : List Char) : List Char :=
  (text.reverse.dropWhile drop).reverse

def trimChars (text : List Char) : List Char :=
  dropLastWhile isBlank (text.dropWhile isBlank)

theorem dropWhile_blanks_append {blanks text : List Char} (blank : ∀ c ∈ blanks, isBlank c = true)
    (solid : ∀ c, text.head? = some c → isBlank c = false) :
    (blanks ++ text).dropWhile isBlank = text := by
  rw [List.dropWhile_append_of_pos blank]
  cases text with
  | nil => rfl
  | cons c text => rw [List.dropWhile_cons_of_neg (by simp [solid c rfl])]

/-- A text without blank characters is what is left when blank characters stood around it. -/
theorem trimChars_append {before text after : List Char}
    (blankBefore : ∀ c ∈ before, isBlank c = true) (blankAfter : ∀ c ∈ after, isBlank c = true)
    (solid : ∀ c ∈ text, isBlank c = false) :
    trimChars (before ++ text ++ after) = text := by
  have last (c : Char) (ends : text.reverse.head? = some c) : isBlank c = false :=
    solid c (List.mem_reverse.mp (List.mem_of_head? ends))
  have trailing (c : Char) (member : c ∈ after.reverse) : isBlank c = true :=
    blankAfter c (List.mem_reverse.mp member)
  have dropLast : dropLastWhile isBlank (text ++ after) = text := by
    rw [dropLastWhile, List.reverse_append, dropWhile_blanks_append trailing last,
      List.reverse_reverse]
  cases text with
  | nil =>
      have nothing : (before ++ after ++ []).dropWhile isBlank = [] :=
        dropWhile_blanks_append (List.forall_mem_append.mpr ⟨blankBefore, blankAfter⟩) nofun
      rw [List.append_nil] at nothing
      rw [trimChars, List.append_nil, nothing]
      rfl
  | cons c text =>
      have first (other : Char) (begins : (c :: text ++ after).head? = some other) :
          isBlank other = false := by
        obtain rfl : c = other := Option.some.inj begins
        exact solid c List.mem_cons_self
      rw [trimChars, List.append_assoc, dropWhile_blanks_append blankBefore first, dropLast]

/-- The text without the blank characters at its two ends. -/
def trim (text : String) : String :=
  String.ofList (trimChars text.toList)

/-- A text is blank when nothing is left of it after trimming. -/
def isBlankText (text : String) : Bool :=
  text.toList.all isBlank

/-- The text before the first separator and the text after it. -/
def splitOnce (separator : Char) (text : String) : Option (String × String) :=
  match text.toList.span (· != separator) with
  | (_, []) => none
  | (before, _ :: after) => some (String.ofList before, String.ofList after)

/-- Splits at every separator, so there is always one part more than separators. -/
def splitAll (separator : Char) : List Char → List (List Char)
  | [] => [[]]
  | c :: rest =>
      if c == separator then [] :: splitAll separator rest
      else
        match splitAll separator rest with
        | [] => [[c]]
        | part :: parts => (c :: part) :: parts

theorem splitAll_cons (separator c : Char) (rest : List Char) :
    splitAll separator (c :: rest) =
      if c = separator then [] :: splitAll separator rest
      else (c :: (splitAll separator rest).headD []) :: (splitAll separator rest).tail := by
  rw [splitAll]
  by_cases same : c = separator
  · simp [same]
  · have differ : (c == separator) = false := beq_eq_false_iff_ne.mpr same
    rw [if_neg same, differ, if_neg Bool.false_ne_true]
    cases splitAll separator rest <;> rfl

theorem splitAll_of_not_mem {separator : Char} {text : List Char} (absent : separator ∉ text) :
    splitAll separator text = [text] := by
  induction text with
  | nil => rfl
  | cons c text ih =>
      obtain ⟨other, absent⟩ := not_or.mp fun member => absent (List.mem_cons.mpr member)
      rw [splitAll_cons, if_neg fun same => other same.symm, ih absent]
      rfl

/-- The first part ends at the first separator. -/
theorem splitAll_append {separator : Char} {first : List Char} (absent : separator ∉ first)
    (rest : List Char) :
    splitAll separator (first ++ separator :: rest) = first :: splitAll separator rest := by
  induction first with
  | nil => rw [List.nil_append, splitAll_cons, if_pos rfl]
  | cons c first ih =>
      obtain ⟨other, absent⟩ := not_or.mp fun member => absent (List.mem_cons.mpr member)
      rw [List.cons_append, splitAll_cons, if_neg fun same => other same.symm, ih absent]
      rfl

/-- A text is one part, or it is split at its first separator. -/
theorem splitAll_cases (separator : Char) (text : List Char) :
    splitAll separator text = [text] ∨ ∃ first rest, text = first ++ separator :: rest ∧
      splitAll separator text = first :: splitAll separator rest := by
  by_cases member : separator ∈ text
  · obtain ⟨first, rest, rfl, absent⟩ := List.eq_append_cons_of_mem member
    exact .inr ⟨first, rest, rfl, splitAll_append absent rest⟩
  · exact .inl (splitAll_of_not_mem member)

theorem length_splitAll (separator : Char) (text : List Char) :
    (splitAll separator text).length = text.countP (· == separator) + 1 := by
  induction text with
  | nil => rfl
  | cons c text ih =>
      rw [splitAll_cons, List.countP_cons]
      split
      next same => rw [List.length_cons, ih, if_pos (beq_iff_eq.mpr same)]
      next other =>
        rw [List.length_cons, List.length_tail, ih, if_neg fun same => other (beq_iff_eq.mp same)]
        rfl

theorem mem_of_mem_splitAll {separator c : Char} {text part : List Char}
    (among : part ∈ splitAll separator text) (member : c ∈ part) : c ∈ text ∧ c ≠ separator := by
  induction text generalizing part with
  | nil =>
      cases List.mem_singleton.mp among
      cases member
  | cons d text ih =>
      rw [splitAll_cons] at among
      split at among
      next =>
        obtain rfl | among := List.mem_cons.mp among
        · cases member
        · exact (ih among member).imp_left (List.mem_cons_of_mem d)
      next other =>
        cases parts : splitAll separator text with
        | nil =>
            have length := length_splitAll separator text
            rw [parts] at length
            cases length
        | cons first rest =>
            rw [parts] at among ih
            obtain rfl | among := List.mem_cons.mp among
            · obtain rfl | member := List.mem_cons.mp member
              · exact ⟨List.mem_cons_self, other⟩
              · exact (ih List.mem_cons_self member).imp_left (List.mem_cons_of_mem d)
            · exact (ih (List.mem_cons_of_mem first among) member).imp_left (List.mem_cons_of_mem d)

theorem mem_intercalate {separator : List Char} {parts : List (List Char)} {c : Char}
    (member : c ∈ separator.intercalate parts) : c ∈ separator ∨ ∃ part ∈ parts, c ∈ part := by
  induction parts with
  | nil => cases member
  | cons part parts ih =>
      cases parts with
      | nil =>
          rw [List.intercalate_singleton] at member
          exact .inr ⟨part, List.mem_cons_self, member⟩
      | cons next parts =>
          rw [List.intercalate_cons_cons, List.mem_append, List.mem_append] at member
          obtain (member | member) | member := member
          · exact .inr ⟨part, List.mem_cons_self, member⟩
          · exact .inl member
          · obtain inside | ⟨other, among, inside⟩ := ih member
            · exact .inl inside
            · exact .inr ⟨other, List.mem_cons_of_mem part among, inside⟩

theorem splitAll_intercalate {separator : Char} {parts : List (List Char)} (some : parts ≠ [])
    (absent : ∀ part ∈ parts, separator ∉ part) :
    splitAll separator ([separator].intercalate parts) = parts := by
  induction parts with
  | nil => exact absurd rfl some
  | cons part parts ih =>
      obtain ⟨first, absent⟩ := List.forall_mem_cons.mp absent
      cases parts with
      | nil => rw [List.intercalate_singleton, splitAll_of_not_mem first]
      | cons next parts =>
          rw [List.intercalate_cons_cons, List.append_assoc, List.singleton_append,
            splitAll_append first, ih (List.cons_ne_nil _ _) absent]

def asciiLower (text : String) : String :=
  text.map fun c => if 'A' ≤ c && c ≤ 'Z' then Char.ofNat (c.toNat + 32) else c

end ResourceEditor.Text
