import ResourceEditor.Toml.Quoted
import ResourceEditor.Toml.Writer
/-
This file shows that a text comes back from the quotes in which it is written, for each of the four
ways to quote it.
-/

namespace ResourceEditor.Toml

/-- What stands after a backslash for a character. -/
inductive Codes : List Char → Char → Prop where
  | letter {l c : Char} : ofEscape? l = some c → Codes [l] c
  | number {x y z w c : Char} : ofCode? [x, y, z, w] = some c → Codes ['u', x, y, z, w] c

theorem isControl_iff_toNat (c : Char) : isControl c = true ↔ c.toNat ≤ 0x1F ∨ c.toNat = 0x7F := by
  simp [isControl]

/-- A character that is neither a control nor a tab stands for itself. -/
theorem isPlain_of_not_isControl {c : Char} (shown : isControl c = false) : isPlain c = true := by
  have shown : ¬(c.toNat ≤ 0x1F ∨ c.toNat = 0x7F) := by
    rw [← isControl_iff_toNat, shown]
    exact Bool.false_ne_true
  simp only [isPlain, Bool.or_eq_true, Bool.and_eq_true, decide_eq_true_eq, bne_iff_ne, ne_eq]
  omega

theorem ofCode?_upperHex :
    ∀ n < 0x80, ofCode? ['0', '0', Text.upperHexDigit (n / 16), Text.upperHexDigit (n % 16)] =
      some (Char.ofNat n) := by
  decide

/-- A character in double quotes stands for itself or after a backslash. -/
theorem escapeChar_cases (c : Char) :
    (escapeChar c = [c] ∧ isPlain c = true ∧ c ≠ '"' ∧ c ≠ '\\') ∨
      ∃ code, escapeChar c = '\\' :: code ∧ Codes code c := by
  unfold escapeChar
  split
  · exact .inr ⟨_, rfl, .letter rfl⟩
  · exact .inr ⟨_, rfl, .letter rfl⟩
  · exact .inr ⟨_, rfl, .letter rfl⟩
  · exact .inr ⟨_, rfl, .letter rfl⟩
  · exact .inr ⟨_, rfl, .letter rfl⟩
  · exact .inr ⟨_, rfl, .letter rfl⟩
  · exact .inr ⟨_, rfl, .letter rfl⟩
  next noQuote noBackslash =>
    split
    next control =>
      have small : c.toNat < 0x80 := by
        have control := (isControl_iff_toNat c).mp control
        omega
      refine .inr ⟨_, rfl, .number ?_⟩
      rw [ofCode?_upperHex c.toNat small, Char.ofNat_toNat]
    next shown =>
      exact .inl ⟨rfl, isPlain_of_not_isControl (Bool.eq_false_iff.mpr shown), noQuote, noBackslash⟩

theorem readLine_mark (mark : Char) (escapes : Bool) (rest : List Char) :
    readLine mark escapes (mark :: rest) = some ([], rest) := by
  rw [readLine.eq_def]
  simp only [beq_self_eq_true, if_true]

theorem readLine_plain {mark c : Char} {escapes : Bool} (plain : isPlain c = true)
    (inside : c ≠ mark) (noEscape : escapes = true → c ≠ '\\') (rest : List Char) :
    readLine mark escapes (c :: rest) = put (some c) (readLine mark escapes rest) := by
  have escape : ¬(escapes && c == '\\') = true := by
    rw [Bool.and_eq_true, beq_iff_eq]
    exact fun ⟨on, same⟩ => noEscape on same
  rw [readLine.eq_def]
  simp only [beq_iff_eq, if_neg inside, if_neg escape, if_pos plain]

theorem readLine_code {code : List Char} {c : Char} (codes : Codes code c) (rest : List Char) :
    readLine '"' true ('\\' :: (code ++ rest)) = put (some c) (readLine '"' true rest) := by
  cases codes with
  | letter escape =>
      rw [readLine.eq_def]
      unfold ofEscape? at escape
      split at escape <;> cases escape <;> rfl
  | number escape =>
      rw [readLine.eq_def]
      simp only [← escape]
      rfl

theorem readLine_escapeChar (c : Char) (rest : List Char) :
    readLine '"' true (escapeChar c ++ rest) = put (some c) (readLine '"' true rest) := by
  obtain ⟨shown, plain, noQuote, noBackslash⟩ | ⟨code, shown, codes⟩ := escapeChar_cases c
  · rw [shown]
    exact readLine_plain plain noQuote (fun _ => noBackslash) rest
  · rw [shown]
    exact readLine_code codes rest

theorem readLine_shortEscaped (text rest : List Char) :
    readLine '"' true (shortEscaped text ++ '"' :: rest) = some (text, rest) := by
  induction text with
  | nil => exact readLine_mark _ _ rest
  | cons c text ih =>
      rw [shortEscaped, List.flatMap_cons, List.append_assoc, readLine_escapeChar]
      rw [shortEscaped] at ih
      rw [ih]
      rfl

theorem readLine_verbatim {mark : Char} {text : List Char}
    (plain : ∀ c ∈ text, isPlain c = true ∧ c ≠ mark) (rest : List Char) :
    readLine mark false (text ++ mark :: rest) = some (text, rest) := by
  induction text with
  | nil => exact readLine_mark _ _ rest
  | cons c text ih =>
      obtain ⟨⟨here, inside⟩, later⟩ := List.forall_mem_cons.mp plain
      rw [List.cons_append, readLine_plain here inside (by simp), ih later]
      rfl

/-- How a text is written between three marks, where no more than two marks stand side by side and
so many of them have just come before. -/
inductive Shows (mark : Char) (escapes : Bool) : Nat → List Char → List Char → Prop where
  | nil {run : Nat} : run ≤ 2 → Shows mark escapes run [] []
  | mark {run : Nat} {text written : List Char} : Shows mark escapes (run + 1) text written →
      Shows mark escapes run (mark :: text) (mark :: written)
  | plain {run : Nat} {c : Char} {text written : List Char} : run ≤ 2 → c ≠ mark →
      (escapes = true → c ≠ '\\') → c = '\n' ∨ isPlain c = true →
      Shows mark escapes 0 text written → Shows mark escapes run (c :: text) (c :: written)
  | code {run : Nat} {c : Char} {code text written : List Char} : run ≤ 2 → escapes = true →
      Codes code c → Shows mark escapes 0 text written →
      Shows mark escapes run (c :: text) ('\\' :: (code ++ written))

namespace Shows

variable {mark : Char} {escapes : Bool} {run : Nat} {text written : List Char}

/-- At the beginning stand marks, and no more than fit. -/
theorem leading (shows : Shows mark escapes run text written) (noBackslash : mark ≠ '\\') :
    ∃ more, run + more ≤ 2 ∧
      ((text = List.replicate more mark ∧ written = List.replicate more mark) ∨
        ∃ c rest, c ≠ mark ∧ written = List.replicate more mark ++ c :: rest) := by
  induction shows with
  | nil few => exact ⟨0, few, .inl ⟨rfl, rfl⟩⟩
  | mark _ ih =>
      obtain ⟨more, few, ⟨rfl, rfl⟩ | ⟨c, rest, other, rfl⟩⟩ := ih
      · exact ⟨more + 1, by omega, .inl ⟨rfl, rfl⟩⟩
      · exact ⟨more + 1, by omega, .inr ⟨c, rest, other, rfl⟩⟩
  | plain few other => exact ⟨0, few, .inr ⟨_, _, other, rfl⟩⟩
  | code few => exact ⟨0, few, .inr ⟨_, _, noBackslash.symm, rfl⟩⟩

end Shows

theorem length_takeWhile_take {mark : Char} (limit count : Nat) {rest : List Char}
    (ends : rest.head? ≠ some mark) :
    (((List.replicate count mark ++ rest).take limit).takeWhile (· == mark)).length =
      min limit count := by
  induction count generalizing limit with
  | zero =>
      rw [List.replicate_zero, List.nil_append, Nat.min_zero, List.length_eq_zero_iff]
      cases limit with
      | zero => rfl
      | succ limit =>
          cases rest with
          | nil => rfl
          | cons c rest =>
              have other : (c == mark) = false :=
                beq_eq_false_iff_ne.mpr fun same => ends (congrArg some same)
              simp [other]
  | succ count ih =>
      cases limit with
      | zero => rfl
      | succ limit =>
          rw [List.replicate_succ, List.cons_append, List.take_succ_cons,
            List.takeWhile_cons, if_pos (beq_self_eq_true mark), List.length_cons, ih limit]
          omega

/-- The marks at the beginning are counted up to five. -/
theorem countQuotes_replicate {mark : Char} (count : Nat) {rest : List Char}
    (ends : rest.head? ≠ some mark) :
    countQuotes mark (List.replicate count mark ++ rest) = min 5 count :=
  length_takeWhile_take 5 count ends

section

variable {mark : Char} {escapes : Bool} {rest : List Char}

/-- Three marks and up to two more before them are the end. -/
theorem readLines_end (more : Nat) (few : more ≤ 2) (noReturn : mark ≠ '\r')
    (ends : rest.head? ≠ some mark) :
    readLines mark escapes false (List.replicate (more + 3) mark ++ rest) =
      some (List.replicate more mark, rest) := by
  have count := countQuotes_replicate (more + 3) ends
  rw [List.replicate_succ, List.cons_append] at count ⊢
  rw [readLines.eq_def]
  have left : (List.replicate (more + 2) mark ++ rest).drop (more + 3 - 1) = rest :=
    List.drop_left' List.length_replicate
  simp only [Bool.false_and, Bool.false_eq_true, if_false, beq_iff_eq, noReturn, if_true, count]
  rw [Nat.min_eq_right (by omega), if_pos (by omega), Nat.add_sub_cancel, left]

/-- Fewer marks belong to the text. -/
theorem readLines_mark (more : Nat) (few : more < 2) (noReturn : mark ≠ '\r')
    (ends : rest.head? ≠ some mark) :
    readLines mark escapes false (mark :: (List.replicate more mark ++ rest)) =
      put (some mark) (readLines mark escapes false (List.replicate more mark ++ rest)) := by
  have count := countQuotes_replicate (more + 1) ends
  rw [List.replicate_succ, List.cons_append] at count
  rw [readLines.eq_def]
  simp only [Bool.false_and, Bool.false_eq_true, if_false, beq_iff_eq, noReturn, if_true, count]
  rw [if_neg (by omega)]

theorem readLines_plain {c : Char} (other : c ≠ mark) (noEscape : escapes = true → c ≠ '\\')
    (plain : c = '\n' ∨ isPlain c = true) :
    readLines mark escapes false (c :: rest) =
      put (some c) (readLines mark escapes false rest) := by
  have escape : ¬(escapes && c == '\\') = true := by
    rw [Bool.and_eq_true, beq_iff_eq]
    exact fun ⟨on, same⟩ => noEscape on same
  have noReturn : c ≠ '\r' := by
    rintro rfl
    revert plain
    decide
  have shown : (c == '\n' || isPlain c) = true := by
    rwa [Bool.or_eq_true, beq_iff_eq]
  rw [readLines.eq_def]
  simp only [Bool.false_and, Bool.false_eq_true, if_false, beq_iff_eq, noReturn, other]
  rw [if_neg escape, if_pos shown]

theorem readLines_code {code : List Char} {c : Char} (noBackslash : mark ≠ '\\')
    (codes : Codes code c) :
    readLines mark true false ('\\' :: (code ++ rest)) =
      put (some c) (readLines mark true false rest) := by
  have other : ('\\' == mark) = false := beq_eq_false_iff_ne.mpr noBackslash.symm
  rw [readLines.eq_def]
  simp only [other]
  cases codes with
  | letter escape =>
      unfold ofEscape? at escape
      split at escape <;> cases escape <;> rfl
  | number escape =>
      simp only [← escape]
      rfl

/-- What is written between three marks comes back. -/
theorem readLines_of_shows {run : Nat} {text written : List Char}
    (isMark : mark = '"' ∨ mark = '\x27') (shows : Shows mark escapes run text written)
    (ends : rest.head? ≠ some mark) :
    readLines mark escapes false (written ++ (List.replicate 3 mark ++ rest)) =
      some (text, rest) := by
  have noReturn : mark ≠ '\r' := by
    obtain rfl | rfl := isMark <;> decide
  have noBackslash : mark ≠ '\\' := by
    obtain rfl | rfl := isMark <;> decide
  induction shows with
  | nil => exact readLines_end 0 (by omega) noReturn ends
  | @mark run text written shows ih =>
      -- whether a mark belongs to the text or to the end shows only after the marks that follow it
      obtain ⟨more, few, ⟨rfl, rfl⟩ | ⟨c, after, other, rfl⟩⟩ := shows.leading noBackslash
      · have joined : mark :: List.replicate more mark ++ (List.replicate 3 mark ++ rest) =
            List.replicate (more + 1 + 3) mark ++ rest := by
          rw [← List.replicate_succ, ← List.append_assoc, List.replicate_append_replicate]
        rw [joined, readLines_end (more + 1) (by omega) noReturn ends, List.replicate_succ]
      · have inside : (c :: after ++ (List.replicate 3 mark ++ rest)).head? ≠ some mark :=
          fun same => other (Option.some.inj same)
        rw [List.append_assoc] at ih
        rw [List.cons_append, List.append_assoc,
          readLines_mark more (by omega) noReturn inside, ih]
        rfl
  | plain _ other noEscape plain _ ih =>
      rw [List.cons_append, readLines_plain other noEscape plain, ih]
      rfl
  | code _ on codes _ ih =>
      subst on
      rw [List.cons_append, List.append_assoc, readLines_code noBackslash codes, ih]
      rfl

end

/-! Texts in quotes are shown so. -/

theorem shows_longEscaped (text : List Char) {quotes : Nat} (few : quotes ≤ 2) :
    Shows '"' true quotes text (longEscaped quotes text) := by
  induction text generalizing quotes with
  | nil => exact .nil few
  | cons c text ih =>
      have escaped : Shows '"' true quotes (c :: text) (escapeChar c ++ longEscaped 0 text) := by
        obtain ⟨shown, plain, noQuote, noBackslash⟩ | ⟨code, shown, codes⟩ := escapeChar_cases c
        · rw [shown]
          exact .plain few noQuote (fun _ => noBackslash) (.inr plain) (ih (Nat.zero_le 2))
        · rw [shown]
          exact .code few rfl codes (ih (Nat.zero_le 2))
      rw [longEscaped]
      split
      next quote =>
        cases eq_of_beq quote
        split
        next fits => exact .mark (ih fits)
        next => exact escaped
      next =>
        split
        next lineEnd =>
          cases eq_of_beq lineEnd
          exact .plain few (by decide) (fun _ => by decide) (.inl rfl) (ih (Nat.zero_le 2))
        next => exact escaped

/-- What counts the longest run, after a run of some length and some longest one. -/
theorem shows_of_fold {mark : Char} (text : List Char) (longest current : Nat)
    (covers : current ≤ longest) (plain : ∀ c ∈ text, c = '\n' ∨ isPlain c = true)
    (few : (text.foldl (fun (longest, current) c =>
      if c == mark then (max longest (current + 1), current + 1) else (longest, 0))
        (longest, current)).1 ≤ 2) : longest ≤ 2 ∧ Shows mark false current text text := by
  induction text generalizing longest current with
  | nil => exact ⟨few, .nil (Nat.le_trans covers few)⟩
  | cons c text ih =>
      obtain ⟨here, later⟩ := List.forall_mem_cons.mp plain
      rw [List.foldl_cons] at few
      dsimp only at few
      split at few
      next same =>
        cases eq_of_beq same
        obtain ⟨longer, shows⟩ := ih _ _ (Nat.le_max_right _ _) later few
        exact ⟨Nat.le_trans (Nat.le_max_left _ _) longer, .mark shows⟩
      next other =>
        obtain ⟨longer, shows⟩ := ih _ _ (Nat.zero_le _) later few
        have differs : c ≠ mark := fun same => other (beq_iff_eq.mpr same)
        exact ⟨longer, .plain (Nat.le_trans covers longer) differs (by simp) here shows⟩

theorem shows_of_longestRun {mark : Char} {text : List Char}
    (plain : ∀ c ∈ text, c = '\n' ∨ isPlain c = true) (few : longestRun mark text ≤ 2) :
    Shows mark false 0 text text :=
  (shows_of_fold text 0 0 (Nat.le_refl 0) plain few).2

theorem isPlain_of_not_needsEscape {c : Char} (shown : needsEscape c = false) :
    c = '\n' ∨ isPlain c = true := by
  cases control : isControl c with
  | false => exact .inr (isPlain_of_not_isControl control)
  | true =>
      simp only [needsEscape, control, Bool.true_and, Bool.and_eq_false_iff, bne_eq_false_iff_eq]
        at shown
      obtain rfl | rfl := shown
      · exact .inr rfl
      · exact .inl rfl

/-- What begins with fewer than three quotes is a string of one line. -/
theorem readString_eq_readShortString {mark : Char} {rest : List Char}
    (few : rest.head? = some mark → rest.tail.head? ≠ some mark) :
    readString (mark :: rest) = readShortString (mark :: rest) := by
  match rest with
  | [] => rfl
  | [d] => rfl
  | d :: e :: rest =>
      have three : ¬(mark == d && d == e && (mark == '"' || mark == '\x27')) = true := by
        simp only [Bool.and_eq_true, beq_iff_eq]
        rintro ⟨⟨rfl, rfl⟩, _⟩
        exact few rfl rfl
      rw [readString, if_neg three]

theorem readShortString_shortEscaped (text rest : List Char) :
    readShortString ('"' :: (shortEscaped text ++ '"' :: rest)) =
      some (String.ofList text, rest) := by
  simp only [readShortString, beq_self_eq_true, Bool.true_or, if_true,
    readLine_shortEscaped, Option.map_some]

theorem readShortString_verbatim {text : List Char}
    (plain : ∀ c ∈ text, isPlain c = true ∧ c ≠ '\x27') (rest : List Char) :
    readShortString ('\x27' :: (text ++ '\x27' :: rest)) = some (String.ofList text, rest) := by
  have single : ('\x27' == '"') = false := rfl
  simp only [readShortString, beq_self_eq_true, Bool.or_true, if_true, single,
    readLine_verbatim plain, Option.map_some]

theorem dropFirstBreak_cons {c : Char} (noBreak : c ≠ '\n') (noReturn : c ≠ '\r')
    (rest : List Char) : dropFirstBreak (c :: rest) = c :: rest := by
  unfold dropFirstBreak
  split
  next same => exact absurd (List.cons.inj same).1 noBreak
  next same => exact absurd (List.cons.inj same).1 noReturn
  next => rfl

/-- A text without line ends does not begin with one. -/
theorem Shows.dropFirstBreak_append {mark : Char} {escapes : Bool} {run : Nat}
    {text written : List Char} (shows : Shows mark escapes run text written)
    (isMark : mark = '"' ∨ mark = '\x27') (noLines : text.contains '\n' = false)
    (rest : List Char) : dropFirstBreak (written ++ mark :: rest) = written ++ mark :: rest := by
  have beginsWithMark (text : List Char) : dropFirstBreak (mark :: text) = mark :: text := by
    obtain rfl | rfl := isMark <;> rfl
  cases shows with
  | nil => exact beginsWithMark rest
  | mark => exact beginsWithMark _
  | @plain _ c _ _ _ _ _ plain =>
      have noBreak : c ≠ '\n' := by
        rintro rfl
        simp at noLines
      refine dropFirstBreak_cons noBreak ?_ _
      rintro rfl
      revert plain
      decide
  | code => exact dropFirstBreak_cons (by decide) (by decide) _

theorem readString_quoteLong {mark : Char} {text written rest : List Char}
    (isMark : mark = '"' ∨ mark = '\x27') (shows : Shows mark (mark == '"') 0 text written)
    (ends : rest.head? ≠ some mark) :
    readString (quoteLong mark text written ++ rest) = some (String.ofList text, rest) := by
  have begins : quoteLong mark text written ++ rest =
      mark :: mark :: mark :: ((if text.contains '\n' then ['\n'] else []) ++
        (written ++ (List.replicate 3 mark ++ rest))) := by
    simp [quoteLong, List.replicate]
  have isQuote : (mark == '"' || mark == '\x27') = true := by
    obtain rfl | rfl := isMark <;> rfl
  have first : dropFirstBreak ((if text.contains '\n' then ['\n'] else []) ++
      (written ++ (List.replicate 3 mark ++ rest))) =
        written ++ (List.replicate 3 mark ++ rest) := by
    split
    next => rfl
    next noLines =>
      exact shows.dropFirstBreak_append isMark (Bool.eq_false_iff.mpr noLines) _
  rw [begins, readString]
  simp only [beq_self_eq_true, Bool.true_and, isQuote, if_true, first]
  rw [readLines_of_shows isMark shows ends, Option.map_some]

theorem readString_shortEscaped (text : List Char) {rest : List Char}
    (ends : rest.head? ≠ some '"') :
    readString ('"' :: (shortEscaped text ++ '"' :: rest)) = some (String.ofList text, rest) := by
  rw [readString_eq_readShortString, readShortString_shortEscaped]
  cases text with
  | nil => exact fun _ => ends
  | cons c text =>
      intro same
      obtain ⟨shown, _, noQuote, _⟩ | ⟨code, shown, _⟩ := escapeChar_cases c
      · rw [shortEscaped, List.flatMap_cons, shown] at same
        exact absurd (Option.some.inj same) noQuote
      · rw [shortEscaped, List.flatMap_cons, shown] at same
        cases same

theorem readString_verbatim {text : List Char} (nonempty : text ≠ [])
    (plain : ∀ c ∈ text, isPlain c = true ∧ c ≠ '\x27') (rest : List Char) :
    readString ('\x27' :: (text ++ '\x27' :: rest)) = some (String.ofList text, rest) := by
  rw [readString_eq_readShortString, readShortString_verbatim plain]
  cases text with
  | nil => exact absurd rfl nonempty
  | cons c text =>
      intro same
      exact absurd (Option.some.inj same) (plain c List.mem_cons_self).2

/-- How a text is quoted fits its characters. -/
theorem quotingOf_cases (text : List Char) :
    quotingOf text = .escaped ∨
      (quotingOf text = .plain ∧ text ≠ [] ∧ ∀ c ∈ text, isPlain c = true ∧ c ≠ '\x27') ∨
      quotingOf text = .longEscaped ∨
      (quotingOf text = .longPlain ∧ Shows '\x27' false 0 text text) := by
  have plain (visible : text.any needsEscape = false) (c : Char) (member : c ∈ text) :
      c = '\n' ∨ isPlain c = true :=
    isPlain_of_not_needsEscape (by simpa using List.any_eq_false.mp visible c member)
  unfold quotingOf
  dsimp only
  split
  next => exact .inl rfl
  next needed =>
    split
    next fits =>
      simp only [Bool.and_eq_true, Bool.not_eq_true'] at fits
      obtain ⟨⟨visible, noLines⟩, noTick⟩ := fits
      refine .inr (.inl ⟨rfl, ?_, fun c member => ⟨?_, ?_⟩⟩)
      · rintro rfl
        exact needed rfl
      · refine (plain visible c member).resolve_left ?_
        rintro rfl
        simp [member] at noLines
      · rintro rfl
        simp [member] at noTick
    next =>
      split
      next => exact .inr (.inr (.inl rfl))
      next =>
        split
        next fits =>
          simp only [Bool.and_eq_true, Bool.not_eq_true', decide_eq_true_eq] at fits
          exact .inr (.inr (.inr ⟨rfl, shows_of_longestRun (plain fits.1) fits.2⟩))
        next =>
          split
          next => exact .inr (.inr (.inl rfl))
          next => exact .inl rfl

/-- A text in quotes is read as what it was. -/
theorem readString_quote (text : String) {rest : List Char} (noQuote : rest.head? ≠ some '"')
    (noTick : rest.head? ≠ some '\x27') :
    readString ((quote text).toList ++ rest) = some (text, rest) := by
  have whole : String.ofList text.toList = text := String.ofList_toList
  obtain way | ⟨way, nonempty, plain⟩ | way | ⟨way, shows⟩ := quotingOf_cases text.toList
  · simp only [quote, way, String.toList_ofList]
    rw [List.append_assoc, List.append_assoc, List.singleton_append, List.singleton_append,
      readString_shortEscaped _ noQuote, whole]
  · simp only [quote, way, String.toList_ofList]
    rw [List.append_assoc, List.append_assoc, List.singleton_append, List.singleton_append,
      readString_verbatim nonempty plain, whole]
  · simp only [quote, way, String.toList_ofList]
    rw [readString_quoteLong (.inl rfl) (shows_longEscaped _ (Nat.zero_le 2)) noQuote, whole]
  · simp only [quote, way, String.toList_ofList]
    rw [readString_quoteLong (.inr rfl) shows noTick, whole]

/-- A name stands for itself or in quotes of one line. -/
theorem nameText_cases (name : String) :
    (nameText name = name ∧ name.toList ≠ [] ∧ ∀ c ∈ name.toList, isBareChar c = true) ∨
      (nameText name).toList = '"' :: (shortEscaped name.toList ++ ['"']) ∨
      ((nameText name).toList = '\x27' :: (name.toList ++ ['\x27']) ∧
        ∀ c ∈ name.toList, isPlain c = true ∧ c ≠ '\x27') := by
  have escaped : ("\"" ++ String.ofList (shortEscaped name.toList) ++ "\"").toList =
      '"' :: (shortEscaped name.toList ++ ['"']) := by
    simp [String.toList_append]
  unfold nameText
  dsimp only
  split
  next bare =>
    simp only [Bool.and_eq_true, Bool.not_eq_true', List.isEmpty_eq_false_iff, List.all_eq_true]
      at bare
    exact .inl ⟨rfl, bare⟩
  next =>
    split
    next => exact .inr (.inl escaped)
    next =>
      split
      next fits =>
        refine .inr (.inr ⟨by simp [String.toList_append], fun c member => ?_⟩)
        rw [Bool.not_eq_true', List.any_eq_false] at fits
        have fits := fits c member
        simp only [Bool.or_eq_true, beq_iff_eq, not_or, Bool.not_eq_true] at fits
        exact ⟨(isPlain_of_not_needsEscape fits.1.1).resolve_left fits.1.2, fits.2⟩
      next => exact .inr (.inl escaped)

end ResourceEditor.Toml
