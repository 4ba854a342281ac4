import Mathlib.Data.List.Basic
import ResourceEditor.Proofs.Decimal.Spelling
import ResourceEditor.Proofs.Toml.Quoting
import ResourceEditor.Toml.Reader
/-
This file shows that a document that is written from statements is read as these statements, where
the values are texts, truth values and counts.
-/

namespace ResourceEditor.Toml

open Decimal

/-! Counts and truth values are words. -/

theorem head?_toDigits_ne {n : Nat} (positive : 0 < n) : (Nat.toDigits 10 n).head? ≠ some '0' := by
  induction n using Nat.strongRecOn with
  | ind n ih =>
      rw [Nat.toDigits_eq_if (by decide)]
      split
      next small =>
        have digits : ∀ n < 10, 0 < n → [n.digitChar].head? ≠ some '0' := by decide
        exact digits n small positive
      next large =>
        rw [List.head?_append_of_ne_nil _ Nat.toDigits_ne_nil]
        exact ih (n / 10) (by omega) (by omega)

section

variable {text : List Char} (digits : ∀ c ∈ text, c.isDigit = true)

include digits

theorem not_mem_of_digits {c : Char} (other : c.isDigit = false) : c ∉ text :=
  fun member => by simp [digits c member] at other

theorem isDate_of_digits : isDate text = false := by
  rw [isDate, Text.splitAll_of_not_mem (not_mem_of_digits digits rfl)]

theorem isTime_of_digits : isTime text = false := by
  have whole : text.span (· != '.') = (text, []) := by
    have all : ∀ c ∈ text, (c != '.') = true := by
      rintro c member
      refine bne_iff_ne.mpr ?_
      rintro rfl
      exact not_mem_of_digits digits rfl member
    simpa using span_append all [] (by simp)
  have noColon : ':' ∉ text := not_mem_of_digits digits rfl
  rw [isTime, whole]
  simp only [Text.splitAll_of_not_mem noColon]

theorem isMoment_of_digits : isMoment text = false := by
  have first : ∀ c ∈ text.take 10, c.isDigit = true :=
    fun c member => digits c (List.mem_of_mem_take member)
  unfold isMoment
  rw [isTime_of_digits digits, isDate_of_digits digits, isDate_of_digits first]
  split <;> rfl

theorem splitSign_of_digits : splitSign text = (false, text) := by
  unfold splitSign
  split
  next => exact absurd List.mem_cons_self (not_mem_of_digits digits rfl)
  next => exact absurd List.mem_cons_self (not_mem_of_digits digits rfl)
  next => rfl

theorem readInteger_of_digits : readInteger text = readDecimal text := by
  unfold readInteger
  split
  next => exact absurd (by simp) (not_mem_of_digits digits (c := 'x') rfl)
  next => exact absurd (by simp) (not_mem_of_digits digits (c := 'o') rfl)
  next => exact absurd (by simp) (not_mem_of_digits digits (c := 'b') rfl)
  next => rfl

end

theorem readWhole_toDigits (n : Nat) :
    readWhole (Nat.toDigits 10 n) = some (Nat.toDigits 10 n) := by
  have single : Text.splitAll '_' (Nat.toDigits 10 n) = [Nat.toDigits 10 n] :=
    Text.splitAll_of_not_mem Nat.underscore_not_in_toDigits
  have all : ([Nat.toDigits 10 n].all fun group => !group.isEmpty && group.all isDigit) = true := by
    simp only [List.all_cons, List.all_nil, Bool.and_true, Bool.and_eq_true, Bool.not_eq_true',
      List.isEmpty_eq_false_iff, List.all_eq_true, isDigit_eq]
    exact ⟨Nat.toDigits_ne_nil, isDigit_of_mem_toDigits⟩
  have noZero : ((Nat.toDigits 10 n).length == 1 || (Nat.toDigits 10 n).head? != some '0') =
      true := by
    rw [Bool.or_eq_true, beq_iff_eq, bne_iff_ne]
    rcases Nat.eq_zero_or_pos n with rfl | positive
    · exact .inl rfl
    · exact .inr (head?_toDigits_ne positive)
  have ungrouped : ungroup isDigit (Nat.toDigits 10 n) = some (Nat.toDigits 10 n) := by
    rw [ungroup, single, if_pos all, List.flatten_singleton]
  rw [readWhole, ungrouped, Option.filter_some, if_pos noZero]

/-- The digits of a count are read as the count. -/
theorem ofWord_toDigits {n : Nat} (fits : n < signedLimit) :
    ofWord (Nat.toDigits 10 n) = some (.integer n) := by
  have digits : ∀ c ∈ Nat.toDigits 10 n, c.isDigit = true := isDigit_of_mem_toDigits
  have other {word : List Char} {c : Char} (inside : c ∈ word) (noDigit : c.isDigit = false) :
      Nat.toDigits 10 n ≠ word :=
    fun same => not_mem_of_digits digits noDigit (same ▸ inside)
  have noName : isSpecialNumeral (Nat.toDigits 10 n) = false := by
    rw [isSpecialNumeral, splitSign_of_digits digits, Bool.or_eq_false_iff, beq_eq_false_iff_ne,
      beq_eq_false_iff_ne]
    exact ⟨other List.mem_cons_self rfl, other List.mem_cons_self rfl⟩
  have read : readInteger (Nat.toDigits 10 n) = some (n : Int) := by
    rw [readInteger_of_digits digits, readDecimal, splitSign_of_digits digits]
    simp only [readWhole_toDigits, Option.bind_some, ofDigits_toDigits, if_neg Bool.false_ne_true,
      if_pos fits]
  rw [ofWord, if_neg (other List.mem_cons_self rfl), if_neg (other List.mem_cons_self rfl),
    if_neg (Bool.eq_false_iff.mp (isMoment_of_digits digits)),
    if_neg (Bool.eq_false_iff.mp noName), read]

/-- The values of records without lists and tables, where integers are counts. -/
inductive IsScalar : Toml → Prop where
  | string (text : String) : IsScalar (.string text)
  | bool (value : Bool) : IsScalar (.bool value)
  | count {n : Nat} : n < signedLimit → IsScalar (.integer n)

theorem toList_valueText_count (n : Nat) :
    (valueText (.integer n)).toList = Nat.toDigits 10 n := by
  rw [valueText]
  exact Nat.toList_repr

theorem quote_begins (text : String) :
    (quote text).toList.head? = some '"' ∨ (quote text).toList.head? = some '\x27' := by
  rw [quote, String.toList_ofList]
  split
  · exact .inl rfl
  · exact .inr rfl
  · exact .inl rfl
  · exact .inr rfl

theorem readWord_append {word : List Char} {value : Toml} (all : ∀ c ∈ word, isWordChar c = true)
    (read : ofWord word = some value) (rest : List Char) :
    readWord (word ++ '\n' :: rest) = some (value, '\n' :: rest) := by
  have span := span_append all ('\n' :: rest) (by simp [isWordChar])
  rw [readWord, span]
  simp [continuesDate, read]

namespace Reader

/-- The second of two readers goes on where the first one ends. -/
theorem run_bind {α β : Type} {first : Reader α} {next : α → Reader β} {text rest : List Char}
    {value : α} (ran : first.run text = some (value, rest)) :
    (first >>= next).run text = (next value).run rest := by
  rw [StateT.run_bind, ran]
  rfl

theorem run_get (text : List Char) : (get : Reader _).run text = some (text, text) := rfl

theorem run_peek (text : List Char) : peek.run text = some (text.head?, text) := rfl

theorem run_skipGap (text : List Char) : skipGap.run text = some ((), text.dropWhile isGap) := rfl

theorem run_string (text : String) (rest : List Char) :
    string.run ((quote text).toList ++ '\n' :: rest) = some (.string text, '\n' :: rest) := by
  have read : StateT.run (readString : Reader String) ((quote text).toList ++ '\n' :: rest) =
      some (text, '\n' :: rest) := readString_quote text (by simp) (by simp)
  rw [string, run_bind read]
  rfl

/-- What begins without a quote is a word. -/
theorem run_word {word : List Char} {toml : Toml} (nonempty : word ≠ [])
    (all : ∀ c ∈ word, isWordChar c = true) (read : ofWord word = some toml) (rest : List Char) :
    value.scalar.run (word ++ '\n' :: rest) = some (toml, '\n' :: rest) := by
  rw [value.scalar, run_bind (run_peek _)]
  cases word with
  | nil => exact absurd rfl nonempty
  | cons c word =>
      have isWord := all c List.mem_cons_self
      rw [List.cons_append, List.head?_cons]
      split
      next same =>
        cases same
        exact absurd isWord (by decide)
      next same =>
        cases same
        exact absurd isWord (by decide)
      next => exact readWord_append all read rest

/-- A value ends with its line. -/
theorem run_scalar {toml : Toml} (isScalar : IsScalar toml) (rest : List Char) :
    value.scalar.run ((valueText toml).toList ++ '\n' :: rest) = some (toml, '\n' :: rest) := by
  cases isScalar with
  | string text =>
      have quoted := run_string text rest
      rw [valueText, value.scalar, run_bind (run_peek _), List.head?_append]
      obtain begins | begins := quote_begins text
      · rw [begins]
        exact quoted
      · rw [begins]
        exact quoted
  | bool value =>
      cases value with
      | true =>
          have letters : (valueText (.bool true)).toList = ['t', 'r', 'u', 'e'] := rfl
          rw [letters]
          exact run_word (List.cons_ne_nil _ _) (List.all_eq_true.mp rfl) rfl rest
      | false =>
          have letters : (valueText (.bool false)).toList = ['f', 'a', 'l', 's', 'e'] := rfl
          rw [letters]
          exact run_word (List.cons_ne_nil _ _) (List.all_eq_true.mp rfl) rfl rest
  | count fits =>
      rw [toList_valueText_count]
      refine run_word Nat.toDigits_ne_nil (fun c member => ?_) (ofWord_toDigits fits) rest
      simp [isWordChar, Char.isAlphanum, isDigit_of_mem_toDigits c member]

theorem run_accept (c : Char) (rest : List Char) :
    (accept c).run (c :: rest) = some (true, rest) := by
  change (if c == c then _ else _) = _
  rw [if_pos (beq_self_eq_true c)]

theorem run_accept_other {c : Char} {text : List Char} (other : text.head? ≠ some c) :
    (accept c).run text = some (false, text) := by
  cases text with
  | nil => rfl
  | cons d rest =>
      have differ : ¬(d == c) = true := fun same => other (congrArg some (eq_of_beq same))
      change (if d == c then _ else _) = _
      rw [if_neg differ]

theorem run_expect (c : Char) (rest : List Char) :
    (expect c).run (c :: rest) = some ((), rest) := by
  change (if c == c then _ else _) = _
  rw [if_pos (beq_self_eq_true c)]

theorem valueText_begins {toml : Toml} (isScalar : IsScalar toml) :
    ∃ c rest, (valueText toml).toList = c :: rest ∧ c ≠ '[' ∧ c ≠ '\x7b' ∧ isGap c = false := by
  cases isScalar with
  | string text =>
      rw [valueText]
      obtain begins | begins := quote_begins text <;>
        obtain ⟨rest, shape⟩ := List.head?_eq_some_iff.mp begins <;>
        exact ⟨_, rest, shape, by decide, by decide, rfl⟩
  | bool value => cases value <;> exact ⟨_, _, rfl, by decide, by decide, rfl⟩
  | @count n fits =>
      obtain ⟨c, rest, shape⟩ := List.exists_cons_of_ne_nil (Nat.toDigits_ne_nil (n := n) (b := 10))
      have digit : c.isDigit = true := isDigit_of_mem_toDigits c (shape ▸ List.mem_cons_self)
      rw [toList_valueText_count]
      have other (d : Char) (noDigit : d.isDigit = false) : c ≠ d := by
        rintro rfl
        rw [digit] at noDigit
        cases noDigit
      refine ⟨c, rest, shape, other _ rfl, other _ rfl, ?_⟩
      rw [isGap, Bool.or_eq_false_iff, beq_eq_false_iff_ne, beq_eq_false_iff_ne]
      exact ⟨other _ rfl, other _ rfl⟩

theorem run_value {toml : Toml} (isScalar : IsScalar toml) (depth : Nat) (rest : List Char) :
    (value depth).run ((valueText toml).toList ++ '\n' :: rest) = some (toml, '\n' :: rest) := by
  cases depth with
  | zero => exact run_scalar isScalar rest
  | succ depth =>
      obtain ⟨c, more, shape, noList, noTable, _⟩ := valueText_begins isScalar
      have begins (d : Char) (other : c ≠ d) :
          ((valueText toml).toList ++ '\n' :: rest).head? ≠ some d := by
        rw [shape]
        exact fun same => other (Option.some.inj same)
      rw [value, run_bind (run_accept_other (begins _ noList)), if_neg Bool.false_ne_true,
        run_bind (run_accept_other (begins _ noTable)), if_neg Bool.false_ne_true]
      exact run_scalar isScalar rest

theorem run_bareName {word rest : List Char} (nonempty : word ≠ [])
    (bare : ∀ c ∈ word, isBareChar c = true) (ends : ∀ c ∈ rest.head?, isBareChar c = false) :
    name.run (word ++ rest) = some (String.ofList word, rest) := by
  have span := span_append bare rest ends
  rw [name, run_bind (run_get _)]
  cases word with
  | nil => exact absurd rfl nonempty
  | cons c word =>
      have isBare := bare c List.mem_cons_self
      rw [List.cons_append] at span ⊢
      split
      next same =>
        cases same
        exact absurd isBare (by decide)
      next same =>
        cases same
        exact absurd isBare (by decide)
      next =>
        rw [span]
        rfl

theorem run_name (text : String) {rest : List Char}
    (ends : ∀ c ∈ rest.head?, isBareChar c = false) :
    name.run ((nameText text).toList ++ rest) = some (text, rest) := by
  have whole : String.ofList text.toList = text := String.ofList_toList
  obtain ⟨shape, nonempty, bare⟩ | shape | ⟨shape, plain⟩ := nameText_cases text
  · rw [shape, run_bareName nonempty bare ends, whole]
  · have read := readShortString_shortEscaped text.toList rest
    rw [whole] at read
    rw [shape, List.cons_append, List.append_assoc, List.singleton_append, name,
      run_bind (run_get _)]
    exact read
  · have read := readShortString_verbatim plain rest
    rw [whole] at read
    rw [shape, List.cons_append, List.append_assoc, List.singleton_append, name,
      run_bind (run_get _)]
    exact read

/-- The character with which a name can begin. -/
theorem nameText_begins (text : String) :
    ∃ c rest, (nameText text).toList = c :: rest ∧
      (isBareChar c = true ∨ c = '"' ∨ c = '\x27') := by
  obtain ⟨shape, nonempty, bare⟩ | shape | ⟨shape, _⟩ := nameText_cases text
  · obtain ⟨c, rest, begins⟩ := List.exists_cons_of_ne_nil nonempty
    exact ⟨c, rest, by rw [shape, begins], .inl (bare c (begins ▸ List.mem_cons_self))⟩
  · exact ⟨_, _, shape, .inr (.inl rfl)⟩
  · exact ⟨_, _, shape, .inr (.inr rfl)⟩

/-- A name does not begin with what stands between names and around them. -/
theorem nameText_begins_other (text : String) (rest : List Char) {c : Char}
    (outside : isBareChar c = false) (noQuote : c ≠ '"') (noTick : c ≠ '\x27') :
    ((nameText text).toList ++ rest).head? ≠ some c := by
  obtain ⟨d, more, shape, bare | rfl | rfl⟩ := nameText_begins text
  · rw [shape]
    rintro ⟨⟩
    rw [bare] at outside
    cases outside
  · rw [shape]
    exact fun same => noQuote (Option.some.inj same).symm
  · rw [shape]
    exact fun same => noTick (Option.some.inj same).symm

theorem dropWhile_nameText (text : String) (rest : List Char) :
    ((nameText text).toList ++ rest).dropWhile isGap = (nameText text).toList ++ rest := by
  have noSpace := nameText_begins_other text rest (c := ' ') rfl (by decide) (by decide)
  have noTab := nameText_begins_other text rest (c := '\t') rfl (by decide) (by decide)
  obtain ⟨c, more, shape, _⟩ := nameText_begins text
  rw [shape] at noSpace noTab ⊢
  have noGap : isGap c = false := by
    rw [isGap, Bool.or_eq_false_iff, beq_eq_false_iff_ne, beq_eq_false_iff_ne]
    exact ⟨fun same => noSpace (congrArg some same), fun same => noTab (congrArg some same)⟩
  rw [List.cons_append, List.dropWhile_cons, if_neg (Bool.eq_false_iff.mp noGap)]

/-- Names with dots between them are read up to what follows them. -/
theorem run_names {path : List String} (nonempty : path ≠ []) {rounds : Nat}
    (enough : path.length ≤ rounds) {rest : List Char}
    (ends : ∀ c ∈ rest.head?, isBareChar c = false)
    (noDot : (rest.dropWhile isGap).head? ≠ some '.') :
    (names rounds).run ((pathText path).toList ++ rest) = some (path, rest.dropWhile isGap) := by
  induction path generalizing rounds with
  | nil => exact absurd rfl nonempty
  | cons first path ih =>
      obtain _ | rounds := rounds
      · simp at enough
      have fits : path.length ≤ rounds := Nat.le_of_succ_le_succ enough
      rw [names]
      cases path with
      | nil =>
          have text : pathText [first] = nameText first := by
            simp [pathText]
          rw [text, run_bind (run_skipGap _), dropWhile_nameText, run_bind (run_name first ends),
            run_bind (run_skipGap _), run_bind (run_accept_other noDot)]
          rfl
      | cons second path =>
          have text : (pathText (first :: second :: path)).toList ++ rest =
              (nameText first).toList ++ '.' :: ((pathText (second :: path)).toList ++ rest) := by
            simp [pathText, String.toList_append]
          rw [text, run_bind (run_skipGap _), dropWhile_nameText,
            run_bind (run_name first (by simp [isBareChar])), run_bind (run_skipGap _)]
          rw [List.dropWhile_cons, if_neg (by decide), run_bind (run_accept '.' _), if_pos rfl,
            run_bind (ih (List.cons_ne_nil _ _) fits)]
          rfl

theorem pathText_begins_other {path : List String} (nonempty : path ≠ []) (rest : List Char)
    {c : Char} (outside : isBareChar c = false) (noQuote : c ≠ '"') (noTick : c ≠ '\x27') :
    ((pathText path).toList ++ rest).head? ≠ some c := by
  match path with
  | [] => exact absurd rfl nonempty
  | [first] =>
      rw [pathText, List.map_singleton, String.intercalate_singleton]
      exact nameText_begins_other first rest outside noQuote noTick
  | first :: second :: path =>
      rw [pathText, List.map_cons, List.map_cons, String.intercalate_cons_cons,
        String.toList_append, String.toList_append, List.append_assoc, List.append_assoc]
      exact nameText_begins_other first _ outside noQuote noTick

theorem dropWhile_space {c : Char} (noGap : isGap c = false) (rest : List Char) :
    (' ' :: c :: rest).dropWhile isGap = c :: rest := by
  rw [List.dropWhile_cons_of_pos rfl, List.dropWhile_cons_of_neg (Bool.eq_false_iff.mp noGap)]

theorem dropWhile_other {c : Char} (noGap : isGap c = false) (rest : List Char) :
    (c :: rest).dropWhile isGap = c :: rest :=
  List.dropWhile_cons_of_neg (Bool.eq_false_iff.mp noGap)

theorem run_pair {path : List String} {toml : Toml} (nonempty : path ≠ [])
    (enough : path.length < depthLimit) (isScalar : IsScalar toml) (rest : List Char) :
    pair.run ((pathText path).toList ++ ' ' :: '=' :: ' ' :: ((valueText toml).toList ++
      '\n' :: rest)) = some (.pair path toml, '\n' :: rest) := by
  obtain ⟨c, more, shape, _, _, noGap⟩ := valueText_begins isScalar
  have value := run_value isScalar (depthLimit - 1) rest
  rw [shape, List.cons_append] at value ⊢
  rw [pair, Reader.path, run_bind (run_names nonempty (Nat.le_sub_one_of_lt enough)
      (by simp [isBareChar]) (by simp [isGap])), dropWhile_space rfl,
    run_bind (run_expect _ _), run_bind (run_skipGap _), dropWhile_space noGap, run_bind value]
  rfl

theorem run_header {path : List String} (nonempty : path ≠ []) (enough : path.length < depthLimit)
    (rest : List Char) :
    header.run ('[' :: ((pathText path).toList ++ ']' :: rest)) = some (.table path, rest) := by
  have noBracket : ((pathText path).toList ++ ']' :: rest).head? ≠ some '[' :=
    pathText_begins_other nonempty _ rfl (by decide) (by decide)
  rw [header, run_bind (run_expect _ _), run_bind (run_accept_other noBracket),
    if_neg Bool.false_ne_true, Reader.path,
    run_bind (run_names nonempty (Nat.le_sub_one_of_lt enough) (by simp [isBareChar])
      (by simp [isGap])), dropWhile_other rfl, run_bind (run_expect _ _)]
  rfl

end Reader

/-- A table or a value in a table, below names as deep as documents go. -/
inductive Statement.IsPlain : Statement → Prop where
  | table {path : List String} : path ≠ [] → path.length < Reader.depthLimit → IsPlain (.table path)
  | pair {path : List String} {value : Toml} : path ≠ [] → path.length < Reader.depthLimit →
      IsScalar value → IsPlain (.pair path value)

namespace Reader

/-- A statement is read up to the end of its line. -/
theorem run_statement {line : Statement} (plain : line.IsPlain) (rest : List Char) :
    statement.run (line.text.toList ++ rest) = some (line, '\n' :: rest) := by
  rw [statement, run_bind (run_peek _)]
  cases plain with
  | @table path nonempty enough =>
      have text : (Statement.table path).text.toList ++ rest =
          '[' :: ((pathText path).toList ++ ']' :: '\n' :: rest) := by
        simp [Statement.text, String.toList_append]
      rw [text]
      exact run_header nonempty enough _
  | @pair path value nonempty enough isScalar =>
      have text : (Statement.pair path value).text.toList ++ rest =
          (pathText path).toList ++ ' ' :: '=' :: ' ' :: ((valueText value).toList ++
            '\n' :: rest) := by
        simp [Statement.text, String.toList_append]
      have noBracket := pathText_begins_other nonempty (' ' :: '=' :: ' ' ::
        ((valueText value).toList ++ '\n' :: rest)) (c := '[') rfl (by decide) (by decide)
      rw [text, if_neg (by simpa using noBracket)]
      exact run_pair nonempty enough isScalar rest

/-- No gap, comment, line end or mark of the byte order comes before a statement. -/
theorem text_begins {line : Statement} (plain : line.IsPlain) :
    ∃ c more, line.text.toList = c :: more ∧ isGap c = false ∧ c ≠ '#' ∧ c ≠ '\n' ∧ c ≠ '\r' ∧
      c ≠ '\uFEFF' := by
  cases plain with
  | @table path =>
      exact ⟨'[', (pathText path).toList ++ [']', '\n'],
        by simp [Statement.text, String.toList_append], rfl, by decide⟩
  | @pair path value nonempty =>
      have begins (d : Char) (outside : isBareChar d = false) (noQuote : d ≠ '"')
          (noTick : d ≠ '\x27') : (Statement.pair path value).text.toList.head? ≠ some d := by
        rw [Statement.text, String.toList_append, String.toList_append, String.toList_append,
          List.append_assoc, List.append_assoc]
        exact pathText_begins_other nonempty _ outside noQuote noTick
      obtain ⟨c, more, shape⟩ : ∃ c more, (Statement.pair path value).text.toList = c :: more := by
        refine List.exists_cons_of_ne_nil ?_
        simp [Statement.text, String.toList_append]
      rw [shape] at begins
      have other (d : Char) (outside : isBareChar d = false) (noQuote : d ≠ '"')
          (noTick : d ≠ '\x27') : c ≠ d :=
        fun same => begins d outside noQuote noTick (congrArg some same)
      refine ⟨c, more, shape, ?_, other _ rfl (by decide) (by decide),
        other _ rfl (by decide) (by decide), other _ rfl (by decide) (by decide),
        other _ rfl (by decide) (by decide)⟩
      rw [isGap, Bool.or_eq_false_iff, beq_eq_false_iff_ne, beq_eq_false_iff_ne]
      exact ⟨other _ rfl (by decide) (by decide), other _ rfl (by decide) (by decide)⟩

theorem run_finishLine (rest : List Char) : finishLine.run ('\n' :: rest) = some ((), rest) := rfl

theorem run_skipLines {c : Char} {more : List Char} (noGap : isGap c = false) (noComment : c ≠ '#')
    (noBreak : c ≠ '\n') (noReturn : c ≠ '\r') (rounds : Nat) :
    (skipLines rounds).run (c :: more) = some ((), c :: more) := by
  cases rounds with
  | zero => rfl
  | succ rounds =>
      have comment : ¬(some c == some '#') = true := by
        simpa using noComment
      have skipped : skipComment.run (c :: more) = some ((), c :: more) := by
        rw [skipComment, run_bind (run_peek _), List.head?_cons, if_neg comment]
        rfl
      rw [skipLines, run_bind (run_skipGap _), dropWhile_other noGap, run_bind skipped,
        run_bind (run_get _)]
      split
      next same => exact absurd (List.cons.inj same).1 noBreak
      next same => exact absurd (List.cons.inj same).1 noReturn
      next => rfl

theorem run_skipLines_break (rounds : Nat) (rest : List Char) :
    (skipLines (rounds + 1)).run ('\n' :: rest) = (skipLines rounds).run rest := rfl

/-- Between two statements there may be a blank line. -/
theorem run_skipBlank {blank : List Char} (isBlank : blank = [] ∨ blank = ['\n'])
    {line : Statement} (plain : line.IsPlain) (rest : List Char) :
    skipBlank.run (blank ++ (line.text.toList ++ rest)) = some ((), line.text.toList ++ rest) := by
  obtain ⟨c, more, shape, noGap, noComment, noBreak, noReturn, _⟩ := text_begins plain
  rw [skipBlank, run_bind (run_get _), shape, List.cons_append]
  obtain rfl | rfl := isBlank
  · exact run_skipLines noGap noComment noBreak noReturn _
  · rw [List.cons_append, run_skipLines_break]
    exact run_skipLines noGap noComment noBreak noReturn _

/-- The lines of a document after the first one. -/
def laterText (lines : List Statement) : List Char :=
  (String.join (lines.map fun statement =>
    (if statement.isHeader then "\n" else "") ++ statement.text)).toList

theorem run_statements_cons {blank : List Char} (isBlank : blank = [] ∨ blank = ['\n'])
    {line : Statement} (plain : line.IsPlain) {lines : List Statement} {rest : List Char}
    {rounds : Nat} (later : (statements rounds).run rest = some (lines, [])) :
    (statements (rounds + 1)).run (blank ++ (line.text.toList ++ rest)) =
      some (line :: lines, []) := by
  obtain ⟨c, more, shape, _⟩ := text_begins plain
  have nonempty : ¬(line.text.toList ++ rest).isEmpty = true := by
    rw [shape]
    exact Bool.false_ne_true
  rw [statements, run_bind (run_skipBlank isBlank plain rest), run_bind (run_get _),
    if_neg nonempty, run_bind (run_statement plain rest), run_bind (run_finishLine rest),
    run_bind later]
  rfl

theorem run_statements {lines : List Statement} (plain : ∀ line ∈ lines, line.IsPlain)
    {rounds : Nat} (enough : lines.length < rounds) :
    (statements rounds).run (laterText lines) = some (lines, []) := by
  induction lines generalizing rounds with
  | nil =>
      obtain _ | rounds := rounds
      · simp at enough
      · rfl
  | cons line lines ih =>
      obtain _ | rounds := rounds
      · simp at enough
      obtain ⟨here, later⟩ := List.forall_mem_cons.mp plain
      have read := ih later (Nat.lt_of_succ_lt_succ enough)
      have text : laterText (line :: lines) =
          (if line.isHeader then ['\n'] else []) ++ (line.text.toList ++ laterText lines) := by
        rw [laterText, laterText, List.map_cons, String.join_cons, String.toList_append,
          String.toList_append, List.append_assoc]
        cases line.isHeader <;> rfl
      rw [text]
      refine run_statements_cons ?_ here read
      split
      · exact .inr rfl
      · exact .inl rfl

end Reader

theorem Reader.length_le_laterText (lines : List Statement) (plain : ∀ line ∈ lines, line.IsPlain) :
    lines.length ≤ (laterText lines).length := by
  induction lines with
  | nil => exact Nat.zero_le _
  | cons line lines ih =>
      obtain ⟨here, later⟩ := List.forall_mem_cons.mp plain
      obtain ⟨c, more, shape, _⟩ := text_begins here
      have fits := ih later
      rw [laterText] at fits ⊢
      simp only [List.map_cons, String.join_cons, String.toList_append, List.length_append,
        List.length_cons, shape]
      omega

/-- A document is read as the statements that it was written from. -/
theorem readStatements_writeStatements {lines : List Statement}
    (plain : ∀ line ∈ lines, line.IsPlain) :
    readStatements (writeStatements lines) = some lines := by
  cases lines with
  | nil => rfl
  | cons line lines =>
      obtain ⟨here, later⟩ := List.forall_mem_cons.mp plain
      obtain ⟨c, more, shape, _, _, _, _, noMark⟩ := Reader.text_begins here
      have text : (writeStatements (line :: lines)).toList =
          line.text.toList ++ Reader.laterText lines := String.toList_append
      have noMark : dropOrderMark (line.text.toList ++ Reader.laterText lines) =
          line.text.toList ++ Reader.laterText lines := by
        rw [shape, List.cons_append]
        unfold dropOrderMark
        split
        next same => exact absurd (List.cons.inj same).1 noMark
        next => rfl
      have enough : lines.length < (line.text.toList ++ Reader.laterText lines).length := by
        have fits := Reader.length_le_laterText lines later
        rw [List.length_append, shape, List.length_cons]
        omega
      have read := Reader.run_statements_cons (.inl rfl) here
        (Reader.run_statements later enough)
      rw [List.nil_append] at read
      rw [readStatements, text]
      simp only [noMark, read, Option.map_some]

end ResourceEditor.Toml
