import Mathlib.Data.List.Basic
import ResourceEditor.Pattern.Basic
import ResourceEditor.Proofs.Pattern.Language
/-
This file says what addresses look like, in words of numbers and positions, and shows that the
patterns are for these texts and no others.
-/

namespace ResourceEditor

namespace Pattern

open Expression

/-- Four numbers from 0 to 255, joined by points. -/
def IsIpv4 (text : String) : Prop :=
  ∃ a b c d : Nat, (a ≤ 255 ∧ b ≤ 255 ∧ c ≤ 255 ∧ d ≤ 255) ∧
    text = toString a ++ "." ++ toString b ++ "." ++ toString c ++ "." ++ toString d

def IsHexDigit (c : Char) : Prop :=
  'a' ≤ c ∧ c ≤ 'f' ∨ 'A' ≤ c ∧ c ≤ 'F' ∨ '0' ≤ c ∧ c ≤ '9'

/-- Every third character is a colon or a hyphen, and all others are digits of base 16. -/
def IsPaired (text : List Char) : Prop :=
  ∀ position c, text[position]? = some c →
    if position % 3 = 2 then c = ':' ∨ c = '-' else IsHexDigit c

/-- Six pairs of digits with a separator after each but the last. -/
def IsMac (text : String) : Prop := text.length = 17 ∧ IsPaired text.toList

def IsImsi (text : String) : Prop :=
  (text.length = 14 ∨ text.length = 15) ∧ ∀ c ∈ text.toList, '0' ≤ c ∧ c ≤ '9'

/-! Expressions for numbers. -/

/-- Whether an expression is for the numbers in a range, written without leading zeros. -/
def IsFor (expression : Expression) (range : Nat → Prop) : Prop :=
  ∀ text, expression.Accepts text ↔ ∃ n, range n ∧ text = Nat.toDigits 10 n

variable {expression part option : Expression} {parts options : List Expression}
  {range other : Nat → Prop} {text : List Char}

theorem IsFor.congr (isFor : IsFor expression range) (same : ∀ n, range n ↔ other n) :
    IsFor expression other := by
  intro text
  rw [isFor text]
  exact exists_congr fun n => and_congr_left' (same n)

theorem isFor_digits (low high : Nat) (small : high ≤ 9) (order : low ≤ high) :
    IsFor (digits low.digitChar high.digitChar) fun n => low ≤ n ∧ n ≤ high := by
  intro text
  have code {n : Nat} (inside : n ≤ high) : n.digitChar.toNat = 48 + n :=
    Nat.toNat_digitChar_of_lt_ten (by omega)
  have between (c : Char) : low.digitChar ≤ c ∧ c ≤ high.digitChar ↔
      48 + low ≤ c.toNat ∧ c.toNat ≤ 48 + high := by
    rw [← code order, ← code (Nat.le_refl high)]
    simp only [Char.le_def, UInt32.le_iff_toNat_le]
    rfl
  simp only [digits, accepts_oneOf_iff, List.mem_singleton, exists_eq_left, CharRange.holds,
    Bool.and_eq_true, decide_eq_true_eq, between]
  constructor
  · rintro ⟨c, rfl, least, most⟩
    have same : c = (c.toNat - 48).digitChar := by
      rw [← Char.toNat_inj, code (by omega)]
      omega
    refine ⟨c.toNat - 48, by omega, ?_⟩
    rw [Nat.toDigits_of_lt_base (by omega), ← same]
  · rintro ⟨n, ⟨least, most⟩, rfl⟩
    refine ⟨n.digitChar, Nat.toDigits_of_lt_base (by omega), ?_⟩
    rw [code most]
    omega

theorem isFor_char (digit : Nat) (small : digit ≤ 9) :
    IsFor (.char digit.digitChar) fun n => n = digit := by
  intro text
  rw [accepts_char_iff, exists_eq_left, Nat.toDigits_of_lt_base (Nat.lt_succ_of_le small)]

theorem IsFor.single (isFor : IsFor part range) : IsFor (.sequence [part]) range := by
  intro text
  rw [accepts_single_iff, isFor text]

/-- One more digit at the end. -/
theorem IsFor.snoc (front : IsFor (.sequence parts) range) (last : IsFor part other)
    (positive : ∀ n, range n → 0 < n) (small : ∀ n, other n → n ≤ 9) :
    IsFor (.sequence (parts ++ [part])) fun n => range (n / 10) ∧ other (n % 10) := by
  intro text
  simp only [accepts_append_iff, accepts_single_iff, front _, last _]
  constructor
  · rintro ⟨_, _, ⟨n, here, rfl⟩, ⟨digit, there, rfl⟩, rfl⟩
    have quotient : (10 * n + digit) / 10 = n := by have := small digit there; omega
    have remainder : (10 * n + digit) % 10 = digit := by have := small digit there; omega
    refine ⟨10 * n + digit, ?_, Nat.toDigits_append_toDigits (by decide) (positive n here)
      (Nat.lt_succ_of_le (small digit there))⟩
    rw [quotient, remainder]
    exact ⟨here, there⟩
  · rintro ⟨n, ⟨here, there⟩, rfl⟩
    refine ⟨_, _, ⟨_, here, rfl⟩, ⟨_, there, rfl⟩, ?_⟩
    rw [Nat.toDigits_append_toDigits (by decide) (positive _ here) (Nat.mod_lt _ (by decide)),
      Nat.div_add_mod]

theorem isFor_none : IsFor (.choice []) fun _ => False := by
  intro text
  simp only [accepts_choice_iff, List.not_mem_nil, false_and, exists_false]

theorem IsFor.or (first : IsFor option range) (others : IsFor (.choice options) other) :
    IsFor (.choice (option :: options)) fun n => range n ∨ other n := by
  intro text
  simp only [accepts_choice_cons_iff, first text, others text, or_and_right, exists_or]

theorem IsFor.of_accepts {same : Expression} (isFor : IsFor expression range)
    (accepts : ∀ text, same.Accepts text ↔ expression.Accepts text) : IsFor same range :=
  fun text => (accepts text).trans (isFor text)

theorem isFor_octet : IsFor octet fun n => n ≤ 255 := by
  have digit : IsFor (digits '0' '9') fun n => 0 ≤ n ∧ n ≤ 9 :=
    isFor_digits 0 9 (by decide) (by decide)
  have leading : IsFor (digits '1' '9') fun n => 1 ≤ n ∧ n ≤ 9 :=
    isFor_digits 1 9 (by decide) (by decide)
  have one : IsFor (.char '1') fun n => n = 1 := isFor_char 1 (by decide)
  have two : IsFor (.char '2') fun n => n = 2 := isFor_char 2 (by decide)
  have five : IsFor (.char '5') fun n => n = 5 := isFor_char 5 (by decide)
  have lessThanFive : IsFor (digits '0' '4') fun n => 0 ≤ n ∧ n ≤ 4 :=
    isFor_digits 0 4 (by decide) (by decide)
  have upToFive : IsFor (digits '0' '5') fun n => 0 ≤ n ∧ n ≤ 5 :=
    isFor_digits 0 5 (by decide) (by decide)
  have tens := leading.single.snoc digit (by omega) (by omega)
  have hundreds := (one.single.snoc digit (by omega) (by omega)).snoc digit (by omega) (by omega)
  have twoHundreds :=
    (two.single.snoc lessThanFive (by omega) (by omega)).snoc digit (by omega) (by omega)
  have last := (two.single.snoc five (by omega) (by omega)).snoc upToFive (by omega) (by omega)
  have repeated : IsFor (.sequence [.char '1', .times (digits '0' '9') 2 2]) _ :=
    hundreds.of_accepts fun text => by
      change _ ↔ Accepts (.sequence (.char '1' :: (List.replicate 2 (digits '0' '9') ++ []))) text
      rw [accepts_cons_iff, accepts_cons_iff]
      simp only [accepts_repeat_iff]
  refine (digit.or (tens.or (repeated.or (twoHundreds.or (last.or isFor_none))))).congr fun n => ?_
  simp only [or_false]
  omega

/-! Addresses. -/

/-- A number and a point, and what follows. -/
theorem accepts_octet_cons_iff :
    Accepts (.sequence (.choice [.sequence [octet, .char '.']] :: parts)) text ↔
      ∃ n, n ≤ 255 ∧ ∃ back, Accepts (.sequence parts) back ∧
        text = Nat.toDigits 10 n ++ '.' :: back := by
  rw [accepts_cons_iff]
  simp only [accepts_pair_iff, accepts_char_iff, isFor_octet _]
  constructor
  · rintro ⟨_, back, ⟨_, _, ⟨n, small, rfl⟩, rfl, rfl⟩, others, rfl⟩
    exact ⟨n, small, back, others, (List.append_cons _ _ _).symm⟩
  · rintro ⟨n, small, back, others, rfl⟩
    exact ⟨_, back, ⟨_, _, ⟨n, small, rfl⟩, rfl, rfl⟩, others, List.append_cons _ _ _⟩

theorem isMatch_ipv4_iff (text : String) : Pattern.ipv4.isMatch text = true ↔ IsIpv4 text := by
  have written (a b c d : Nat) :
      text = toString a ++ "." ++ toString b ++ "." ++ toString c ++ "." ++ toString d ↔
        text.toList = Nat.toDigits 10 a ++ '.' :: (Nat.toDigits 10 b ++ '.' ::
          (Nat.toDigits 10 c ++ '.' :: Nat.toDigits 10 d)) := by
    rw [← String.toList_inj]
    simp [Nat.toList_repr]
  rw [isMatch, isMatch_iff, ipv4, accepts_repeat_iff]
  simp only [List.replicate, List.cons_append, List.nil_append, accepts_octet_cons_iff,
    accepts_single_iff, isFor_octet _, IsIpv4, written]
  constructor
  · rintro ⟨a, aSmall, _, ⟨b, bSmall, _, ⟨c, cSmall, _, ⟨d, dSmall, rfl⟩, rfl⟩, rfl⟩, same⟩
    exact ⟨a, b, c, d, ⟨aSmall, bSmall, cSmall, dSmall⟩, same⟩
  · rintro ⟨a, b, c, d, ⟨aSmall, bSmall, cSmall, dSmall⟩, same⟩
    exact ⟨a, aSmall, _, ⟨b, bSmall, _, ⟨c, cSmall, _, ⟨d, dSmall, rfl⟩, rfl⟩, rfl⟩, same⟩

theorem isMatch_imsi_iff (text : String) : Pattern.imsi.isMatch text = true ↔ IsImsi text := by
  rw [isMatch, isMatch_iff, imsi, accepts_group_iff, digits, accepts_times_oneOf_iff,
    String.length_toList, IsImsi]
  simp only [List.mem_singleton, exists_eq_left, CharRange.holds, Bool.and_eq_true,
    decide_eq_true_eq]
  exact and_congr_left' (by omega)

theorem isPaired_pair_iff {a b : Char} : IsPaired [a, b] ↔ IsHexDigit a ∧ IsHexDigit b := by
  constructor
  · exact fun paired => ⟨paired 0 a rfl, paired 1 b rfl⟩
  · rintro ⟨aDigit, bDigit⟩ position c here
    match position with
    | 0 => exact Option.some.inj here ▸ aDigit
    | 1 => exact Option.some.inj here ▸ bDigit
    | _ + 2 => cases here

/-- Two digits and a separator at the front keep all that follows in its place among three. -/
theorem isPaired_cons_iff {a b separator : Char} :
    IsPaired (a :: b :: separator :: text) ↔
      IsPaired [a, b] ∧ (separator = ':' ∨ separator = '-') ∧ IsPaired text := by
  rw [isPaired_pair_iff]
  constructor
  · intro paired
    refine ⟨⟨paired 0 a rfl, paired 1 b rfl⟩, paired 2 separator rfl, fun position c here => ?_⟩
    have there := paired (position + 3) c here
    rwa [Nat.add_mod_right] at there
  · rintro ⟨⟨aDigit, bDigit⟩, separates, paired⟩ position c here
    match position with
    | 0 => exact Option.some.inj here ▸ aDigit
    | 1 => exact Option.some.inj here ▸ bDigit
    | 2 => exact Option.some.inj here ▸ separates
    | position + 3 =>
        rw [Nat.add_mod_right]
        exact paired position c here

theorem accepts_hexPair_iff :
    hexPair.Accepts text ↔ ∃ a b, IsPaired [a, b] ∧ text = [a, b] := by
  have digit (c : Char) : (∃ range ∈ ([⟨'a', 'f'⟩, ⟨'A', 'F'⟩, ⟨'0', '9'⟩] : List CharRange),
      range.holds c = true) ↔ IsHexDigit c := by
    simp [CharRange.holds, IsHexDigit]
  simp only [hexPair, accepts_times_oneOf_iff, digit, isPaired_pair_iff]
  constructor
  · rintro ⟨⟨least, most⟩, each⟩
    obtain ⟨a, b, rfl⟩ := List.length_eq_two.mp (Nat.le_antisymm most least)
    exact ⟨a, b, ⟨each a (by simp), each b (by simp)⟩, rfl⟩
  · rintro ⟨a, b, ⟨aDigit, bDigit⟩, rfl⟩
    refine ⟨⟨Nat.le_refl 2, Nat.le_refl 2⟩, ?_⟩
    simp only [List.forall_mem_cons]
    exact ⟨aDigit, bDigit, List.forall_mem_nil _⟩

theorem accepts_separator_iff :
    Accepts (.oneOf [.single '-', .single ':']) text ↔ ∃ c, (c = ':' ∨ c = '-') ∧ text = [c] := by
  have only (a c : Char) : (CharRange.single a).holds c = true ↔ c = a := by
    change (decide (a ≤ c) && decide (c ≤ a)) = true ↔ c = a
    rw [Bool.and_eq_true, decide_eq_true_eq, decide_eq_true_eq]
    exact ⟨fun both => Char.le_antisymm both.2 both.1, fun same => by simp [same]⟩
  have separates (c : Char) : (∃ range ∈ [CharRange.single '-', CharRange.single ':'],
      range.holds c = true) ↔ c = ':' ∨ c = '-' := by
    simp [only, or_comm]
  rw [accepts_oneOf_iff]
  exact exists_congr fun c => and_comm.trans (and_congr_left' (separates c))

/-- Pairs that each have a separator after them, and one more pair. -/
theorem accepts_pairs_iff (count : Nat) :
    Accepts (.sequence (List.replicate count (.choice
        [.sequence [hexPair, .oneOf [.single '-', .single ':']]]) ++ [.choice [hexPair]])) text ↔
      text.length = 3 * count + 2 ∧ IsPaired text := by
  induction count generalizing text with
  | zero =>
      rw [List.replicate_zero, List.nil_append, accepts_single_iff, accepts_group_iff,
        accepts_hexPair_iff]
      constructor
      · rintro ⟨a, b, paired, rfl⟩
        exact ⟨rfl, paired⟩
      · rintro ⟨two, paired⟩
        obtain ⟨a, b, rfl⟩ := List.length_eq_two.mp two
        exact ⟨a, b, paired, rfl⟩
  | succ count ih =>
      rw [List.replicate_succ, List.cons_append, accepts_cons_iff]
      simp only [accepts_pair_iff, accepts_hexPair_iff, accepts_separator_iff, ih]
      constructor
      · rintro ⟨_, back, ⟨_, _, ⟨a, b, pair, rfl⟩, ⟨c, separates, rfl⟩, rfl⟩, ⟨length, paired⟩, rfl⟩
        exact ⟨congrArg (· + 3) length, isPaired_cons_iff.mpr ⟨pair, separates, paired⟩⟩
      · rintro ⟨length, paired⟩
        obtain ⟨a, _, rfl⟩ := List.exists_of_length_succ _ length
        obtain ⟨b, _, rfl⟩ := List.exists_of_length_succ _ (Nat.succ.inj length)
        have others : _ = 3 * count + 2 + 1 := Nat.succ.inj (Nat.succ.inj length)
        obtain ⟨c, back, rfl⟩ := List.exists_of_length_succ _ others
        obtain ⟨pair, separates, paired⟩ := isPaired_cons_iff.mp paired
        exact ⟨[a, b, c], back, ⟨[a, b], [c], ⟨a, b, pair, rfl⟩, ⟨c, separates, rfl⟩, rfl⟩,
          ⟨Nat.add_right_cancel (m := 3) length, paired⟩, rfl⟩

theorem isMatch_mac_iff (text : String) : Pattern.mac.isMatch text = true ↔ IsMac text := by
  rw [isMatch, isMatch_iff, mac, accepts_repeat_iff, accepts_pairs_iff,
    String.length_toList, IsMac]

/-- Each pattern is for the addresses of its kind and for no other text: neither a line break at the
end nor a digit of another script is let in. -/
theorem isMatch_exact (text : String) :
    (Pattern.ipv4.isMatch text = true ↔ IsIpv4 text) ∧
      (Pattern.mac.isMatch text = true ↔ IsMac text) ∧
      (Pattern.imsi.isMatch text = true ↔ IsImsi text) :=
  ⟨isMatch_ipv4_iff text, isMatch_mac_iff text, isMatch_imsi_iff text⟩

end Pattern

end ResourceEditor
