import Mathlib.Data.List.Sort
import Mathlib.Data.List.TakeDrop
import Mathlib.Tactic.Ring
import ResourceEditor.Domain.Punycode
/-
This file says that a label is read back from its form in ASCII.
-/

namespace ResourceEditor.Punycode

/-! Numbers in digits. -/

theorem one_le_threshold (position bias : Nat) : 1 ≤ threshold position bias := by
  unfold threshold
  omega

theorem threshold_le (position bias : Nat) : threshold position bias ≤ 26 := by
  unfold threshold
  omega

theorem digitValue_digitChar {digit : Nat} (small : digit < 36) :
    digitValue? (digitChar digit) = some digit := by
  have all : ∀ digit < 36, digitValue? (digitChar digit) = some digit := by decide
  exact all digit small

theorem mem_digits {bias position number : Nat} {c : Char}
    (member : c ∈ digits bias position number) : ∃ digit < 36, c = digitChar digit := by
  fun_induction digits bias position number with
  | case1 position number limit small =>
      have most := threshold_le position bias
      exact ⟨number, by omega, List.mem_singleton.mp member⟩
  | case2 position number limit large ih =>
      obtain rfl | member := List.mem_cons.mp member
      · have most := threshold_le position bias
        have least := Nat.mod_lt (number - limit) (y := 36 - limit) (by omega)
        exact ⟨_, by omega, rfl⟩
      · exact ih member

theorem digits_ne_nil (bias position number : Nat) : digits bias position number ≠ [] := by
  rw [digits]
  split <;> exact List.cons_ne_nil _ _

/-- A number is read back from its digits, while the biases are those of distances in a label: the
weight of a digit is a power of 35 until only the last threshold is left. -/
theorem readNumber_digits {bias : Nat} (usual : bias ≤ 216) (number : Nat) (rest : List Char) :
    ∀ {rank weight distance : Nat}, weight ≤ 35 ^ rank → distance + number * weight < numberLimit →
      (readNumber bias (digits bias (36 * (rank + 1)) number ++ rest) (36 * (rank + 1)) weight
          distance).map (fun read => (read.1, read.2.val)) =
        some (distance + number * weight, rest) := by
  induction number using Nat.strongRecOn with
  | ind number ih =>
      intro rank weight distance light fits
      have least := one_le_threshold (36 * (rank + 1)) bias
      have most := threshold_le (36 * (rank + 1)) bias
      have last (high : 6 ≤ rank) : threshold (36 * (rank + 1)) bias = 26 := by
        unfold threshold
        omega
      obtain small | large := Nat.lt_or_ge number (threshold (36 * (rank + 1)) bias)
      · rw [digits, if_pos small, List.cons_append, List.nil_append, readNumber,
          digitValue_digitChar (by omega)]
        dsimp only
        rw [if_neg (Nat.not_le.mpr fits), if_pos small]
        rfl
      · rw [digits, if_neg (Nat.not_lt.mpr large)]
        generalize limited : threshold (36 * (rank + 1)) bias = limit at *
        have parts := Nat.mod_add_div' (number - limit) (36 - limit)
        have remainder := Nat.mod_lt (number - limit) (y := 36 - limit) (by omega)
        have smaller := Nat.div_le_self (number - limit) (36 - limit)
        generalize (number - limit) % (36 - limit) = digit at parts remainder ⊢
        generalize (number - limit) / (36 - limit) = left at parts smaller ⊢
        have whole : distance + (limit + digit) * weight + left * (weight * (36 - limit)) =
            distance + number * weight := by
          have : number = limit + digit + left * (36 - limit) := by omega
          rw [this]
          ring
        have next : weight * (36 - limit) ≤ 35 ^ (rank + 1) :=
          (Nat.mul_le_mul light (by omega)).trans (Nat.pow_succ ..).ge
        have bounded : weight * (36 - limit) < numberLimit := by
          obtain low | high := Nat.lt_or_ge rank 6
          · have power : 35 ^ (rank + 1) ≤ 35 ^ 6 := Nat.pow_le_pow_right (by decide) low
            exact Nat.lt_of_le_of_lt (next.trans power) (by decide)
          · obtain rfl := last high
            have enough : weight * 10 ≤ number * weight := by
              rw [Nat.mul_comm]
              exact Nat.mul_le_mul_right weight (by omega)
            omega
        rw [List.cons_append, readNumber, digitValue_digitChar (by omega)]
        dsimp only
        have sum : distance + (limit + digit) * weight < numberLimit := by omega
        rw [limited, if_neg (Nat.not_le.mpr sum), if_neg (Nat.not_lt.mpr (Nat.le_add_right ..)),
          if_neg (Nat.not_le.mpr bounded), Option.map_map]
        have read := ih left (by omega) next (whole.symm ▸ fits)
        rw [whole] at read
        exact read

theorem shrink_count {distance rank : Nat} (bound : distance ≤ 455 * 35 ^ rank) (count : Nat) :
    (shrink distance count).2 ≤ count + 36 * rank := by
  induction rank generalizing distance count with
  | zero =>
      rw [shrink, if_neg (by omega)]
      exact Nat.le_add_right ..
  | succ rank ih =>
      rw [shrink]
      split
      next large =>
        have less : distance / 35 ≤ 455 * 35 ^ rank := by
          rw [Nat.pow_succ] at bound
          omega
        have most := ih less (count + 36)
        omega
      next small => exact Nat.le_add_right ..

/-- A number below the limit makes no bias that is out of use. -/
theorem adapt_le {distance : Nat} (fits : distance < numberLimit) (points : Nat) (first : Bool) :
    adapt distance points first ≤ 216 := by
  unfold adapt
  dsimp only
  have half : (if first then distance / 700 else distance / 2) ≤ distance / 2 := by
    split
    · omega
    · exact Nat.le_refl _
  generalize (if first then distance / 700 else distance / 2) = halved at half ⊢
  have share := Nat.div_le_self halved points
  have bound : halved + halved / points ≤ 455 * 35 ^ 5 := by
    unfold numberLimit at fits
    omega
  have few := shrink_count bound 0
  generalize shrink (halved + halved / points) 0 = small at few ⊢
  have part : 36 * small.1 / (small.1 + 38) ≤ 36 :=
    Nat.div_le_of_le_mul (by rw [Nat.mul_comm]; omega)
  omega

/-! Labels. -/

/-- The characters of a label that are known when the writing of a code point has come to a place in
the label. -/
def known (code : Nat) (before after : List Char) : List Char :=
  before.filter (·.toNat ≤ code) ++ after.filter (·.toNat < code)

/-- What comes before the digits. -/
def start (basic : List Char) : List Char := if basic.isEmpty then [] else basic ++ ['-']

/-- The writing of a label has come to a place in it, and what was written so far is read as the
characters that are known. The distance is counted from the place where the reading is. -/
structure Follows (basic : List Char) (code : Nat) (before after : List Char) (state : State) :
    Prop where
  handled : state.handled = (known code before after).length
  least : basic.length ≤ state.handled
  usual : state.bias ≤ 216
  follows : ∃ text reached place, state.output = start basic ++ text ∧
    (∀ c ∈ text, ∃ digit < 36, c = digitChar digit) ∧
    (∀ rest, readPlaces basic 72 128 0 (text ++ rest) =
      readPlaces (known code before after) state.bias reached place rest) ∧
    reached ≤ code ∧ (place = 0 ↔ state.handled = basic.length) ∧
    state.distance + place =
      (code - reached) * (state.handled + 1) + (before.filter (·.toNat ≤ code)).length

variable {basic label before after : List Char} {c : Char} {code : Nat} {state : State}

theorem known_lower (lower : c.toNat < code) :
    known code (before ++ [c]) after = known code before (c :: after) := by
  simp [known, lower, Nat.le_of_lt lower]

theorem known_higher (higher : code < c.toNat) :
    known code (before ++ [c]) after = known code before (c :: after) := by
  simp [known, Nat.not_le.mpr higher, Nat.not_lt.mpr (Nat.le_of_lt higher)]

theorem insertIdx_length (first last : List Char) (c : Char) :
    (first ++ last).insertIdx first.length c = first ++ c :: last := by
  induction first with
  | nil => rfl
  | cons d first ih =>
      rw [List.length_cons, List.cons_append, List.insertIdx_succ_cons, ih, List.cons_append]

theorem known_same :
    known c.toNat (before ++ [c]) after =
      (known c.toNat before (c :: after)).insertIdx
        (before.filter (·.toNat ≤ c.toNat)).length c := by
  simp [known, insertIdx_length]

/-- A character is put in where its number tells. -/
theorem readPlaces_digits {known : List Char} {bias reached place number : Nat} {c : Char}
    (usual : bias ≤ 216) (fits : place + number < numberLimit) (reaches : reached ≤ c.toNat)
    {index : Nat} (inside : index ≤ known.length)
    (told : number + place = (c.toNat - reached) * (known.length + 1) + index) (rest : List Char) :
    readPlaces known bias reached place (digits bias 36 number ++ rest) =
      readPlaces (known.insertIdx index c) (adapt number (known.length + 1) (place == 0)) c.toNat
        (index + 1) rest := by
  have below : place + number * 1 < numberLimit := by omega
  have read := readNumber_digits usual number rest (show 1 ≤ 35 ^ 0 from Nat.le_refl 1) below
  obtain ⟨⟨total, left⟩, found, same⟩ := Option.map_eq_some_iff.mp read
  obtain ⟨rfl, others⟩ := Prod.mk.inj same
  dsimp only at others
  have full : (digits bias 36 number ++ rest).isEmpty = false := by
    rw [List.isEmpty_eq_false_iff]
    exact List.append_ne_nil_of_left_ne_nil (digits_ne_nil bias 36 number) rest
  have total : place + number * 1 = (c.toNat - reached) * (known.length + 1) + index := by omega
  have quotient : (place + number * 1) / (known.length + 1) = c.toNat - reached := by
    rw [total, Nat.mul_comm, Nat.mul_add_div (Nat.succ_pos _),
      Nat.div_eq_of_lt (Nat.lt_succ_of_le inside), Nat.add_zero]
  have remainder : (place + number * 1) % (known.length + 1) = index := by
    rw [total, Nat.mul_add_mod_self_right, Nat.mod_eq_of_lt (Nat.lt_succ_of_le inside)]
  rw [readPlaces, full, if_neg Bool.false_ne_true, found]
  dsimp only
  rw [others, quotient, remainder, Nat.add_sub_cancel' reaches,
    if_pos (show c.toNat.isValidChar from c.valid), Char.ofNat_toNat]
  congr 2
  omega

theorem length_known_le (code : Nat) (before after : List Char) :
    (known code before after).length ≤ (before ++ after).length := by
  rw [known, List.length_append, List.length_append]
  exact Nat.add_le_add (List.length_filter_le ..) (List.length_filter_le ..)

theorem code_lt (c : Char) : c.toNat < 0x110000 := by
  obtain low | ⟨_, high⟩ := c.valid
  · exact Nat.lt_trans low (by decide)
  · exact high

/-- One character further. -/
theorem Follows.pass (follows : Follows basic code before (c :: after) state)
    (short : (before ++ c :: after).length ≤ 1000) :
    Follows basic code (before ++ [c]) after (state.pass basic.length code c) := by
  obtain ⟨handled, least, usual, text, reached, place, output, plain, read, reaches, first, told⟩ :=
    follows
  unfold State.pass
  split
  next lower =>
    have same : known code (before ++ [c]) after = known code before (c :: after) :=
      known_lower lower
    refine ⟨same ▸ handled, least, usual, text, reached, place, output, plain, same ▸ read, reaches,
      first, ?_⟩
    rw [List.filter_append, List.length_append]
    simp only [Nat.le_of_lt lower, decide_true, List.filter_cons_of_pos, List.filter_nil,
      List.length_singleton]
    omega
  next notLower =>
    split
    next =>
      subst code
      have index : (before.filter (·.toNat ≤ c.toNat)).length ≤
          (known c.toNat before (c :: after)).length := by
        rw [known, List.length_append]
        exact Nat.le_add_right ..
      have few := (length_known_le c.toNat before (c :: after)).trans short
      rw [handled] at told
      have fits : place + state.distance < numberLimit := by
        have high := code_lt c
        have area : (c.toNat - reached) * ((known c.toNat before (c :: after)).length + 1) ≤
            0x110000 * 1001 := Nat.mul_le_mul (by omega) (by omega)
        unfold numberLimit
        omega
      have small : state.distance < numberLimit := by omega
      refine ⟨?_, Nat.le_succ_of_le least, adapt_le small _ _,
        text ++ digits state.bias 36 state.distance, c.toNat,
        (before.filter (·.toNat ≤ c.toNat)).length + 1, ?_, ?_, fun rest => ?_, Nat.le_refl _,
        ?_, ?_⟩
      · rw [known_same, List.length_insertIdx_of_le_length index, handled]
      · rw [output, List.append_assoc]
      · exact List.forall_mem_append.mpr ⟨plain, fun c member => mem_digits member⟩
      · have initial : (state.handled == basic.length) = (place == 0) :=
          Bool.eq_iff_iff.mpr (by rw [beq_iff_eq, beq_iff_eq, first])
        rw [List.append_assoc, read, readPlaces_digits usual fits reaches index told, known_same,
          initial, handled]
      · dsimp only
        omega
      · rw [List.filter_append, List.length_append]
        simp
    next other =>
      have higher : code < c.toNat := by omega
      have same : known code (before ++ [c]) after = known code before (c :: after) :=
        known_higher higher
      refine ⟨same ▸ handled, least, usual, text, reached, place, output, plain, same ▸ read,
        reaches, first, ?_⟩
      rw [List.filter_append, List.length_append]
      simp only [Nat.not_le.mpr higher, decide_false, Bool.false_eq_true, not_false_eq_true,
        List.filter_cons_of_neg, List.filter_nil, List.length_nil]
      omega

/-- All characters further. -/
theorem Follows.foldl (follows : Follows basic code before after state)
    (short : (before ++ after).length ≤ 1000) :
    Follows basic code (before ++ after) [] (after.foldl (State.pass basic.length code) state) := by
  induction after generalizing before state with
  | nil => exact (List.append_nil before).symm ▸ follows
  | cons c after ih =>
      have next := ih (follows.pass short) (by rwa [List.append_cons] at short)
      rwa [← List.append_cons] at next

/-- At the end of the label the next code point comes. -/
theorem Follows.next (follows : Follows basic code label [] state) :
    Follows basic (code + 1) [] label { state with distance := state.distance + 1 } := by
  obtain ⟨handled, least, usual, text, reached, place, output, plain, read, reaches, first, told⟩ :=
    follows
  have same : known (code + 1) [] label = known code label [] := by
    simp only [known, List.filter_nil, List.nil_append, List.append_nil, Nat.lt_succ_iff]
  have whole : (label.filter (·.toNat ≤ code)).length = state.handled := by
    rw [handled, known, List.filter_nil, List.append_nil]
  refine ⟨same ▸ handled, least, usual, text, reached, place, output, plain, same ▸ read,
    Nat.le_succ_of_le reaches, first, ?_⟩
  rw [whole] at told
  rw [Nat.succ_sub reaches, Nat.succ_mul, List.filter_nil, List.length_nil]
  dsimp only
  omega

/-- Code points that no character has are left out. -/
theorem Follows.skip {next : Nat} (follows : Follows basic next [] label state)
    (further : next ≤ code) (none : ∀ c ∈ label, next ≤ c.toNat → code ≤ c.toNat) :
    Follows basic code [] label
      { state with distance := state.distance + (code - next) * (state.handled + 1) } := by
  obtain ⟨handled, least, usual, text, reached, place, output, plain, read, reaches, first, told⟩ :=
    follows
  have same : known code [] label = known next [] label := by
    refine congrArg₂ _ rfl (List.filter_congr fun c member => ?_)
    have above := none c member
    exact decide_eq_decide.mpr (by omega)
  refine ⟨same ▸ handled, least, usual, text, reached, place, output, plain, same ▸ read,
    reaches.trans further, first, ?_⟩
  have parts : (code - reached) * (state.handled + 1) =
      (code - next) * (state.handled + 1) + (next - reached) * (state.handled + 1) := by
    rw [← Nat.add_mul]
    congr 1
    omega
  rw [List.filter_nil, List.length_nil] at told ⊢
  rw [parts]
  dsimp only
  omega

/-- When all code points are written, the label is read. -/
theorem Follows.insert {codes : List Nat} {next : Nat} (follows : Follows basic next [] label state)
    (rising : codes.Pairwise (· < ·)) (above : ∀ code ∈ codes, next ≤ code)
    (all : ∀ c ∈ label, next ≤ c.toNat → c.toNat ∈ codes) (short : label.length ≤ 1000) :
    ∃ text, (insert label basic.length codes next state).output = start basic ++ text ∧
      (∀ c ∈ text, ∃ digit < 36, c = digitChar digit) ∧
      readPlaces basic 72 128 0 text = some label := by
  induction codes generalizing next state with
  | nil =>
      obtain ⟨_, _, _, text, reached, place, output, plain, read, _⟩ := follows
      have whole : known next [] label = label := by
        rw [known, List.filter_nil, List.nil_append, List.filter_eq_self]
        intro c member
        exact decide_eq_true (Nat.lt_of_not_le fun high => List.not_mem_nil (all c member high))
      refine ⟨text, output, plain, ?_⟩
      rw [← List.append_nil text, read, whole, readPlaces]
      rfl
  | cons code codes ih =>
      obtain ⟨first, rising⟩ := List.pairwise_cons.mp rising
      have skipped := follows.skip (above code List.mem_cons_self) fun c member high => by
        obtain same | later := List.mem_cons.mp (all c member high)
        · exact same.ge
        · exact Nat.le_of_lt (first _ later)
      refine ih (skipped.foldl short).next rising first fun c member high => ?_
      have least := (above code List.mem_cons_self).trans (Nat.le_of_succ_le high)
      obtain same | later := List.mem_cons.mp (all c member least)
      · exact absurd same (Nat.ne_of_gt high)
      · exact later

theorem pairwise_eraseDups {codes : List Nat} (sorted : codes.Pairwise (· ≤ ·)) :
    codes.eraseDups.Pairwise (· < ·) := by
  induction h : codes.length using Nat.strongRecOn generalizing codes with
  | ind size ih =>
      cases codes with
      | nil => exact List.Pairwise.nil
      | cons code codes =>
          obtain ⟨first, sorted⟩ := List.pairwise_cons.mp sorted
          rw [List.eraseDups_cons, List.pairwise_cons]
          refine ⟨fun other among => ?_, ih _ ?_ (sorted.filter _) rfl⟩
          · obtain ⟨among, differs⟩ := List.mem_filter.mp (List.mem_eraseDups.mp among)
            exact Nat.lt_of_le_of_ne (first other among) fun same => by simp [same] at differs
          · have fewer := List.length_filter_le (fun other => !other == code) codes
            rw [List.length_cons] at h
            omega

/-- What a label is written as: its characters of ASCII, a hyphen if there are any, and digits from
which the label is read. -/
theorem encode_eq (short : label.length ≤ 1000) :
    ∃ text, encode label = start (label.filter (·.toNat < 128)) ++ text ∧
      (∀ c ∈ text, ∃ digit < 36, c = digitChar digit) ∧
      readPlaces (label.filter (·.toNat < 128)) 72 128 0 text = some label := by
  have follows : Follows (label.filter (·.toNat < 128)) 128 [] label
      ⟨start (label.filter (·.toNat < 128)), 0, 72, (label.filter (·.toNat < 128)).length⟩ :=
    ⟨rfl, Nat.le_refl _, show 72 ≤ 216 by decide, [], 128, 0, (List.append_nil _).symm, by simp,
      fun rest => rfl, Nat.le_refl _, by simp, by simp⟩
  refine follows.insert (pairwise_eraseDups ?_) (fun code member => ?_)
    (fun c member high => ?_) short
  · exact (List.pairwise_mergeSort (by simpa using fun a b c => Nat.le_trans)
      (by simpa using Nat.le_total) _).imp of_decide_eq_true
  · rw [List.mem_eraseDups, List.mem_mergeSort, List.mem_map] at member
    obtain ⟨c, member, rfl⟩ := member
    simpa using (List.mem_filter.mp member).2
  · rw [List.mem_eraseDups, List.mem_mergeSort]
    exact List.mem_map_of_mem (List.mem_filter.mpr ⟨member, by simpa using high⟩)

/-- The characters of an encoded label. -/
theorem mem_encode (short : label.length ≤ 1000) (member : c ∈ encode label) :
    (c ∈ label ∧ c.toNat < 128) ∨ c = '-' ∨ ∃ digit < 36, c = digitChar digit := by
  obtain ⟨text, written, plain, _⟩ := encode_eq short
  rw [written, start, List.mem_append] at member
  obtain member | member := member
  · split at member
    · cases member
    · obtain member | member := List.mem_append.mp member
      · obtain ⟨inside, basic⟩ := List.mem_filter.mp member
        exact .inl ⟨inside, of_decide_eq_true basic⟩
      · exact .inr (.inl (List.mem_singleton.mp member))
  · exact .inr (.inr (plain c member))

/-- Digits are figures and small letters. -/
theorem digitChar_code {digit : Nat} (small : digit < 36) :
    (0x30 ≤ (digitChar digit).toNat ∧ (digitChar digit).toNat ≤ 0x39) ∨
      (0x61 ≤ (digitChar digit).toNat ∧ (digitChar digit).toNat ≤ 0x7A) := by
  have all : ∀ digit < 36, (0x30 ≤ (digitChar digit).toNat ∧ (digitChar digit).toNat ≤ 0x39) ∨
      (0x61 ≤ (digitChar digit).toNat ∧ (digitChar digit).toNat ≤ 0x7A) := by decide
  exact all digit small

theorem encode_ascii (short : label.length ≤ 1000) (member : c ∈ encode label) : c.toNat < 128 := by
  obtain ⟨_, ascii⟩ | rfl | ⟨digit, small, rfl⟩ := mem_encode short member
  · exact ascii
  · decide
  · have code := digitChar_code small
    omega

/-- A label of a length that can be handled is read back from its form in ASCII, unless that is
longer than what is read. -/
theorem decode_encode (short : label.length ≤ 1000) (fits : (encode label).length ≤ 2000) :
    decode? (encode label) = some label := by
  obtain ⟨text, written, plain, read⟩ := encode_eq short
  have ascii : (encode label).all (·.toNat < 128) = true :=
    List.all_eq_true.mpr fun c member => decide_eq_true (encode_ascii short member)
  have digits : ∀ c ∈ text.reverse, (c != '-') = true := fun c member => by
    obtain ⟨digit, small, rfl⟩ := plain c (List.mem_reverse.mp member)
    have code := digitChar_code small
    rw [bne_iff_ne]
    intro hyphen
    rw [hyphen] at code
    exact absurd code (by decide)
  rw [decode?, ascii, decide_eq_true fits, List.span_eq_takeWhile_dropWhile, Bool.and_self,
    if_pos rfl, written, start, List.reverse_append, List.takeWhile_append_of_pos digits,
    List.dropWhile_append_of_pos digits]
  obtain none | ⟨first, last, whole⟩ := List.eq_nil_or_concat (label.filter (·.toNat < 128))
  · rw [none] at read ⊢
    exact read
  · rw [whole, List.concat_eq_append] at read ⊢
    have turned : (if (first ++ [last]).isEmpty then [] else first ++ [last] ++ ['-']).reverse =
        '-' :: last :: first.reverse := by
      simp
    rw [turned, List.takeWhile_cons_of_neg (by decide), List.dropWhile_cons_of_neg (by decide)]
    simpa using read

end ResourceEditor.Punycode
