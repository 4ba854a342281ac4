import Mathlib.Algebra.BigOperators.Group.List.Basic
import Mathlib.Data.List.Basic
import ResourceEditor.Pattern.Basic
/-
This file says which texts an expression stands for, without a search, and shows that these are the
texts that it matches.
-/

namespace ResourceEditor

namespace Expression

/-- The texts that an expression stands for. -/
inductive Accepts : Expression → List Char → Prop where
  | char (c : Char) : Accepts (.char c) [c]
  | oneOf {ranges : List CharRange} {range : CharRange} {c : Char} (member : range ∈ ranges)
      (holds : range.holds c = true) : Accepts (.oneOf ranges) [c]
  | done : Accepts (.sequence []) []
  | next {part : Expression} {parts : List Expression} {front back : List Char}
      (first : Accepts part front) (others : Accepts (.sequence parts) back) :
      Accepts (.sequence (part :: parts)) (front ++ back)
  | choice {option : Expression} {options : List Expression} {text : List Char}
      (member : option ∈ options) (chosen : Accepts option text) : Accepts (.choice options) text
  | times {part : Expression} {least most : Nat} {texts : List (List Char)}
      (each : ∀ text ∈ texts, Accepts part text) (enough : least ≤ texts.length)
      (few : texts.length ≤ most) : Accepts (.times part least most) texts.flatten
  | atLeast {part : Expression} {least : Nat} {texts : List (List Char)}
      (each : ∀ text ∈ texts, Accepts part text) (enough : least ≤ texts.length) :
      Accepts (.atLeast part least) texts.flatten

variable {part option : Expression} {parts options : List Expression} {text rest : List Char}
  {least most count : Nat}

/-! The texts of each kind of expression. -/

theorem accepts_char_iff {c : Char} : Accepts (.char c) text ↔ text = [c] := by
  constructor
  · rintro ⟨⟩
    rfl
  · rintro rfl
    exact .char c

theorem accepts_oneOf_iff {ranges : List CharRange} :
    Accepts (.oneOf ranges) text ↔ ∃ c, text = [c] ∧ ∃ range ∈ ranges, range.holds c = true := by
  constructor
  · rintro ⟨⟩
    next range c holds member => exact ⟨c, rfl, range, member, holds⟩
  · rintro ⟨c, rfl, range, member, holds⟩
    exact .oneOf member holds

theorem accepts_nil_iff : Accepts (.sequence []) text ↔ text = [] := by
  constructor
  · rintro ⟨⟩
    rfl
  · rintro rfl
    exact .done

theorem accepts_cons_iff :
    Accepts (.sequence (part :: parts)) text ↔
      ∃ front back, Accepts part front ∧ Accepts (.sequence parts) back ∧ text = front ++ back := by
  constructor
  · rintro ⟨⟩
    next front back first others => exact ⟨front, back, first, others, rfl⟩
  · rintro ⟨front, back, first, others, rfl⟩
    exact .next first others

theorem accepts_single_iff : Accepts (.sequence [part]) text ↔ Accepts part text := by
  simp only [accepts_cons_iff, accepts_nil_iff, exists_eq_left, List.append_nil, exists_and_left,
    exists_eq_right']

theorem accepts_append_iff {others : List Expression} :
    Accepts (.sequence (parts ++ others)) text ↔
      ∃ front back, Accepts (.sequence parts) front ∧ Accepts (.sequence others) back ∧
        text = front ++ back := by
  induction parts generalizing text with
  | nil => simp [accepts_nil_iff]
  | cons part parts ih =>
      rw [List.cons_append, accepts_cons_iff]
      simp only [ih, accepts_cons_iff]
      constructor
      · rintro ⟨first, _, here, ⟨front, back, there, rest, rfl⟩, rfl⟩
        exact ⟨first ++ front, back, ⟨first, front, here, there, rfl⟩, rest,
          (List.append_assoc _ _ _).symm⟩
      · rintro ⟨_, back, ⟨first, front, here, there, rfl⟩, rest, rfl⟩
        exact ⟨first, front ++ back, here, ⟨front, back, there, rest, rfl⟩,
          List.append_assoc _ _ _⟩

theorem accepts_choice_iff :
    Accepts (.choice options) text ↔ ∃ option ∈ options, Accepts option text := by
  constructor
  · rintro ⟨⟩
    next option member chosen => exact ⟨option, member, chosen⟩
  · rintro ⟨option, member, chosen⟩
    exact .choice member chosen

theorem accepts_choice_cons_iff :
    Accepts (.choice (option :: options)) text ↔
      Accepts option text ∨ Accepts (.choice options) text := by
  simp only [accepts_choice_iff, List.mem_cons, exists_eq_or_imp]

/-- A group stands for what is in it. -/
theorem accepts_group_iff : Accepts (.choice [option]) text ↔ Accepts option text := by
  simp only [accepts_choice_iff, List.mem_singleton, exists_eq_left]

theorem accepts_pair_iff :
    Accepts (.choice [.sequence [part, option]]) text ↔
      ∃ front back, Accepts part front ∧ Accepts option back ∧ text = front ++ back := by
  simp only [accepts_group_iff, @accepts_cons_iff part, accepts_single_iff]

theorem accepts_times_iff :
    Accepts (.times part least most) text ↔
      ∃ texts : List (List Char), text = texts.flatten ∧ (∀ text ∈ texts, Accepts part text) ∧
        least ≤ texts.length ∧ texts.length ≤ most := by
  constructor
  · rintro ⟨⟩
    next texts each enough few => exact ⟨texts, rfl, each, enough, few⟩
  · rintro ⟨texts, rfl, each, enough, few⟩
    exact .times each enough few

theorem accepts_atLeast_iff :
    Accepts (.atLeast part least) text ↔
      ∃ texts : List (List Char), text = texts.flatten ∧ (∀ text ∈ texts, Accepts part text) ∧
        least ≤ texts.length := by
  constructor
  · rintro ⟨⟩
    next texts each enough => exact ⟨texts, rfl, each, enough⟩
  · rintro ⟨texts, rfl, each, enough⟩
    exact .atLeast each enough

/-! Texts that are repeated. -/

theorem accepts_times_iff_exactly :
    Accepts (.times part least most) text ↔
      ∃ count, least ≤ count ∧ count ≤ most ∧ Accepts (.times part count count) text := by
  simp only [accepts_times_iff]
  constructor
  · rintro ⟨texts, same, each, enough, few⟩
    exact ⟨texts.length, enough, few, texts, same, each, Nat.le_refl _, Nat.le_refl _⟩
  · rintro ⟨count, enough, few, texts, same, each, least, most⟩
    exact ⟨texts, same, each, Nat.le_trans enough least, Nat.le_trans most few⟩

theorem accepts_times_zero_iff : Accepts (.times part 0 0) text ↔ text = [] := by
  rw [accepts_times_iff]
  constructor
  · rintro ⟨texts, rfl, -, -, few⟩
    obtain rfl := List.length_eq_zero_iff.mp (Nat.le_zero.mp few)
    rfl
  · rintro rfl
    exact ⟨[], rfl, List.forall_mem_nil _, Nat.le_refl _, Nat.le_refl _⟩

theorem accepts_times_succ_iff :
    Accepts (.times part (count + 1) (count + 1)) text ↔
      ∃ front back, Accepts part front ∧ Accepts (.times part count count) back ∧
        text = front ++ back := by
  simp only [accepts_times_iff]
  constructor
  · rintro ⟨texts, rfl, each, enough, few⟩
    obtain ⟨front, texts, rfl⟩ :=
      List.exists_cons_of_length_eq_add_one (Nat.le_antisymm few enough)
    obtain ⟨first, others⟩ := List.forall_mem_cons.mp each
    exact ⟨front, texts.flatten, first, ⟨texts, rfl, others, Nat.le_of_succ_le_succ enough,
      Nat.le_of_succ_le_succ few⟩, rfl⟩
  · rintro ⟨front, _, first, ⟨texts, rfl, others, enough, few⟩, rfl⟩
    exact ⟨front :: texts, rfl, List.forall_mem_cons.mpr ⟨first, others⟩,
      Nat.succ_le_succ enough, Nat.succ_le_succ few⟩

/-- What is repeated stands in a row. -/
theorem accepts_times_iff_sequence :
    Accepts (.times part count count) text ↔
      Accepts (.sequence (List.replicate count part)) text := by
  induction count generalizing text with
  | zero => rw [accepts_times_zero_iff, List.replicate_zero, accepts_nil_iff]
  | succ count ih => simp only [accepts_times_succ_iff, List.replicate_succ, accepts_cons_iff, ih]

theorem accepts_repeat_iff :
    Accepts (.sequence (.times part count count :: parts)) text ↔
      Accepts (.sequence (List.replicate count part ++ parts)) text := by
  simp only [accepts_cons_iff, accepts_append_iff, accepts_times_iff_sequence]

/-- A repeated character stands for the texts of such characters that are neither too short nor too
long. -/
theorem accepts_times_oneOf_iff {ranges : List CharRange} :
    Accepts (.times (.oneOf ranges) least most) text ↔
      (least ≤ text.length ∧ text.length ≤ most) ∧
        ∀ c ∈ text, ∃ range ∈ ranges, range.holds c = true := by
  have exactly (count : Nat) (text : List Char) :
      Accepts (.times (.oneOf ranges) count count) text ↔
        text.length = count ∧ ∀ c ∈ text, ∃ range ∈ ranges, range.holds c = true := by
    induction count generalizing text with
    | zero =>
        rw [accepts_times_zero_iff]
        constructor
        · rintro rfl
          exact ⟨rfl, List.forall_mem_nil _⟩
        · exact fun inside => List.length_eq_zero_iff.mp inside.1
    | succ count ih =>
        simp only [accepts_times_succ_iff, accepts_oneOf_iff, ih]
        constructor
        · rintro ⟨_, back, ⟨c, rfl, holds⟩, ⟨rfl, others⟩, rfl⟩
          exact ⟨rfl, List.forall_mem_cons.mpr ⟨holds, others⟩⟩
        · rintro ⟨length, each⟩
          obtain ⟨c, back, rfl⟩ := List.exists_cons_of_length_eq_add_one length
          obtain ⟨holds, others⟩ := List.forall_mem_cons.mp each
          exact ⟨[c], back, ⟨c, rfl, holds⟩, ⟨Nat.succ.inj length, others⟩, rfl⟩
  rw [accepts_times_iff_exactly]
  simp only [exactly]
  constructor
  · rintro ⟨_, enough, few, rfl, each⟩
    exact ⟨⟨enough, few⟩, each⟩
  · rintro ⟨⟨enough, few⟩, each⟩
    exact ⟨_, enough, few, rfl, each⟩

/-! The search finds the texts that are at the front. -/

/-- What the search leaves of a text is what follows a text of the expression. -/
def Finds (part : Expression) : Prop :=
  ∀ text rest, rest ∈ part.rests text ↔ ∃ front, Accepts part front ∧ text = front ++ rest

theorem mem_restsTimes_iff (finds : Finds part) :
    rest ∈ restsTimes part.rests count text ↔
      ∃ texts : List (List Char), texts.length = count ∧ (∀ front ∈ texts, Accepts part front) ∧
        text = texts.flatten ++ rest := by
  induction count generalizing text with
  | zero =>
      rw [restsTimes, List.mem_singleton]
      constructor
      · rintro rfl
        exact ⟨[], rfl, List.forall_mem_nil _, rfl⟩
      · rintro ⟨texts, none, -, rfl⟩
        obtain rfl := List.length_eq_zero_iff.mp none
        rfl
  | succ count ih =>
      simp only [restsTimes, List.mem_flatMap, finds _ _, ih]
      constructor
      · rintro ⟨_, ⟨front, first, rfl⟩, texts, rfl, others, rfl⟩
        exact ⟨front :: texts, rfl, List.forall_mem_cons.mpr ⟨first, others⟩,
          (List.append_assoc front _ rest).symm⟩
      · rintro ⟨texts, some, each, rfl⟩
        obtain ⟨front, texts, rfl⟩ := List.exists_cons_of_length_eq_add_one some
        obtain ⟨first, others⟩ := List.forall_mem_cons.mp each
        exact ⟨_, ⟨front, first, List.append_assoc front _ rest⟩, texts, Nat.succ.inj some, others,
          rfl⟩

theorem finds_char (c : Char) : Finds (.char c) := by
  intro text rest
  simp only [accepts_char_iff, exists_eq_left, List.cons_append, List.nil_append]
  cases text with
  | nil => simp [rests]
  | cons first others => simp [rests, eq_comm]

theorem finds_oneOf (ranges : List CharRange) : Finds (.oneOf ranges) := by
  intro text rest
  simp only [accepts_oneOf_iff]
  cases text with
  | nil =>
      refine iff_of_false List.not_mem_nil ?_
      rintro ⟨_, ⟨c, rfl, -⟩, same⟩
      cases same
  | cons first others =>
      simp only [rests]
      split
      next found =>
        simp only [List.any_eq_true] at found
        constructor
        · intro left
          rw [List.mem_singleton.mp left]
          exact ⟨[first], ⟨first, rfl, found⟩, rfl⟩
        · rintro ⟨_, ⟨c, rfl, -⟩, same⟩
          rw [(List.cons.inj same).2]
          exact List.mem_singleton_self _
      next missing =>
        simp only [List.any_eq_true] at missing
        refine iff_of_false List.not_mem_nil ?_
        rintro ⟨_, ⟨c, rfl, found⟩, same⟩
        rw [(List.cons.inj same).1] at missing
        exact missing found

theorem finds_times (least most : Nat) (finds : Finds part) : Finds (.times part least most) := by
  intro text rest
  simp only [rests, List.mem_flatMap, List.mem_range, mem_restsTimes_iff finds, accepts_times_iff]
  constructor
  · rintro ⟨more, few, texts, length, each, rfl⟩
    exact ⟨_, ⟨texts, rfl, each, by omega, by omega⟩, rfl⟩
  · rintro ⟨_, ⟨texts, rfl, each, enough, few⟩, rfl⟩
    exact ⟨texts.length - least, by omega, texts, by omega, each, rfl⟩

/-- The texts with a character. -/
def filled (texts : List (List Char)) : List (List Char) := texts.filter fun text => !text.isEmpty

/-- Texts in a row without the empty ones, but for those that make up the least number. -/
def needed (least : Nat) (texts : List (List Char)) : List (List Char) :=
  filled texts ++ (texts.filter (·.isEmpty)).take (least - (filled texts).length)

theorem mem_of_mem_needed {texts : List (List Char)} (inside : text ∈ needed least texts) :
    text ∈ texts := by
  obtain full | empty := List.mem_append.mp inside
  · exact (List.mem_filter.mp full).1
  · exact (List.mem_filter.mp (List.mem_of_mem_take empty)).1

theorem flatten_needed (least : Nat) (texts : List (List Char)) :
    (needed least texts).flatten = texts.flatten := by
  have nothing (count : Nat) : ((texts.filter (·.isEmpty)).take count).flatten = [] := by
    rw [List.flatten_eq_nil_iff]
    intro text inside
    exact List.isEmpty_iff.mp (List.mem_filter.mp (List.mem_of_mem_take inside)).2
  rw [needed, List.flatten_append, nothing, List.append_nil, filled,
    List.flatten_filter_not_isEmpty]

/-- There are no more filled texts than characters. -/
theorem length_filled_le (texts : List (List Char)) :
    (filled texts).length ≤ texts.flatten.length := by
  have positive : ∀ size ∈ (filled texts).map List.length, 1 ≤ size := by
    intro size inside
    obtain ⟨text, full, rfl⟩ := List.mem_map.mp inside
    refine List.length_pos_iff.mpr ?_
    rintro rfl
    cases (List.mem_filter.mp full).2
  calc (filled texts).length = ((filled texts).map List.length).length :=
      (List.length_map _).symm
    _ ≤ ((filled texts).map List.length).sum := List.length_le_sum_of_one_le _ positive
    _ = texts.flatten.length := by
      rw [← List.length_flatten, filled, List.flatten_filter_not_isEmpty]

theorem length_needed {texts : List (List Char)} (enough : least ≤ texts.length) :
    least ≤ (needed least texts).length ∧
      (needed least texts).length ≤ least + texts.flatten.length := by
  have parts : texts.length = (texts.filter (·.isEmpty)).length + (filled texts).length :=
    List.length_eq_length_filter_add _
  have few := length_filled_le texts
  rw [needed, List.length_append, List.length_take]
  omega

theorem finds_atLeast (least : Nat) (finds : Finds part) : Finds (.atLeast part least) := by
  intro text rest
  simp only [rests, List.mem_flatMap, List.mem_range, mem_restsTimes_iff finds, accepts_atLeast_iff]
  constructor
  · rintro ⟨more, -, texts, length, each, rfl⟩
    exact ⟨_, ⟨texts, rfl, each, by omega⟩, rfl⟩
  · rintro ⟨_, ⟨texts, rfl, each, enough⟩, rfl⟩
    obtain ⟨low, high⟩ := length_needed enough
    refine ⟨(needed _ texts).length - _, ?_, needed _ texts, (Nat.add_sub_cancel' low).symm,
      fun front inside => each front (mem_of_mem_needed inside), by rw [flatten_needed]⟩
    rw [List.length_append]
    omega

theorem finds_nil : Finds (.sequence []) := by
  intro text rest
  simp [rests, restsInTurn, accepts_nil_iff, eq_comm]

theorem finds_cons (first : Finds part) (others : Finds (.sequence parts)) :
    Finds (.sequence (part :: parts)) := by
  intro text rest
  have later (between : List Char) : rest ∈ restsInTurn parts between ↔
      ∃ back, Accepts (.sequence parts) back ∧ between = back ++ rest := others between rest
  simp only [rests, restsInTurn, List.mem_flatMap, first _ _, later, accepts_cons_iff]
  constructor
  · rintro ⟨_, ⟨front, here, rfl⟩, back, there, rfl⟩
    exact ⟨front ++ back, ⟨front, back, here, there, rfl⟩, (List.append_assoc _ _ _).symm⟩
  · rintro ⟨_, ⟨front, back, here, there, rfl⟩, rfl⟩
    exact ⟨_, ⟨front, here, List.append_assoc _ _ _⟩, back, there, rfl⟩

theorem finds_choice (each : ∀ option ∈ options, Finds option) : Finds (.choice options) := by
  intro text rest
  rw [rests]
  induction options with
  | nil => simp [restsOfAny, accepts_choice_iff]
  | cons option options ih =>
      obtain ⟨here, others⟩ := List.forall_mem_cons.mp each
      simp only [restsOfAny, List.mem_append, here _ _, ih others, accepts_choice_cons_iff]
      constructor
      · rintro (⟨front, chosen, rfl⟩ | ⟨front, chosen, rfl⟩)
        · exact ⟨front, .inl chosen, rfl⟩
        · exact ⟨front, .inr chosen, rfl⟩
      · rintro ⟨front, chosen | chosen, rfl⟩
        · exact .inl ⟨front, chosen, rfl⟩
        · exact .inr ⟨front, chosen, rfl⟩

/-- The search finds every text of an expression and no other. -/
theorem finds (expression : Expression) : Finds expression :=
  @Expression.rec Finds (fun parts => Finds (.sequence parts) ∧ ∀ part ∈ parts, Finds part)
    finds_char finds_oneOf (fun _ each => each.1) (fun _ each => finds_choice each.2)
    (fun _ least most part => finds_times least most part)
    (fun _ least part => finds_atLeast least part) ⟨finds_nil, List.forall_mem_nil _⟩
    (fun _ _ first others =>
      ⟨finds_cons first others.1, List.forall_mem_cons.mpr ⟨first, others.2⟩⟩)
    expression

theorem isMatch_iff (expression : Expression) (text : String) :
    expression.isMatch text = true ↔ expression.Accepts text.toList := by
  simp only [isMatch, List.any_eq_true, List.isEmpty_iff, exists_eq_right, expression.finds _ _,
    List.append_nil, exists_eq_right']

example : isMatch (.atLeast (.atLeast (.char 'a') 0) 3) "" = true := by decide

end Expression

end ResourceEditor
