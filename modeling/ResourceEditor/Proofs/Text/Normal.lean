import ResourceEditor.Proofs.Text.Decomposition
import ResourceEditor.Text.Blank
/-
This file says that the composed normal form of a text is its own normal form.
-/

namespace ResourceEditor.Text

/-! The order of marks. -/

/-- Whether the second of two characters may stand behind the first. -/
def InOrder (first second : Char) : Prop :=
  combiningClass second = 0 ∨ combiningClass first ≤ combiningClass second

variable {c letter : Char} {text passed rest : List Char}

theorem insertMark_cons (c d : Char) (rest : List Char) :
    insertMark c (d :: rest) =
      if 0 < combiningClass d ∧ combiningClass d < combiningClass c then d :: insertMark c rest
      else c :: d :: rest := by
  simp only [insertMark, Bool.and_eq_true, decide_eq_true_eq]

/-- A character that is no mark passes nothing. -/
theorem insertMark_start (start : combiningClass c = 0) (text : List Char) :
    insertMark c text = c :: text := by
  cases text with
  | nil => rfl
  | cons d rest => rw [insertMark_cons, if_neg (by omega)]

theorem insertMark_perm (c : Char) (text : List Char) : (insertMark c text).Perm (c :: text) := by
  induction text with
  | nil => exact List.Perm.refl _
  | cons d rest ih =>
      rw [insertMark_cons]
      split
      · exact (ih.cons d).trans (List.Perm.swap c d rest)
      · exact List.Perm.refl _

theorem foldr_insertMark_perm (text : List Char) : (text.foldr insertMark []).Perm text := by
  induction text with
  | nil => exact List.Perm.refl _
  | cons c rest ih => exact (insertMark_perm c _).trans (ih.cons c)

/-- In an ordered text no mark moves. -/
theorem foldr_insertMark (ordered : text.IsChain InOrder) : text.foldr insertMark [] = text := by
  induction text with
  | nil => rfl
  | cons c rest ih =>
      rw [List.foldr_cons, ih ordered.tail]
      cases rest with
      | nil => rfl
      | cons d rest =>
          rw [insertMark_cons, if_neg]
          obtain start | later := (List.isChain_cons_cons.mp ordered).1 <;> omega

theorem isChain_insertMark (ordered : text.IsChain InOrder) :
    (insertMark c text).IsChain InOrder := by
  induction text with
  | nil => exact List.IsChain.singleton c
  | cons d rest ih =>
      rw [insertMark_cons]
      split
      next passes =>
        have further := ih ordered.tail
        cases rest with
        | nil => exact List.isChain_cons_cons.mpr ⟨.inr (Nat.le_of_lt passes.2), further⟩
        | cons e rest =>
            rw [insertMark_cons] at further ⊢
            split
            next beyond =>
              rw [if_pos beyond] at further
              exact List.isChain_cons_cons.mpr ⟨(List.isChain_cons_cons.mp ordered).1, further⟩
            next stays =>
              rw [if_neg stays] at further
              exact List.isChain_cons_cons.mpr ⟨.inr (Nat.le_of_lt passes.2), further⟩
      next stays =>
        refine List.isChain_cons_cons.mpr ⟨?_, ordered⟩
        unfold InOrder
        omega

theorem isChain_foldr_insertMark (text : List Char) :
    (text.foldr insertMark []).IsChain InOrder := by
  induction text with
  | nil => exact List.IsChain.nil
  | cons c rest ih => exact isChain_insertMark ih

/-- Marks of different places may be put in one after the other in any order. -/
theorem insertMark_comm {c d : Char} (mark : 0 < combiningClass d)
    (lower : combiningClass d < combiningClass c) (text : List Char) :
    insertMark c (insertMark d text) = insertMark d (insertMark c text) := by
  induction text with
  | nil =>
      rw [insertMark, insertMark, insertMark_cons, insertMark_cons, if_pos ⟨mark, lower⟩,
        if_neg (by omega)]
      rfl
  | cons e rest ih =>
      rw [insertMark_cons d, insertMark_cons c e]
      split
      next passes =>
        rw [if_pos (by omega), insertMark_cons, insertMark_cons, if_pos (by omega), if_pos passes,
          ih]
      next stays =>
        rw [insertMark_cons c d, if_pos ⟨mark, lower⟩, insertMark_cons]
        split
        next => rw [insertMark_cons d e, if_neg stays]
        next => rw [insertMark_cons d c, if_neg (by omega)]

theorem insertMark_foldr (marks : ∀ mark ∈ passed,
      0 < combiningClass mark ∧ combiningClass mark < combiningClass c) (text : List Char) :
    insertMark c (passed.foldr insertMark text) = passed.foldr insertMark (insertMark c text) := by
  induction passed with
  | nil => rfl
  | cons mark passed ih =>
      obtain ⟨⟨positive, lower⟩, marks⟩ := List.forall_mem_cons.mp marks
      rw [List.foldr_cons, List.foldr_cons, insertMark_comm positive lower, ih marks]

/-! Compositions. -/

theorem composeFrom_nil (letter : Char) (passed : List Char) :
    composeFrom letter passed [] = letter :: passed.reverse := by
  rw [composeFrom]

/-- What happens to the character after a letter and the marks that it passed: it is composed with
the letter, it starts anew, or it is passed, too. -/
theorem composeFrom_cons (letter c : Char) (passed rest : List Char) :
    (∃ whole, join? letter c = some whole ∧
      (∀ mark ∈ passed.head?, combiningClass mark < combiningClass c) ∧
      composeFrom letter passed (c :: rest) = composeFrom whole passed rest) ∨
    (combiningClass c = 0 ∧
      composeFrom letter passed (c :: rest) = letter :: passed.reverse ++ composeFrom c [] rest) ∨
    (0 < combiningClass c ∧
      composeFrom letter passed (c :: rest) = composeFrom letter (c :: passed) rest) := by
  rw [composeFrom]
  split
  next whole found =>
    split at found
    next => cases found
    next together =>
      refine .inl ⟨whole, found, fun mark first => ?_, rfl⟩
      rw [Option.mem_def.mp first] at together
      simpa using together
  next =>
    split
    next start => exact .inr (.inl ⟨start, rfl⟩)
    next mark => exact .inr (.inr ⟨Nat.pos_of_ne_zero mark, rfl⟩)

/-- The marks that a letter passed, given last first, and the text after them are in order. -/
structure Passes (passed rest : List Char) : Prop where
  marks : ∀ mark ∈ passed, 0 < combiningClass mark
  falling : passed.Pairwise fun later earlier => combiningClass earlier ≤ combiningClass later
  ordered : rest.IsChain InOrder
  next : ∀ mark ∈ passed.head?, ∀ c ∈ rest.head?, InOrder mark c

/-- The last of the marks has the highest place. -/
theorem Passes.le_head (passes : Passes passed rest) :
    ∀ mark ∈ passed, ∃ last ∈ passed.head?, combiningClass mark ≤ combiningClass last := by
  cases passed with
  | nil => nofun
  | cons last passed =>
      exact List.forall_mem_cons.mpr ⟨⟨last, rfl, Nat.le_refl _⟩, fun mark member =>
        ⟨last, rfl, (List.pairwise_cons.mp passes.falling).1 mark member⟩⟩

/-- A character of a higher place is taken away. -/
theorem Passes.composed (passes : Passes passed (c :: rest))
    (higher : ∀ mark ∈ passed.head?, combiningClass mark < combiningClass c) :
    Passes passed rest := by
  refine ⟨passes.marks, passes.falling, passes.ordered.tail, fun mark last d first => ?_⟩
  obtain ⟨d, rest, rfl⟩ : ∃ d rest', rest = d :: rest' := by
    cases rest with
    | nil => cases first
    | cons e rest => exact ⟨e, rest, rfl⟩
  cases first
  have lower := higher mark last
  obtain start | later := (List.isChain_cons_cons.mp passes.ordered).1
  · exact .inl start
  · exact .inr (by omega)

/-- A mark is passed. -/
theorem Passes.push (passes : Passes passed (c :: rest)) (mark : 0 < combiningClass c) :
    Passes (c :: passed) rest := by
  have highest (earlier : Char) (member : earlier ∈ passed) :
      combiningClass earlier ≤ combiningClass c := by
    obtain ⟨last, first, lower⟩ := passes.le_head earlier member
    obtain start | later := passes.next last first c rfl
    · omega
    · exact lower.trans later
  refine ⟨List.forall_mem_cons.mpr ⟨mark, passes.marks⟩,
    List.pairwise_cons.mpr ⟨highest, passes.falling⟩, passes.ordered.tail, ?_⟩
  rintro _ ⟨⟩ d first
  cases rest with
  | nil => cases first
  | cons e rest =>
      cases first
      exact (List.isChain_cons_cons.mp passes.ordered).1

theorem flatMap_single (single : ∀ c ∈ text, decomposeChar c = [c]) :
    text.flatMap decomposeChar = text := by
  rw [List.flatMap_def, List.map_congr_left single, ← List.flatMap_def, List.flatMap_singleton']

/-- Composing changes nothing that is seen when the text is taken apart again. -/
theorem decompose_composeFrom (single : ∀ c ∈ passed ++ rest, decomposeChar c = [c])
    (passes : Passes passed rest) :
    decompose (composeFrom letter passed rest) =
      (decomposeChar letter ++ (passed.reverse ++ rest)).foldr insertMark [] := by
  induction rest generalizing letter passed with
  | nil =>
      rw [List.append_nil] at single
      rw [composeFrom_nil, decompose, List.flatMap_cons, List.append_nil,
        flatMap_single fun c member => single c (List.mem_reverse.mp member)]
  | cons c rest ih =>
      obtain ⟨before, self, after⟩ : (∀ c ∈ passed, decomposeChar c = [c]) ∧
          decomposeChar c = [c] ∧ ∀ c ∈ rest, decomposeChar c = [c] := by
        rwa [List.forall_mem_append, List.forall_mem_cons] at single
      obtain ⟨whole, joined, higher, same⟩ | ⟨start, same⟩ | ⟨mark, same⟩ :=
        composeFrom_cons letter c passed rest
      · have lower : ∀ mark ∈ passed.reverse,
            0 < combiningClass mark ∧ combiningClass mark < combiningClass c := by
          intro mark member
          have member := List.mem_reverse.mp member
          obtain ⟨last, first, least⟩ := passes.le_head mark member
          exact ⟨passes.marks mark member, Nat.lt_of_le_of_lt least (higher last first)⟩
        have behind : (c :: (passed.reverse ++ rest)).foldr insertMark [] =
            (passed.reverse ++ c :: rest).foldr insertMark [] := by
          rw [List.foldr_cons, List.foldr_append, insertMark_foldr lower, List.foldr_append,
            List.foldr_cons]
        rw [same, ih (List.forall_mem_append.mpr ⟨before, after⟩) (passes.composed higher),
          decomposeChar_join joined, List.append_assoc, List.foldr_append, List.singleton_append,
          behind, ← List.foldr_append]
      · have fresh : Passes [] rest := ⟨nofun, .nil, passes.ordered.tail, nofun⟩
        have rest : decompose (composeFrom c [] rest) =
            (decomposeChar c ++ ([].reverse ++ rest)).foldr insertMark [] := ih after fresh
        rw [self, List.reverse_nil, List.nil_append, List.singleton_append] at rest
        rw [same, decompose, List.cons_append, List.flatMap_cons, List.flatMap_append,
          flatMap_single fun c member => before c (List.mem_reverse.mp member), List.foldr_append,
          List.foldr_append, ← decompose, rest, List.foldr_append, List.foldr_append]
      · rw [same, ih (List.forall_mem_append.mpr ⟨List.forall_mem_cons.mpr ⟨self, before⟩, after⟩)
          (passes.push mark), List.reverse_cons, List.append_assoc, List.singleton_append]

theorem decomposeChar_of_mem_decompose (member : c ∈ decompose text) : decomposeChar c = [c] := by
  rw [decompose, (foldr_insertMark_perm _).mem_iff, List.mem_flatMap] at member
  obtain ⟨d, _, member⟩ := member
  exact decomposeChar_of_mem member

/-- A text and its normal form are taken apart into the same characters. -/
theorem decompose_normalize (text : List Char) : decompose (normalize text) = decompose text := by
  have single (c : Char) (member : c ∈ decompose text) : decomposeChar c = [c] :=
    decomposeChar_of_mem_decompose member
  have ordered : (decompose text).IsChain InOrder := isChain_foldr_insertMark _
  rw [normalize]
  cases apart : decompose text with
  | nil => rfl
  | cons c rest =>
      rw [apart] at single ordered
      obtain ⟨self, single⟩ := List.forall_mem_cons.mp single
      have passes : Passes [] rest := ⟨nofun, .nil, ordered.tail, nofun⟩
      rw [decompose_composeFrom single passes, self, List.reverse_nil, List.nil_append,
        List.singleton_append, foldr_insertMark ordered]

/-- The normal form of a text is its own normal form. -/
theorem normalize_normalize (text : List Char) : normalize (normalize text) = normalize text := by
  rw [normalize, decompose_normalize, ← normalize]

/-! Parts of a text. -/

/-- Composes the characters of a text that is taken apart. -/
def compose : List Char → List Char
  | [] => []
  | c :: rest => composeFrom c [] rest

theorem normalize_eq (text : List Char) : normalize text = compose (decompose text) := by
  rw [normalize]
  cases decompose text <;> rfl

theorem point_ascii : '.'.toNat < 128 := by
  decide

theorem insertMark_append (c : Char) (text rest : List Char) :
    insertMark c (text ++ '.' :: rest) = insertMark c text ++ '.' :: rest := by
  induction text with
  | nil =>
      have start := combiningClass_ascii point_ascii
      rw [List.nil_append, insertMark_cons, if_neg (by omega)]
      rfl
  | cons d text ih =>
      rw [List.cons_append, insertMark_cons, insertMark_cons, ih]
      split <;> rfl

theorem decompose_append (text rest : List Char) :
    decompose (text ++ '.' :: rest) = decompose text ++ '.' :: decompose rest := by
  rw [decompose, decompose, decompose, List.flatMap_append, List.flatMap_cons,
    decomposeChar_ascii point_ascii, List.foldr_append, List.singleton_append, List.foldr_cons,
    insertMark_start (combiningClass_ascii point_ascii)]
  induction text.flatMap decomposeChar with
  | nil => rfl
  | cons c text ih => rw [List.foldr_cons, ih, insertMark_append, List.foldr_cons]

/-- Marks at the start of a text are passed by the character before them. -/
theorem composeFrom_push {d : Char} (apart : ∀ c, join? letter c = none)
    (mark : 0 < combiningClass d) (passed rest : List Char) :
    composeFrom letter (passed ++ [d]) rest = letter :: composeFrom d passed rest := by
  induction rest generalizing passed with
  | nil => rw [composeFrom_nil, composeFrom_nil, List.reverse_append]; rfl
  | cons c rest ih =>
      obtain ⟨whole, joined, _⟩ | ⟨start, same⟩ | ⟨further, same⟩ :=
        composeFrom_cons letter c (passed ++ [d]) rest
      · rw [apart c] at joined
        cases joined
      · obtain ⟨whole, joined, _⟩ | ⟨_, other⟩ | ⟨further, _⟩ := composeFrom_cons d c passed rest
        · rw [join_mark mark] at joined
          cases joined
        · rw [same, other, List.reverse_append]
          rfl
        · omega
      · obtain ⟨whole, joined, _⟩ | ⟨start, _⟩ | ⟨_, other⟩ := composeFrom_cons d c passed rest
        · rw [join_mark mark] at joined
          cases joined
        · omega
        · rw [same, other, ← List.cons_append, ih]

theorem composeFrom_point (rest : List Char) : composeFrom '.' [] rest = '.' :: compose rest := by
  cases rest with
  | nil => rfl
  | cons c rest =>
      obtain ⟨whole, joined, _⟩ | ⟨_, same⟩ | ⟨mark, same⟩ := composeFrom_cons '.' c [] rest
      · rw [point_join] at joined
        cases joined
      · exact same
      · exact same.trans (composeFrom_push point_join mark [] rest)

theorem composeFrom_append (letter : Char) (passed text rest : List Char) :
    composeFrom letter passed (text ++ '.' :: rest) =
      composeFrom letter passed text ++ '.' :: compose rest := by
  induction text generalizing letter passed with
  | nil =>
      obtain ⟨whole, joined, _⟩ | ⟨_, same⟩ | ⟨mark, _⟩ := composeFrom_cons letter '.' passed rest
      · rw [join_ascii point_ascii] at joined
        cases joined
      · rw [List.nil_append, same, composeFrom_point, composeFrom_nil]
      · exact absurd (combiningClass_ascii point_ascii) (Nat.ne_of_gt mark)
  | cons c text ih =>
      rw [List.cons_append, composeFrom, composeFrom]
      generalize (if (passed.head?.any fun mark => combiningClass c ≤ combiningClass mark) = true
        then none else join? letter c) = joined
      cases joined with
      | some whole => exact ih whole passed
      | none =>
          dsimp only
          split
          next => rw [ih, List.append_assoc]
          next => exact ih letter (c :: passed)

theorem compose_append (text rest : List Char) :
    compose (text ++ '.' :: rest) = compose text ++ '.' :: compose rest := by
  cases text with
  | nil => exact composeFrom_point rest
  | cons c text => exact composeFrom_append c [] text rest

/-- The parts of a text between points have normal forms of their own. -/
theorem normalize_append (text rest : List Char) :
    normalize (text ++ '.' :: rest) = normalize text ++ '.' :: normalize rest := by
  rw [normalize_eq, normalize_eq, normalize_eq, decompose_append, compose_append]

/-! What all characters of a text have in common. -/

theorem forall_composeFrom {kept : Char → Prop}
    (joins : ∀ {first second whole}, kept first → kept second → join? first second = some whole →
      kept whole)
    (first : kept letter) (before : ∀ c ∈ passed, kept c) (after : ∀ c ∈ rest, kept c) :
    ∀ c ∈ composeFrom letter passed rest, kept c := by
  induction rest generalizing letter passed with
  | nil =>
      rw [composeFrom_nil, List.forall_mem_cons]
      exact ⟨first, fun c member => before c (List.mem_reverse.mp member)⟩
  | cons c rest ih =>
      obtain ⟨next, after⟩ := List.forall_mem_cons.mp after
      obtain ⟨whole, joined, _, same⟩ | ⟨_, same⟩ | ⟨_, same⟩ :=
        composeFrom_cons letter c passed rest
      · rw [same]
        exact ih (joins first next joined) before after
      · rw [same, List.cons_append, List.forall_mem_cons, List.forall_mem_append]
        exact ⟨first, fun c member => before c (List.mem_reverse.mp member), ih next nofun after⟩
      · rw [same]
        exact ih first (List.forall_mem_cons.mpr ⟨next, before⟩) after

/-- What is kept when characters are taken apart and composed is kept in the normal form. -/
theorem forall_normalize {kept : Char → Prop}
    (apart : ∀ {c}, kept c → ∀ d ∈ decomposeChar c, kept d)
    (joins : ∀ {first second whole}, kept first → kept second → join? first second = some whole →
      kept whole)
    (all : ∀ c ∈ text, kept c) : ∀ c ∈ normalize text, kept c := by
  have decomposed : ∀ c ∈ decompose text, kept c := fun c member => by
    rw [decompose, (foldr_insertMark_perm _).mem_iff, List.mem_flatMap] at member
    obtain ⟨d, among, member⟩ := member
    exact apart (all d among) c member
  rw [normalize_eq]
  cases decomposed' : decompose text with
  | nil => nofun
  | cons c rest =>
      rw [decomposed', List.forall_mem_cons] at decomposed
      exact forall_composeFrom joins decomposed.1 nofun decomposed.2

theorem point_not_mem_normalize (absent : '.' ∉ text) : '.' ∉ normalize text := by
  suffices kept : ∀ c ∈ normalize text, c ≠ '.' from fun member => kept '.' member rfl
  refine forall_normalize (fun other d inside => ?_) (fun _ other joined => ?_)
    (fun c inside => ?_)
  · rintro rfl
    exact other (point_mem_decomposeChar inside)
  · rintro rfl
    have apart := decomposeChar_join joined
    rw [decomposeChar_ascii point_ascii] at apart
    have last := congrArg List.getLast? apart
    rw [List.getLast?_concat] at last
    exact other (Option.some.inj last).symm
  · rintro rfl
    exact absent inside

/-- The parts of the normal form are the normal forms of the parts. -/
theorem splitAll_normalize (text : List Char) :
    splitAll '.' (normalize text) = (splitAll '.' text).map normalize := by
  induction size : text.length using Nat.strongRecOn generalizing text with
  | ind size ih =>
      by_cases member : '.' ∈ text
      · obtain ⟨first, rest, rfl, absent⟩ := List.eq_append_cons_of_mem member
        rw [List.length_append, List.length_cons] at size
        rw [normalize_append, splitAll_append (point_not_mem_normalize absent),
          splitAll_append absent, List.map_cons, ih _ (by omega) rest rfl]
      · rw [splitAll_of_not_mem (point_not_mem_normalize member), splitAll_of_not_mem member]
        rfl

/-- Each part of a text in the normal form is in the normal form. -/
theorem normalize_part {part : List Char} (member : part ∈ splitAll '.' (normalize text)) :
    normalize part = part := by
  rw [splitAll_normalize] at member
  obtain ⟨before, _, rfl⟩ := List.mem_map.mp member
  exact normalize_normalize before

theorem composeFrom_ascii (letter : Char) (ascii : ∀ c ∈ rest, c.toNat < 128) :
    composeFrom letter [] rest = letter :: rest := by
  induction rest generalizing letter with
  | nil => rfl
  | cons c rest ih =>
      obtain ⟨next, ascii⟩ := List.forall_mem_cons.mp ascii
      obtain ⟨whole, joined, _⟩ | ⟨_, same⟩ | ⟨mark, _⟩ := composeFrom_cons letter c [] rest
      · rw [join_ascii next] at joined
        cases joined
      · rw [same, ih c ascii]
        rfl
      · exact absurd (combiningClass_ascii next) (Nat.ne_of_gt mark)

/-- A text in ASCII is in the normal form. -/
theorem normalize_ascii (ascii : ∀ c ∈ text, c.toNat < 128) : normalize text = text := by
  have apart : decompose text = text := by
    rw [decompose, flatMap_single fun c member => decomposeChar_ascii (ascii c member)]
    induction text with
    | nil => rfl
    | cons c rest ih =>
        obtain ⟨first, ascii⟩ := List.forall_mem_cons.mp ascii
        rw [List.foldr_cons, ih ascii, insertMark_start (combiningClass_ascii first)]
  rw [normalize_eq, apart]
  cases text with
  | nil => rfl
  | cons c rest => exact composeFrom_ascii c (List.forall_mem_cons.mp ascii).2

end ResourceEditor.Text
