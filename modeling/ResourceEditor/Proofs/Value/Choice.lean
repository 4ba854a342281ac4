import ResourceEditor.Members
/-
This file follows members through functions that change the value of each or leave the member out.
-/

namespace ResourceEditor.Members

variable {α β : Type} {change : α → Option β} {members : Members α} {name : String}

/-- The members that a function keeps, each with what the function makes of its value. -/
def choose (change : α → Option β) (members : Members α) : Members β :=
  members.filterMap fun pair => (change pair.2).map fun new => (pair.1, new)

@[simp] theorem choose_nil (change : α → Option β) : choose change [] = [] := rfl

theorem choose_cons (change : α → Option β) (value : α) (rest : Members α) :
    choose change ((name, value) :: rest) =
      match change value with
      | some new => (name, new) :: choose change rest
      | none => choose change rest := by
  rw [choose, List.filterMap_cons]
  cases change value <;> rfl

theorem mem_choose {new : β} :
    (name, new) ∈ choose change members ↔
      ∃ value, (name, value) ∈ members ∧ change value = some new := by
  simp only [choose, List.mem_filterMap, Prod.exists, Option.map_eq_some_iff, Prod.mk.injEq]
  constructor
  · rintro ⟨_, value, member, _, kept, rfl, rfl⟩
    exact ⟨value, member, kept⟩
  · rintro ⟨value, member, kept⟩
    exact ⟨name, value, member, new, kept, rfl, rfl⟩

theorem names_choose_sublist (change : α → Option β) (members : Members α) :
    (names (choose change members)).Sublist (names members) := by
  induction members with
  | nil => exact List.Sublist.refl _
  | cons pair rest ih =>
      obtain ⟨first, value⟩ := pair
      rw [choose_cons]
      cases change value with
      | none => exact ih.cons first
      | some new => exact ih.cons_cons first

/-- The first member of a name stays the first one if it is kept. -/
theorem get?_choose_of_kept {value : α} {new : β} (found : get? members name = some value)
    (kept : change value = some new) : get? (choose change members) name = some new := by
  induction members with
  | nil => cases found
  | cons pair rest ih =>
      obtain ⟨first, own⟩ := pair
      rw [get?_cons] at found
      rw [choose_cons]
      split at found
      next same =>
        cases found
        rw [kept]
        dsimp only
        rw [get?_cons, if_pos same]
      next different =>
        cases change own with
        | none => exact ih found
        | some other =>
            dsimp only
            rw [get?_cons, if_neg different]
            exact ih found

/-- Of distinct members, what is kept of all is what is kept of the member of each name. -/
theorem get?_choose (distinct : (names members).Nodup) (name : String) :
    get? (choose change members) name = (get? members name).bind change := by
  cases found : get? members name with
  | none =>
      refine get?_of_not_mem fun member => ?_
      have there := (names_choose_sublist change members).subset member
      obtain ⟨⟨_, value⟩, listed, rfl⟩ := List.mem_map.mp there
      rw [get?_of_mem distinct listed] at found
      cases found
  | some value =>
      rw [Option.bind_some]
      cases kept : change value with
      | some new => exact get?_choose_of_kept found kept
      | none =>
          refine get?_of_not_mem fun member => ?_
          obtain ⟨⟨_, new⟩, listed, rfl⟩ := List.mem_map.mp member
          obtain ⟨own, there, stays⟩ := mem_choose.mp listed
          rw [get?_of_mem distinct there, Option.some.injEq] at found
          rw [found, kept] at stays
          cases stays

end ResourceEditor.Members
