/-
This file holds named values in the order in which their names first came up.
-/

namespace ResourceEditor

/-- Named values in the order in which they were added. -/
abbrev Members (α : Type) := List (String × α)

namespace Members

variable {α : Type}

def get? (members : Members α) (name : String) : Option α :=
  members.lookup name

def has (members : Members α) (name : String) : Bool :=
  (get? members name).isSome

def names (members : Members α) : List String :=
  members.map Prod.fst

/-- A name that is there keeps its place, a new one comes last. -/
def set : Members α → String → α → Members α
  | [], name, value => [(name, value)]
  | (other, old) :: rest, name, value =>
      if other = name then (other, value) :: rest else (other, old) :: set rest name value

def erase : Members α → String → Members α
  | [], _ => []
  | (other, old) :: rest, name => if other = name then rest else (other, old) :: erase rest name

/-- Adds the pairs one after the other, so that of two values of one name the later stays. -/
def collect (pairs : List (String × α)) : Members α :=
  pairs.foldl (fun members pair => set members pair.1 pair.2) []

@[simp] theorem get?_nil (name : String) : get? ([] : Members α) name = none := rfl

theorem get?_cons (other : String) (old : α) (rest : Members α) (name : String) :
    get? ((other, old) :: rest) name = if other = name then some old else get? rest name := by
  by_cases same : other = name
  · simp [get?, same]
  · have different : (name == other) = false := by simp [Ne.symm same]
    simp [get?, List.lookup_cons, different, same]

theorem get?_set (members : Members α) (name other : String) (value : α) :
    get? (set members name value) other =
      if name = other then some value else get? members other := by
  induction members with
  | nil => simp [set, get?_cons]
  | cons pair rest ih =>
      obtain ⟨first, old⟩ := pair
      by_cases same : first = name
      · subst same
        by_cases found : first = other <;> simp [set, get?_cons, found]
      · by_cases found : first = other
        · subst found
          simp [set, get?_cons, same, Ne.symm same]
        · simp [set, get?_cons, same, found, ih]

theorem names_set (members : Members α) (name : String) (value : α) :
    names (set members name value) =
      if name ∈ names members then names members else names members ++ [name] := by
  induction members with
  | nil => simp [set, names]
  | cons pair rest ih =>
      obtain ⟨first, old⟩ := pair
      by_cases same : first = name
      · simp [set, names, same]
      · have cons : names (set ((first, old) :: rest) name value) =
            first :: names (set rest name value) := by rw [set, if_neg same]; rfl
        have either : name ∈ names ((first, old) :: rest) ↔ name ∈ names rest := by
          simp [names, Ne.symm same]
        simp only [cons, ih, either]
        split <;> rfl

theorem names_set_of_mem {members : Members α} {name : String} (listed : name ∈ names members)
    (value : α) : names (set members name value) = names members := by
  rw [names_set, if_pos listed]

theorem mem_of_mem_set {members : Members α} {name : String} {value : α} {pair : String × α}
    (member : pair ∈ set members name value) : pair = (name, value) ∨ pair ∈ members := by
  induction members with
  | nil => exact .inl (List.mem_singleton.mp member)
  | cons first rest ih =>
      rw [set] at member
      split at member
      next same =>
        obtain rfl | inRest := List.mem_cons.mp member
        · exact .inl (congrArg (·, value) same)
        · exact .inr (List.mem_cons_of_mem _ inRest)
      next =>
        obtain rfl | inRest := List.mem_cons.mp member
        · exact .inr List.mem_cons_self
        · exact (ih inRest).imp_right (List.mem_cons_of_mem _)

theorem mem_of_get? {members : Members α} {name : String} {value : α}
    (found : get? members name = some value) : (name, value) ∈ members := by
  induction members with
  | nil => cases found
  | cons pair rest ih =>
      obtain ⟨first, old⟩ := pair
      rw [get?_cons] at found
      split at found
      next same =>
        cases found
        cases same
        exact List.mem_cons_self
      next => exact List.mem_cons_of_mem _ (ih found)

theorem mem_names_of_get? {members : Members α} {name : String} {value : α}
    (found : get? members name = some value) : name ∈ names members :=
  List.mem_map.mpr ⟨_, mem_of_get? found, rfl⟩

theorem get?_of_mem {members : Members α} {name : String} {value : α}
    (distinct : (names members).Nodup) (member : (name, value) ∈ members) :
    get? members name = some value := by
  induction members with
  | nil => cases member
  | cons pair rest ih =>
      obtain ⟨first, old⟩ := pair
      obtain ⟨fresh, distinct⟩ := List.nodup_cons.mp distinct
      rw [get?_cons]
      obtain same | inRest := List.mem_cons.mp member
      · cases same
        rw [if_pos rfl]
      · have different : first ≠ name := by
          rintro rfl
          exact fresh (List.mem_map.mpr ⟨_, inRest, rfl⟩)
        rw [if_neg different]
        exact ih distinct inRest

theorem get?_of_not_mem {members : Members α} {name : String} (fresh : name ∉ names members) :
    get? members name = none := by
  cases found : get? members name with
  | none => rfl
  | some value => exact absurd (List.mem_map.mpr ⟨_, mem_of_get? found, rfl⟩) fresh

theorem not_mem_of_get? {members : Members α} {name : String} (missing : get? members name = none) :
    name ∉ names members := by
  intro listed
  obtain ⟨pair, member, rfl⟩ := List.mem_map.mp listed
  have different := List.lookup_eq_none_iff.mp missing pair member
  simp at different

theorem has_iff_mem_names (members : Members α) (name : String) :
    has members name = true ↔ name ∈ names members := by
  rw [has]
  cases found : get? members name with
  | none => simpa using not_mem_of_get? found
  | some value =>
      have listed : name ∈ names members := List.mem_map.mpr ⟨_, mem_of_get? found, rfl⟩
      simpa using listed

theorem exists_of_mem_names {members : Members α} {name : String}
    (listed : name ∈ names members) : ∃ value, get? members name = some value := by
  rw [← has_iff_mem_names, has, Option.isSome_iff_exists] at listed
  exact listed

/-- Members with the same names in the same places and the same values are the same. -/
theorem eq_of_get? {members others : Members α} (distinct : (names members).Nodup)
    (same : names others = names members)
    (values : ∀ name ∈ names members, get? others name = get? members name) :
    others = members := by
  induction members generalizing others with
  | nil => exact List.map_eq_nil_iff.mp same
  | cons pair rest ih =>
      obtain ⟨name, value⟩ := pair
      obtain ⟨fresh, apart⟩ := List.nodup_cons.mp distinct
      cases others with
      | nil => cases same
      | cons other more =>
          obtain ⟨another, held⟩ := other
          obtain ⟨rfl, later⟩ := List.cons.inj same
          have here := values another List.mem_cons_self
          rw [get?_cons, get?_cons, if_pos rfl, if_pos rfl] at here
          cases here
          refine congrArg _ (ih apart later fun name listed => ?_)
          have different : another ≠ name := by
            rintro rfl
            exact fresh listed
          have there := values name (List.mem_cons_of_mem _ listed)
          rwa [get?_cons, get?_cons, if_neg different, if_neg different] at there

/-- A new name comes last. -/
theorem set_of_not_mem {members : Members α} {name : String} (fresh : name ∉ names members)
    (value : α) : set members name value = members ++ [(name, value)] := by
  induction members with
  | nil => rfl
  | cons pair rest ih =>
      obtain ⟨other, old⟩ := pair
      obtain ⟨different, fresh⟩ := not_or.mp fun listed => fresh (List.mem_cons.mpr listed)
      rw [set, if_neg fun same => different same.symm, ih fresh]
      rfl

theorem set_append_of_not_mem {members : Members α} {name : String} (fresh : name ∉ names members)
    (old value : α) : set (members ++ [(name, old)]) name value = members ++ [(name, value)] := by
  induction members with
  | nil => rw [List.nil_append, List.nil_append, set, if_pos rfl]
  | cons pair rest ih =>
      obtain ⟨other, first⟩ := pair
      obtain ⟨different, fresh⟩ := not_or.mp fun listed => fresh (List.mem_cons.mpr listed)
      rw [List.cons_append, set, if_neg fun same => different same.symm, ih fresh]
      rfl

/-- Of two values that are set one after the other, the later stays. -/
theorem set_set (members : Members α) (name : String) (one other : α) :
    set (set members name one) name other = set members name other := by
  induction members with
  | nil => simp [set]
  | cons pair rest ih =>
      obtain ⟨first, old⟩ := pair
      by_cases same : first = name <;> simp [set, same, ih]

theorem set_of_get? {members : Members α} {name : String} {value : α}
    (held : get? members name = some value) : set members name value = members := by
  induction members with
  | nil => cases held
  | cons pair rest ih =>
      obtain ⟨first, old⟩ := pair
      rw [get?_cons] at held
      rw [set]
      split at held
      next here =>
        cases held
        rw [if_pos here]
      next there => rw [if_neg there, ih held]

theorem get?_append_of_not_mem {members : Members α} {name : String} (fresh : name ∉ names members)
    (value : α) : get? (members ++ [(name, value)]) name = some value := by
  rw [← set_of_not_mem fresh, get?_set, if_pos rfl]

theorem nodup_names_set {members : Members α} (name : String) (value : α)
    (distinct : (names members).Nodup) : (names (set members name value)).Nodup := by
  rw [names_set]
  split
  next => exact distinct
  next fresh =>
    refine List.nodup_append.mpr ⟨distinct, by simp, ?_⟩
    intro other there last isLast same
    rw [List.mem_singleton.mp isLast] at same
    exact fresh (same ▸ there)

theorem nodup_names_collect (pairs : List (String × α)) : (names (collect pairs)).Nodup := by
  exact List.foldlRecOn (motive := fun members => (names members).Nodup) pairs _ List.nodup_nil
    fun members distinct pair _ => nodup_names_set pair.1 pair.2 distinct

/-- Of all values of one name the last is kept. -/
theorem get?_collect {before after : List (String × α)} {name : String} {value : α}
    (last : ∀ pair ∈ after, pair.1 ≠ name) :
    get? (collect (before ++ (name, value) :: after)) name = some value := by
  rw [collect, List.foldl_append, List.foldl_cons]
  refine List.foldlRecOn (motive := fun members : Members α => get? members name = some value) after
    _ (by rw [get?_set, if_pos rfl]) fun members kept pair member => ?_
  rw [get?_set, if_neg (last pair member), kept]

theorem mem_of_mem_collect {pairs : List (String × α)} {pair : String × α}
    (member : pair ∈ collect pairs) : pair ∈ pairs := by
  have among : ∀ other ∈ collect pairs, other ∈ pairs :=
    List.foldlRecOn (motive := fun members : Members α => ∀ other ∈ members, other ∈ pairs) pairs _
      (List.forall_mem_nil _) fun members kept added listed other there => by
        obtain rfl | before := mem_of_mem_set there
        · exact listed
        · exact kept other before
  exact among pair member

end Members

end ResourceEditor
