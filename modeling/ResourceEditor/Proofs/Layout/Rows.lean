import Mathlib.Data.List.Nodup
import ResourceEditor.Layout.Rows
import ResourceEditor.Path.Basic
import ResourceEditor.Proofs.Path.Grammar
import ResourceEditor.Proofs.Value.Lookup
/-
This file shows that the table of a form has one row for each scalar of the form, in the order of
the form, and that the first cell of a row is read as the path of its scalar.
-/

namespace ResourceEditor

namespace Value

/-- What lies in a value one step down, with the steps. -/
def children : Value → List (Segment × Value)
  | .record members => members.map fun (name, value) => (.field name, value)
  | .list entries => entries.zipIdx.map fun (entry, position) => (.index position, entry)
  | _ => []

/-- One path parts from another at a value that both lead through, to an earlier member or entry. -/
def ComesBefore (value : Value) (path other : Path) : Prop :=
  ∃ common below first second, value.at? common = some below ∧
    [first, second].Sublist (below.children.map Prod.fst) ∧ common ++ [first] <+: path ∧
    common ++ [second] <+: other

/-- Paths can name all that lies in a value: the members of a record have names of their own that
paths can spell, and a list has no more entries than there are positions. -/
inductive IsAddressable : Value → Prop where
  | scalar {value : Value} (scalar : value.isScalar = true) : IsAddressable value
  | record {members : Record} (distinct : (Members.names members).Nodup)
      (named : ∀ name ∈ Members.names members, Path.IsName name.toList)
      (each : ∀ pair ∈ members, IsAddressable pair.2) : IsAddressable (.record members)
  | list {entries : List Value} (few : entries.length ≤ 0x10000000000000000)
      (each : ∀ entry ∈ entries, IsAddressable entry) : IsAddressable (.list entries)

/-! Steps down. -/

theorem map_fst_children_record (members : Record) :
    (record members).children.map Prod.fst = (Members.names members).map .field := by
  rw [children, Members.names, List.map_map, List.map_map]
  rfl

theorem map_fst_children_list (entries : List Value) :
    (list entries).children.map Prod.fst = (List.range' 0 entries.length).map .index := by
  rw [children, List.map_map, ← List.zipIdx_map_snd 0 entries, List.map_map]
  rfl

theorem children_of_isScalar {value : Value} (scalar : value.isScalar = true) :
    value.children = [] := by
  cases value with
  | record members => cases scalar
  | list entries => cases scalar
  | _ => rfl

theorem IsAddressable.nodup_children {value : Value} (addressable : value.IsAddressable) :
    (value.children.map Prod.fst).Nodup := by
  cases addressable with
  | scalar scalar =>
      rw [children_of_isScalar scalar]
      exact List.nodup_nil
  | record distinct named each =>
      rw [map_fst_children_record]
      exact distinct.map fun _ _ => Segment.field.inj
  | list few each =>
      rw [map_fst_children_list]
      exact List.Nodup.map (fun _ _ => Segment.index.inj) List.nodup_range'

theorem IsAddressable.mem_children_iff {value below : Value} {segment : Segment}
    (addressable : value.IsAddressable) :
    (segment, below) ∈ value.children ↔ value.step? segment = some below := by
  cases addressable with
  | scalar scalar =>
      rw [children_of_isScalar scalar]
      cases value with
      | record members => cases scalar
      | list entries => cases scalar
      | _ => exact iff_of_false List.not_mem_nil nofun
  | @record members distinct named each =>
      cases segment with
      | field name =>
          rw [step?_record]
          simp only [children, List.mem_map, Prod.mk.injEq, Segment.field.injEq, Prod.exists]
          constructor
          · rintro ⟨_, _, member, rfl, rfl⟩
            exact Members.get?_of_mem distinct member
          · exact fun held => ⟨name, below, Members.mem_of_get? held, rfl, rfl⟩
      | index position => simp [children, step?]
  | @list entries few each =>
      cases segment with
      | field name => simp [children, step?]
      | index position =>
          rw [step?_list, ← List.mk_mem_zipIdx_iff_getElem?]
          simp [children]

theorem IsAddressable.step {value below : Value} {segment : Segment}
    (addressable : value.IsAddressable) (there : value.step? segment = some below) :
    segment.IsWritable ∧ below.IsAddressable := by
  have child := addressable.mem_children_iff.mpr there
  cases addressable with
  | scalar scalar =>
      rw [children_of_isScalar scalar] at child
      cases child
  | record distinct named each =>
      cases segment with
      | field name =>
          exact ⟨named name (Members.mem_names_of_get? there), each _ (Members.mem_of_get? there)⟩
      | index position => cases there
  | list few each =>
      cases segment with
      | field name => cases there
      | index position =>
          obtain ⟨inside, rfl⟩ := List.getElem?_eq_some_iff.mp there
          have small : position < 0x10000000000000000 := Nat.lt_of_lt_of_le inside few
          exact ⟨Nat.le_pred_of_lt small, each _ (List.getElem_mem inside)⟩

theorem IsAddressable.at? {value below : Value} {path : Path} (addressable : value.IsAddressable)
    (there : value.at? path = some below) :
    (∀ segment ∈ path, segment.IsWritable) ∧ below.IsAddressable := by
  induction path generalizing value with
  | nil =>
      cases there
      exact ⟨List.forall_mem_nil _, addressable⟩
  | cons segment rest ih =>
      rw [at?_cons] at there
      obtain ⟨next, first, others⟩ := Option.bind_eq_some_iff.mp there
      obtain ⟨writable, inside⟩ := addressable.step first
      obtain ⟨each, last⟩ := ih inside others
      exact ⟨List.forall_mem_cons.mpr ⟨writable, each⟩, last⟩

/-! The order of paths. -/

theorem comesBefore_of_children {value : Value} {first second : Segment}
    (earlier : [first, second].Sublist (value.children.map Prod.fst)) (path other : Path) :
    value.ComesBefore (first :: path) (second :: other) :=
  ⟨[], value, first, second, at?_nil value, earlier, ⟨path, rfl⟩, ⟨other, rfl⟩⟩

theorem ComesBefore.below {value below : Value} {segment : Segment} {path other : Path}
    (there : value.step? segment = some below) (before : below.ComesBefore path other) :
    value.ComesBefore (segment :: path) (segment :: other) := by
  obtain ⟨common, last, first, second, reached, earlier, one, two⟩ := before
  refine ⟨segment :: common, last, first, second, ?_, earlier, ?_, ?_⟩
  · rw [at?_cons, there]
    exact reached
  · exact List.cons_prefix_cons.mpr ⟨rfl, one⟩
  · exact List.cons_prefix_cons.mpr ⟨rfl, two⟩

theorem IsAddressable.comesBefore_ne {value : Value} {path other : Path}
    (addressable : value.IsAddressable) (before : value.ComesBefore path other) :
    path ≠ other := by
  rintro rfl
  obtain ⟨common, below, first, second, reached, earlier, one, two⟩ := before
  obtain rfl := Path.segment_eq one two
  have distinct := (addressable.at? reached).2.nodup_children.sublist earlier
  simp at distinct

/-! The scalars of a value. -/

mutual

/-- The scalars of a value with the paths to them, depth first. -/
def scalars : Value → List (Path × Value)
  | .record members => memberScalars members
  | .list entries => entryScalars 0 entries
  | scalar => [([], scalar)]

def memberScalars : List (String × Value) → List (Path × Value)
  | [] => []
  | (name, value) :: rest =>
      (value.scalars.map fun (path, scalar) => (.field name :: path, scalar)) ++ memberScalars rest

def entryScalars (position : Nat) : List Value → List (Path × Value)
  | [] => []
  | entry :: rest =>
      (entry.scalars.map fun (path, scalar) => (.index position :: path, scalar)) ++
        entryScalars (position + 1) rest

end

/-- The scalars of a value that lies one step down. -/
def scalarsBelow (child : Segment × Value) : List (Path × Value) :=
  child.2.scalars.map fun (path, scalar) => (child.1 :: path, scalar)

theorem scalars_record (members : Record) :
    (record members).scalars = (record members).children.flatMap scalarsBelow := by
  rw [scalars, children]
  induction members with
  | nil => rfl
  | cons pair rest ih =>
      rw [memberScalars, ih]
      rfl

theorem scalars_list (entries : List Value) :
    (list entries).scalars = (list entries).children.flatMap scalarsBelow := by
  rw [scalars, children]
  generalize 0 = position
  induction entries generalizing position with
  | nil => rfl
  | cons entry rest ih =>
      rw [entryScalars, ih]
      rfl

theorem scalars_of_isScalar {value : Value} (scalar : value.isScalar = true) :
    value.scalars = [([], value)] := by
  cases value with
  | record members => cases scalar
  | list entries => cases scalar
  | _ => rfl

mutual

/-- The rows of a value are those of its scalars. -/
theorem rows_eq (value : Value) (base : Path) :
    value.rows base = value.scalars.map fun (path, scalar) => (base ++ path, scalar.cellText) := by
  cases value with
  | record members => exact memberRows_eq members base
  | list entries => exact entryRows_eq entries base 0
  | _ => simp [rows, scalars, cellText, text?]

theorem memberRows_eq (members : List (String × Value)) (base : Path) :
    memberRows base members =
      (memberScalars members).map fun (path, scalar) => (base ++ path, scalar.cellText) := by
  cases members with
  | nil => rfl
  | cons pair rest =>
      obtain ⟨name, value⟩ := pair
      rw [memberRows, memberScalars, rows_eq value, memberRows_eq rest, List.map_append,
        List.map_map]
      simp [Path.child, Function.comp_def]

theorem entryRows_eq (entries : List Value) (base : Path) (position : Nat) :
    entryRows base position entries =
      (entryScalars position entries).map fun (path, scalar) =>
        (base ++ path, scalar.cellText) := by
  cases entries with
  | nil => rfl
  | cons entry rest =>
      rw [entryRows, entryScalars, rows_eq entry, entryRows_eq rest, List.map_append,
        List.map_map]
      simp [Path.entry, Function.comp_def]

end

/-- A list of places is that of a value's scalars: it has every scalar at its path and nothing else,
in the order of the value. -/
structure Lists (value : Value) (places : List (Path × Value)) : Prop where
  mem_iff : ∀ path scalar,
    (path, scalar) ∈ places ↔ value.at? path = some scalar ∧ scalar.isScalar = true
  ordered : places.Pairwise fun one other => value.ComesBefore one.1 other.1

theorem lists_of_isScalar {value : Value} (scalar : value.isScalar = true) :
    value.Lists value.scalars := by
  rw [scalars_of_isScalar scalar]
  refine ⟨fun path held => ?_, List.pairwise_singleton _ _⟩
  rw [List.mem_singleton, Prod.mk.injEq]
  cases path with
  | nil =>
      rw [at?_nil, Option.some.injEq]
      constructor
      · rintro ⟨-, rfl⟩
        exact ⟨rfl, scalar⟩
      · rintro ⟨rfl, -⟩
        exact ⟨rfl, rfl⟩
  | cons segment rest =>
      have none : value.step? segment = none := by
        cases value with
        | record members => cases scalar
        | list entries => cases scalar
        | _ => rfl
      rw [at?_cons, none]
      exact iff_of_false nofun nofun

/-- The scalars of a value that is none itself lie in its children. -/
theorem IsAddressable.lists_of_children {value : Value} (addressable : value.IsAddressable)
    (inner : value.isScalar = false)
    (each : ∀ child ∈ value.children, child.2.Lists child.2.scalars)
    (gathered : value.scalars = value.children.flatMap scalarsBelow) :
    value.Lists value.scalars := by
  rw [gathered]
  constructor
  · intro path scalar
    simp only [List.mem_flatMap, scalarsBelow, List.mem_map, Prod.mk.injEq]
    constructor
    · rintro ⟨⟨segment, below⟩, child, ⟨rest, _⟩, listed, rfl, rfl⟩
      obtain ⟨reached, isScalar⟩ := ((each _ child).mem_iff _ _).mp listed
      rw [at?_cons, addressable.mem_children_iff.mp child]
      exact ⟨reached, isScalar⟩
    · rintro ⟨there, isScalar⟩
      cases path with
      | nil =>
          cases there
          rw [inner] at isScalar
          cases isScalar
      | cons segment rest =>
          rw [at?_cons] at there
          obtain ⟨below, first, others⟩ := Option.bind_eq_some_iff.mp there
          have child := addressable.mem_children_iff.mpr first
          exact ⟨_, child, _, ((each _ child).mem_iff _ _).mpr ⟨others, isScalar⟩, rfl, rfl⟩
  · rw [List.pairwise_flatMap]
    refine ⟨fun child member => ?_, List.pairwise_iff_forall_sublist.mpr ?_⟩
    · rw [scalarsBelow, List.pairwise_map]
      exact (each child member).ordered.imp
        fun before => before.below (addressable.mem_children_iff.mp member)
    · intro child other earlier one first two second
      obtain ⟨one, -, rfl⟩ := List.mem_map.mp first
      obtain ⟨two, -, rfl⟩ := List.mem_map.mp second
      exact comesBefore_of_children (earlier.map Prod.fst) _ _

theorem IsAddressable.lists_scalars {value : Value} (addressable : value.IsAddressable) :
    value.Lists value.scalars := by
  induction addressable with
  | scalar scalar => exact lists_of_isScalar scalar
  | @record members distinct named each ih =>
      refine (record distinct named each).lists_of_children rfl (fun child member => ?_)
        (scalars_record members)
      obtain ⟨pair, inside, rfl⟩ := List.mem_map.mp member
      exact ih pair inside
  | @list entries few each ih =>
      refine (list few each).lists_of_children rfl (fun child member => ?_) (scalars_list entries)
      obtain ⟨⟨entry, position⟩, inside, rfl⟩ := List.mem_map.mp member
      exact ih entry (List.mem_of_getElem? (List.mk_mem_zipIdx_iff_getElem?.mp inside))

/-- A scalar that is not the mark for malformed numbers is shown as its text. -/
theorem text?_of_isScalar {value : Value} (scalar : value.isScalar = true) :
    value.text? = some value.cellText ∨ value = .notANumber ∧ value.cellText = "" := by
  cases value with
  | text content => exact .inl rfl
  | number value =>
      cases value with
      | int value => exact .inl rfl
      | notANumber => exact .inr ⟨rfl, rfl⟩
  | bool flag => exact .inl rfl
  | record members => cases scalar
  | list entries => cases scalar

end Value

namespace Record

/-- The path to a scalar of an addressable form can be written. -/
theorem isWritable_of_at? {model : Record} (addressable : (Value.record model).IsAddressable)
    {path : Path} {held : Value} (there : model.at? path = some held) : path.IsWritable := by
  cases path with
  | nil => cases there
  | cons segment rest =>
      refine ⟨?_, (addressable.at? there).1⟩
      rw [at?_of_ne_nil model (List.cons_ne_nil _ _), Value.at?_cons] at there
      obtain ⟨below, first, -⟩ := Option.bind_eq_some_iff.mp there
      cases segment with
      | field name => exact ⟨name, rest, rfl⟩
      | index position => cases first

theorem at?_scalar_iff (model : Record) (path : Path) {scalar : Value}
    (isScalar : scalar.isScalar = true) :
    model.at? path = some scalar ↔ (Value.record model).at? path = some scalar := by
  cases path with
  | nil =>
      refine iff_of_false nofun fun there => ?_
      cases there
      cases isScalar
  | cons segment rest => exact Iff.rfl

/-- The table of a form has one row for each scalar, in the order of the form. The first cell of a
row is read as the path to its scalar and is that of no other row, and the second cell is the
scalar's text, blank for the mark for malformed numbers. -/
theorem rows_exact {model : Record} (addressable : (Value.record model).IsAddressable) :
    ∃ places : List (Path × Value),
      (∀ path scalar,
        (path, scalar) ∈ places ↔ model.at? path = some scalar ∧ scalar.isScalar = true) ∧
      (places.Pairwise fun one other => (Value.record model).ComesBefore one.1 other.1) ∧
      model.rows = places.map (fun (path, scalar) => (path.render, scalar.cellText)) ∧
      (∀ path scalar, (path, scalar) ∈ places → Path.parse path.render = .ok path ∧
        (scalar.text? = some scalar.cellText ∨
          scalar = .notANumber ∧ scalar.cellText = "")) ∧
      (model.rows.map Prod.fst).Nodup := by
  have lists := addressable.lists_scalars
  have places (path : Path) (scalar : Value) : (path, scalar) ∈ (Value.record model).scalars ↔
      model.at? path = some scalar ∧ scalar.isScalar = true := by
    rw [lists.mem_iff]
    exact and_congr_left fun isScalar => (at?_scalar_iff model path isScalar).symm
  have read {path : Path} {scalar : Value}
      (listed : (path, scalar) ∈ (Value.record model).scalars) :
      Path.parse path.render = .ok path :=
    (isWritable_of_at? addressable ((places path scalar).mp listed).1).parse_render
  have drawn : model.rows = (Value.record model).scalars.map
      fun (path, scalar) => (path.render, scalar.cellText) := by
    rw [rows, Value.memberRows_eq, List.map_map]
    rfl
  refine ⟨(Value.record model).scalars, places, lists.ordered, drawn,
    fun path scalar listed => ⟨read listed, Value.text?_of_isScalar ((places _ _).mp listed).2⟩, ?_⟩
  rw [drawn, List.map_map, List.Nodup, List.pairwise_map]
  refine lists.ordered.imp_of_mem fun {one other} first second before same => ?_
  have paths := (read first).symm.trans ((congrArg Path.parse same).trans (read second))
  exact addressable.comesBefore_ne before (Except.ok.inj paths)

/-- A form with lists in lists, a number that could not be read and an empty text. -/
def meshForm : Record :=
  [("name", .text ""),
    ("links", .list
      [.list [.bool true, .record []], .record [("max-rate", .notANumber), ("weight", .int (-3))]])]

theorem meshForm_rows :
    (Value.record meshForm).IsAddressable ∧
      meshForm.rows =
        [("name", ""), ("links[0][0]", "true"), ("links[1].max-rate", ""),
          ("links[1].weight", "-3")] ∧
      Path.parse "links[1].max-rate" = .ok [.field "links", .index 1, .field "max-rate"] ∧
      (meshForm.rows.map Prod.fst).Nodup := by
  have addressable : (Value.record meshForm).IsAddressable := by
    refine .record (by decide) ?_ ?_
    · simp only [meshForm, Members.names, List.map_cons, List.map_nil, List.forall_mem_cons]
      exact ⟨Path.isName_of_all rfl rfl, Path.isName_of_all rfl rfl, List.forall_mem_nil _⟩
    simp only [meshForm, List.forall_mem_cons]
    refine ⟨.scalar rfl, .list (by decide) ?_, List.forall_mem_nil _⟩
    simp only [List.forall_mem_cons]
    refine ⟨.list (by decide) ?_, .record (by decide) ?_ ?_, List.forall_mem_nil _⟩
    · simp only [List.forall_mem_cons]
      exact ⟨.scalar rfl, .record List.nodup_nil (List.forall_mem_nil _) (List.forall_mem_nil _),
        List.forall_mem_nil _⟩
    · simp only [Members.names, List.map_cons, List.map_nil, List.forall_mem_cons]
      exact ⟨Path.isName_of_all rfl rfl, Path.isName_of_all rfl rfl, List.forall_mem_nil _⟩
    · simp only [List.forall_mem_cons]
      exact ⟨.scalar rfl, .scalar rfl, List.forall_mem_nil _⟩
  obtain ⟨places, listed, _, _, read, distinct⟩ := rows_exact addressable
  have there : ([.field "links", .index 1, .field "max-rate"], Value.notANumber) ∈ places :=
    (listed _ _).mpr ⟨rfl, rfl⟩
  exact ⟨addressable, by decide, (read _ _ there).1, distinct⟩

end Record

end ResourceEditor
