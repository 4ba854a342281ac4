/-
This file holds paths: where in a record a value is, as field names and list positions. It compares
them: which of them lie below one another, and which end in a name.
-/

namespace ResourceEditor

inductive Segment where
  | field (name : String)
  | index (position : Nat)
deriving Repr, DecidableEq, Inhabited

/-- The way from a record to one of its values; the empty path is the record itself. -/
abbrev Path := List Segment

namespace Path

def child (path : Path) (name : String) : Path := path ++ [.field name]

def entry (path : Path) (position : Nat) : Path := path ++ [.index position]

/-- The name at the end of the path, if it ends in one. -/
def lastField? (path : Path) : Option String :=
  match path.getLast? with
  | some (.field name) => some name
  | _ => none

def renderRest : List Segment → String
  | [] => ""
  | .field name :: rest => "." ++ name ++ renderRest rest
  | .index position :: rest => "[" ++ toString position ++ "]" ++ renderRest rest

/-- Names are joined by points, positions stand in brackets. -/
def render : Path → String
  | .field name :: rest => name ++ renderRest rest
  | path => renderRest path

/-- A path goes on in one way only below another one. -/
theorem segment_eq {path full : Path} {first second : Segment} (one : path ++ [first] <+: full)
    (other : path ++ [second] <+: full) : first = second := by
  have same : path ++ [first] = path ++ [second] :=
    List.IsPrefix.eq_of_length (List.prefix_of_prefix_length_le one other (by simp)) (by simp)
  simpa using same

theorem child_eq {path full : Path} {first second : String} (one : path.child first <+: full)
    (other : path.child second <+: full) : first = second := by
  simpa using segment_eq one other

theorem entry_eq {path full : Path} {first second : Nat} (one : path.entry first <+: full)
    (other : path.entry second <+: full) : first = second := by
  simpa using segment_eq one other

/-- Neither of two paths is the other one or goes on from it. -/
def Apart (path other : Path) : Prop := ¬ path <+: other ∧ ¬ other <+: path

instance (path other : Path) : Decidable (Apart path other) :=
  inferInstanceAs (Decidable (_ ∧ _))

theorem Apart.symm {path other : Path} (apart : Apart path other) : Apart other path :=
  ⟨apart.2, apart.1⟩

theorem Apart.cons_iff {segment : Segment} {path other : Path} :
    Apart (segment :: path) (segment :: other) ↔ Apart path other := by
  rw [Apart, Apart, List.prefix_cons_inj, List.prefix_cons_inj]

theorem prefix_child (path : Path) (name : String) : path <+: path.child name :=
  List.prefix_append path _

theorem prefix_entry (path : Path) (position : Nat) : path <+: path.entry position :=
  List.prefix_append path _

@[simp] theorem length_child (path : Path) (name : String) :
    (path.child name).length = path.length + 1 := List.length_append

@[simp] theorem length_entry (path : Path) (position : Nat) :
    (path.entry position).length = path.length + 1 := List.length_append

@[simp] theorem dropLast_child (path : Path) (name : String) :
    (path.child name).dropLast = path := List.dropLast_concat

@[simp] theorem lastField?_nil : lastField? [] = none := rfl

@[simp] theorem lastField?_child (path : Path) (name : String) :
    (path.child name).lastField? = some name := by
  rw [lastField?, child, List.getLast?_concat]

@[simp] theorem lastField?_entry (path : Path) (position : Nat) :
    (path.entry position).lastField? = none := by
  rw [lastField?, entry, List.getLast?_concat]

end Path

end ResourceEditor
