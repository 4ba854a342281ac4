import ResourceEditor.Value.Basic
/-
This file leaves out what was never filled in. Lists keep their entries and so their positions.
-/

namespace ResourceEditor

namespace Value

mutual

/-- The value as a record member: none when it is an empty scalar or when nothing is left of it. -/
def prune : Value → Option Value
  | .record members =>
      match pruneMembers members with
      | [] => none
      | kept => some (.record kept)
  | .list entries => some (.list (pruneEntries entries))
  | .text content => if content.isEmpty then none else some (.text content)
  | .number value => if value.isNaN then none else some (.number value)
  | .bool flag => some (.bool flag)

def pruneMembers : List (String × Value) → List (String × Value)
  | [] => []
  | (name, value) :: rest =>
      match value.prune with
      | some kept => (name, kept) :: pruneMembers rest
      | none => pruneMembers rest

/-- The value as a list entry, which stays even when it is blank. -/
def pruneEntry : Value → Value
  | .record members => .record (pruneMembers members)
  | .list entries => .list (pruneEntries entries)
  | .text content => .text content
  | .number value => .number value
  | .bool flag => .bool flag

def pruneEntries : List Value → List Value
  | [] => []
  | entry :: rest => entry.pruneEntry :: pruneEntries rest

end

end Value

/-- The form without empty scalars and empty records: what is sent to the controller. -/
def Record.pruned (model : Record) : Record := Value.pruneMembers model

end ResourceEditor
