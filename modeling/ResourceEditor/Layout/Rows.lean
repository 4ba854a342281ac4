import ResourceEditor.Value.Basic
/-
This file lists the scalars of a form with their places.
-/

namespace ResourceEditor

namespace Value

/-- The text of a scalar in a table; the mark for malformed numbers is left blank. -/
def cellText (value : Value) : String := value.text?.getD ""

mutual

/-- The scalars of a value at a path, depth first. -/
def rows (path : Path) : Value → List (Path × String)
  | .record members => memberRows path members
  | .list entries => entryRows path 0 entries
  | .text content => [(path, content)]
  | .number value => [(path, (Value.number value).cellText)]
  | .bool flag => [(path, (Value.bool flag).cellText)]

def memberRows (path : Path) : List (String × Value) → List (Path × String)
  | [] => []
  | (name, value) :: rest => value.rows (path.child name) ++ memberRows path rest

def entryRows (path : Path) (position : Nat) : List Value → List (Path × String)
  | [] => []
  | entry :: rest => entry.rows (path.entry position) ++ entryRows path (position + 1) rest

end

end Value

/-- One row for each scalar of a form: its path and its text. -/
def Record.rows (model : Record) : List (String × String) :=
  (Value.memberRows [] model).map fun (path, text) => (path.render, text)

end ResourceEditor
