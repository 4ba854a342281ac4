import ResourceEditor.Toml.Basic
/-
This file builds tables from keys and headers. A table can be filled from several places of a
document as long as no place defines it twice.
-/

namespace ResourceEditor.Toml

/-- How a table came about: named on the way to another one by a header or by a dotted key, or
defined by a header of its own. -/
inductive Origin where
  | passing
  | dotted
  | header
deriving Repr, DecidableEq

/-- An unfinished value of a document. The elements of an array of tables stand in reverse. -/
inductive Draft where
  | leaf (value : Toml)
  | table (origin : Origin) (members : List (String × Draft))
  | elements (tables : List (List (String × Draft)))
deriving Inhabited

namespace Draft

/-- Changes the table at a path. Tables that are missing on the way are made; a dotted key does not
enter a table that has a header of its own. -/
def descend (dotted : Bool) (change : Origin → Members Draft → Option (Members Draft)) :
    List String → Origin → Members Draft → Option (Members Draft)
  | [], origin, members => change origin members
  | name :: path, _, members =>
      match members.get? name with
      | none =>
          let origin : Origin := if dotted then .dotted else .passing
          (descend dotted change path origin []).map fun inner =>
            members.set name (.table origin inner)
      | some (.table origin inner) =>
          if dotted && origin == .header then none
          else
            (descend dotted change path origin inner).map fun inner =>
              members.set name (.table origin inner)
      | some (.elements (last :: before)) =>
          (descend dotted change path .header last).map fun last =>
            members.set name (.elements (last :: before))
      | some (.elements []) => none
      | some (.leaf _) => none

/-- Adds a key with its value below a table. Each name is given once, and a key with dots ends in a
table that keys with dots have made. -/
def insertPair (path : List String) (value : Toml) (origin : Origin) (members : Members Draft) :
    Option (Members Draft) :=
  match path.getLast? with
  | none => none
  | some name =>
      let isDotted := 1 < path.length
      let insert (origin : Origin) (members : Members Draft) : Option (Members Draft) :=
        if members.has name || (isDotted && origin != .dotted) then none
        else some (members ++ [(name, .leaf value)])
      descend true insert path.dropLast origin members

/-- Defines a table; it may have been named before only on the way to others. -/
def insertTable (name : String) (_ : Origin) (members : Members Draft) : Option (Members Draft) :=
  match members.get? name with
  | none => some (members ++ [(name, .table .header [])])
  | some (.table .passing inner) => some (members.set name (.table .header inner))
  | _ => none

/-- Adds an element to an array of tables. -/
def insertElement (name : String) (_ : Origin) (members : Members Draft) :
    Option (Members Draft) :=
  match members.get? name with
  | none => some (members ++ [(name, .elements [[]])])
  | some (.elements tables) => some (members.set name (.elements ([] :: tables)))
  | _ => none

/-- The table that is being filled, and the draft of the whole document. -/
structure Sheet where
  current : List String
  root : List (String × Draft)

def Sheet.step (sheet : Sheet) : Statement → Option Sheet
  | .pair path value =>
      (descend false (insertPair path value) sheet.current .header sheet.root).map fun root =>
        ⟨sheet.current, root⟩
  | .table path =>
      path.getLast?.bind fun name =>
        (descend false (insertTable name) path.dropLast .header sheet.root).map fun root =>
          ⟨path, root⟩
  | .element path =>
      path.getLast?.bind fun name =>
        (descend false (insertElement name) path.dropLast .header sheet.root).map fun root =>
          ⟨path, root⟩

mutual

def finish : Draft → Toml
  | .leaf value => value
  | .table _ members => .table (finishMembers members)
  | .elements tables => .array (finishElements tables).reverse

def finishMembers : List (String × Draft) → List (String × Toml)
  | [] => []
  | (name, draft) :: rest => (name, finish draft) :: finishMembers rest

def finishElements : List (List (String × Draft)) → List Toml
  | [] => []
  | members :: rest => .table (finishMembers members) :: finishElements rest

end

end Draft

/-- The table that the statements define, unless they contradict each other. -/
def ofStatements? (statements : List Statement) : Option Toml :=
  (statements.foldlM Draft.Sheet.step ⟨[], []⟩).map fun sheet =>
    .table (Draft.finishMembers sheet.root)

/-- The table that is written out in braces. -/
def ofPairs? (pairs : List (List String × Toml)) : Option Toml :=
  ofStatements? (pairs.map fun (path, value) => .pair path value)

end ResourceEditor.Toml
