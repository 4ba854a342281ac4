import ResourceEditor.Members
/-
This file holds the values of TOML documents, and the statements that documents consist of.
-/

namespace ResourceEditor

/-- Numerals with a fraction or an exponent, and dates, are kept as they are written. -/
inductive Toml where
  | string (text : String)
  | integer (value : Int)
  | float (numeral : String)
  | bool (value : Bool)
  | date (text : String)
  | array (elements : List Toml)
  | table (members : List (String × Toml))
deriving Repr, Inhabited

namespace Toml

/-- A line of a document: the header of a table, the header of one more element of an array of
tables, or a key with its value. -/
inductive Statement where
  | table (path : List String)
  | element (path : List String)
  | pair (path : List String) (value : Toml)
deriving Repr, Inhabited

/-- The characters of names that stand without quotes. -/
def isBareChar (c : Char) : Bool := c.isAlphanum || c == '_' || c == '-'

/-- The members of a table. A date can stand for a table too, with a member of its own kind. -/
def members? : Toml → Option (Members Toml)
  | .table members => some members
  | .date text => some [("Date", .string text)]
  | _ => none

/-- A table with one value below a list of names; the value itself below no names. -/
def nest : List String → Toml → Toml
  | [], value => value
  | name :: path, value => .table [(name, nest path value)]

mutual

/-- Lays a value over another one. Tables are joined, anything else is replaced. -/
def overlay (old : Toml) : Toml → Toml
  | .table added =>
      match old.members? with
      | some members => .table (overlayMembers members added)
      | none => .table added
  | .date text =>
      match old.members? with
      | some members => .table (members.set "Date" (.string text))
      | none => .date text
  | new => new

def overlayMembers (members : Members Toml) : List (String × Toml) → Members Toml
  | [] => members
  | (name, value) :: rest =>
      let joined :=
        match members.get? name with
        | some old => overlay old value
        | none => value
      overlayMembers (members.set name joined) rest

end

end Toml

end ResourceEditor
