import ResourceEditor.Members
import ResourceEditor.Path.Basic
import ResourceEditor.Value.Number
/-
This file holds the values of a form: scalars, records and lists. Records are equal when they hold
equal values under the same names, in whatever order the names came up.
-/

namespace ResourceEditor

inductive Value where
  | text (content : String)
  | number (value : Number)
  | bool (flag : Bool)
  | record (members : List (String × Value))
  | list (entries : List Value)
deriving Repr, Inhabited

/-- A form under edit: its members in the order in which they were filled in. -/
abbrev Record := Members Value

namespace Value

def int (value : Int64) : Value := .number (.int value)

def notANumber : Value := .number .notANumber

def isNaN : Value → Bool
  | .number value => value.isNaN
  | _ => false

def isScalar : Value → Bool
  | .record _ => false
  | .list _ => false
  | _ => true

def record? : Value → Option Record
  | .record members => some members
  | _ => none

def list? : Value → Option (List Value)
  | .list entries => some entries
  | _ => none

/-- The text of a scalar; the mark for malformed numbers has none. -/
def text? : Value → Option String
  | .text content => some content
  | .number (.int value) => some (toString value.toInt)
  | .bool flag => some (if flag then "true" else "false")
  | _ => none

mutual

/-- An empty value counts as absent for a required field: empty text, the mark for malformed
numbers, an empty list, and a record of empty values. -/
def isEmpty : Value → Bool
  | .text content => content.isEmpty
  | .number value => value.isNaN
  | .bool _ => false
  | .record members => allEmpty members
  | .list entries => entries.isEmpty

def allEmpty : List (String × Value) → Bool
  | [] => true
  | (_, value) :: rest => value.isEmpty && allEmpty rest

end

/-- Goes one step down. -/
def step? : Value → Segment → Option Value
  | .record members, .field name => Members.get? members name
  | .list entries, .index position => entries[position]?
  | _, _ => none

/-- The value at a path below this one. -/
def at? (value : Value) : Path → Option Value
  | [] => some value
  | segment :: rest => (value.step? segment).bind fun below => below.at? rest

mutual

/-- Whether two values are equal. The order of a record's members does not count. -/
def equals : Value → Value → Bool
  | .text content, .text other => content == other
  | .number value, .number other => value == other
  | .bool flag, .bool other => flag == other
  | .record members, .record others =>
      members.length == others.length && membersEqual members others
  | .list entries, .list others => entriesEqual entries others
  | _, _ => false

/-- Whether every member has an equal one of its name among others. -/
def membersEqual : List (String × Value) → Record → Bool
  | [], _ => true
  | (name, value) :: rest, others =>
      (Members.get? others name).any (fun held => value.equals held) && membersEqual rest others

def entriesEqual : List Value → List Value → Bool
  | [], [] => true
  | entry :: rest, other :: others => entry.equals other && entriesEqual rest others
  | _, _ => false

end

end Value

/-- The value at a path of the form; the form itself is no value. -/
def Record.at? (model : Record) : Path → Option Value
  | [] => none
  | path => (Value.record model).at? path

/-- Whether two forms are equal, where the order of members does not count. -/
def Record.equals (model other : Record) : Bool := (Value.record model).equals (.record other)

end ResourceEditor
