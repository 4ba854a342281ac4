import ResourceEditor.Wire.Fault
/-
This file fits forms to wire layouts. A layout says which members the controller takes and of what
kind they are; unknown members are dropped and missing ones are filled in where there is a default.
-/

namespace ResourceEditor

/-- What stands for a member that a form does not have. -/
inductive Presence where
  | required
  | optional
  | default (value : Value)
deriving Repr

mutual

/-- What the controller takes at one place. -/
inductive Layout where
  | text
  | unsigned (bits : Nat)
  | choice (choices : List String)
  | list (item : Layout)
  | record (layout : RecordLayout)

structure RecordLayout where
  name : String
  fields : List WireField

structure WireField where
  name : String
  presence : Presence
  layout : Layout

end

namespace Layout

def fitText : Value → Except WireFault Value
  | .text content => .ok (.text content)
  | other => .error (.wrongKind other .text)

def fitUnsigned (bits : Nat) : Value → Except WireFault Value
  | .number (.int value) =>
      if 0 ≤ value.toInt ∧ value.toInt < Nat.pow 2 bits then .ok (.int value)
      else .error (.outOfRange value bits)
  | other => .error (.wrongKind other (.unsigned bits))

def pick (choices : List String) (text : String) : Except WireFault Value :=
  if choices.contains text then .ok (.text text) else .error (.unknownChoice text choices)

/-- A choice is a text, or a record of one member that bears its name and holds nothing. -/
def fitChoice (choices : List String) : Value → Except WireFault Value
  | .text content => pick choices content
  | .record [(name, content)] => do
      let chosen ← pick choices name
      if content.isNaN then .ok chosen else .error (.wrongKind content .unit)
  | .record _ => .error .severalChoices
  | other => .error (.wrongKind other .choice)

/-- Fits members one by one and keeps those that the layout knows. -/
def fitMembers (fit : String → Value → Except WireFault (Option Value)) :
    Record → Except WireFault Record
  | [] => .ok []
  | (name, value) :: rest => do
      let fitted ← fit name value
      let others ← fitMembers fit rest
      return match fitted with
        | some kept => (name, kept) :: others
        | none => others

/-- The members in the order of the layout, with what stands for the missing ones. -/
def fill (found : Record) : List WireField → Except WireFault Record
  | [] => .ok []
  | ⟨name, presence, _⟩ :: rest =>
      match Members.get? found name, presence with
      | some value, _ => (fill found rest).map ((name, value) :: ·)
      | none, .required => .error (.missing name)
      | none, .optional => fill found rest
      | none, .default value => (fill found rest).map ((name, value) :: ·)

end Layout

mutual

def Layout.fit : Layout → Value → Except WireFault Value
  | .text, value => Layout.fitText value
  | .unsigned bits, value => Layout.fitUnsigned bits value
  | .choice choices, value => Layout.fitChoice choices value
  | .list item, value =>
      match value with
      | .list entries => (entries.mapM item.fit).map .list
      | other => .error (.wrongKind other .sequence)
  | .record layout, value =>
      match value with
      | .record members => (layout.fit members).map .record
      | .list entries => (layout.fitEntries entries).map .record
      | other => .error (.wrongKind other (.record layout.name))

/-- Fits a record by the names of its members. -/
def RecordLayout.fit : RecordLayout → Record → Except WireFault Record
  | ⟨_, fields⟩, members => do
      let found ← Layout.fitMembers
        (fun name value => RecordLayout.fitNamed fields name value) members
      Layout.fill found fields

/-- Fits a member that has a field of its name. -/
def RecordLayout.fitNamed : List WireField → String → Value → Except WireFault (Option Value)
  | [], _, _ => .ok none
  | field :: rest, name, value =>
      if field.name = name then field.fit value else RecordLayout.fitNamed rest name value

/-- Fits a record whose members come without names, in the order of the layout. -/
def RecordLayout.fitEntries : RecordLayout → List Value → Except WireFault Record
  | ⟨name, fields⟩, entries =>
      RecordLayout.fitInOrder name fields.length entries.length fields entries

def RecordLayout.fitInOrder (record : String) (fieldCount entryCount : Nat) :
    List WireField → List Value → Except WireFault Record
  | [], [] => .ok []
  | [], _ :: _ => .error (.tooLong entryCount)
  | field :: rest, [] =>
      match field.presence with
      | .required => .error (.tooShort (fieldCount - (rest.length + 1)) record fieldCount)
      | .optional => RecordLayout.fitInOrder record fieldCount entryCount rest []
      | .default value =>
          (RecordLayout.fitInOrder record fieldCount entryCount rest []).map
            ((field.name, value) :: ·)
  | field :: rest, entry :: entries => do
      let fitted ← field.fit entry
      let others ← RecordLayout.fitInOrder record fieldCount entryCount rest entries
      return match fitted with
        | some kept => (field.name, kept) :: others
        | none => others

/-- Fits a value to a field. An optional field may be given the mark of a missing value. -/
def WireField.fit : WireField → Value → Except WireFault (Option Value)
  | ⟨_, presence, layout⟩, value =>
      match presence with
      | .optional => if value.isNaN then .ok none else (layout.fit value).map some
      | _ => (layout.fit value).map some

end

end ResourceEditor
