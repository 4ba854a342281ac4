import ResourceEditor.Schema.Basic
import ResourceEditor.Value.Basic
/-
This file builds the values that a form starts from. They come in two kinds: blank values, where
numbers are left out, and templates, where numbers are zero.
-/

namespace ResourceEditor

inductive Start where
  | blank
  | template
deriving Repr, DecidableEq

/-- A blank number is absent; a text starts empty or with its default. -/
def ScalarRule.startValue (rule : ScalarRule) (start : Start) : Option Value :=
  match rule.kind, start with
  | .number, .blank => none
  | .number, .template => some (.int 0)
  | _, _ => some (.text (rule.default.getD ""))

/-- A scalar as a list entry, where a number is zero. -/
def ScalarRule.startEntry (rule : ScalarRule) : Value :=
  (rule.startValue .template).getD (.text "")

mutual

/-- A record with a start value for every field that has one and can be edited. -/
def Schema.startRecord (start : Start) : Schema → Record
  | ⟨_, fields, _, _⟩ => Schema.startMembers start fields

def Schema.startMembers (start : Start) : List (String × Field) → Record
  | [] => []
  | (name, field) :: rest =>
      if field.readOnly then Schema.startMembers start rest
      else
        match Field.startValue start field with
        | some value => (name, value) :: Schema.startMembers start rest
        | none => Schema.startMembers start rest

/-- The value that a fresh record holds for a field. Composites have none. -/
def Field.startValue (start : Start) : Field → Option Value
  | ⟨_, _, shape⟩ => Shape.startValue start shape

def Shape.startValue (start : Start) : Shape → Option Value
  | .scalar rule => rule.startValue start
  | .composite _ => none
  | .list item dynamic =>
      some (.list (if dynamic then [Field.startEntry .template item] else []))

/-- A fresh list entry for a field that describes list entries. -/
def Field.startEntry (start : Start) : Field → Value
  | ⟨_, _, shape⟩ => Shape.startEntry start shape

def Shape.startEntry (start : Start) : Shape → Value
  | .scalar rule => rule.startEntry
  | .composite schema => .record (Schema.startRecord start schema)
  | .list item dynamic => .list (if dynamic then [Field.startEntry .template item] else [])

end

namespace Schema

/-- What a new form starts with. -/
def blankRecord (schema : Schema) : Record := schema.startRecord .blank

def templateRecord (schema : Schema) : Record := schema.startRecord .template

end Schema

namespace Field

def blankValue (field : Field) : Option Value := field.startValue .blank

/-- What stands at a place that the form does not have yet. -/
def blankEntry (field : Field) : Value := field.startEntry .blank

/-- What a dynamic list starts with and grows by. -/
def templateEntry (field : Field) : Value := field.startEntry .template

/-- What a list field grows by: a dynamic list by a template, another by a blank entry. -/
def nextEntry? (field : Field) : Option Value :=
  match field.shape with
  | .list item true => some item.templateEntry
  | .list item false => some item.blankEntry
  | _ => none

end Field

end ResourceEditor
