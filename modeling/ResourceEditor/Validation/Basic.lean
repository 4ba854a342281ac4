import ResourceEditor.Schema.Basic
import ResourceEditor.Validation.Violation
import ResourceEditor.Value.Basic
/-
This file checks forms against their schema and reports every violation, in the order of the schema.
Optional parts that were never filled in have no violations.
-/

namespace ResourceEditor

namespace Value

/-- The integer that a value stands for. -/
def integer? : Value → Option Int64
  | .number value => value.int?
  | .text raw => (Number.coerce raw).int?
  | _ => none

/-- Nothing is said about an empty value, unless it comes from malformed input. -/
def isUnfilled (value : Value) : Bool := value.isEmpty && !value.isNaN

end Value

namespace ScalarRule

def isBelow (rule : ScalarRule) (value : Int64) : Bool := rule.minimum.any (value < ·)

def isAbove (rule : ScalarRule) (value : Int64) : Bool := rule.maximum.any (· < value)

def numberCauses (rule : ScalarRule) (title : String) (value : Value) : List Cause :=
  match value.integer? with
  | none => [.notANumber title]
  | some value =>
      if rule.isBelow value || rule.isAbove value then
        [.outOfRange title rule.minimum rule.maximum]
      else []

def textCauses (rule : ScalarRule) (title text : String) : List Cause :=
  (match rule.pattern with
  | some pattern => if pattern.isMatch text then [] else [.pattern pattern]
  | none => []) ++
    (if rule.allowed.isEmpty || rule.allowed.contains text then []
    else [.notAllowed title rule.allowed])

def causes (rule : ScalarRule) (title : String) (value : Value) : List Cause :=
  if !value.isScalar then [.notSingle title]
  else
    match rule.kind with
    | .number => rule.numberCauses title value
    | _ =>
        match value.text? with
        | some text => rule.textCauses title text
        | none => []

def violations (rule : ScalarRule) (title : String) (path : Path) (value : Value) :
    List Violation :=
  (rule.causes title value).map fun cause => ⟨path, cause⟩

end ScalarRule

/-- The title of a field, or its name where the schema has none. -/
def titleOf (fields : List (String × Field)) (name : String) : String :=
  match Members.get? fields name with
  | some field => field.title
  | none => name

/-- Says nothing unless both fields hold numbers. -/
def OrderRule.violations (rule : OrderRule) (fields : List (String × Field)) (path : Path)
    (model : Record) : List Violation :=
  match (Members.get? model rule.lower).bind Value.integer?,
    (Members.get? model rule.upper).bind Value.integer? with
  | some low, some high =>
      if high < low then
        [⟨path.child rule.lower, .above (titleOf fields rule.lower) (titleOf fields rule.upper)⟩]
      else []
  | _, _ => []

mutual

/-- The violations of a record that is at a path. -/
def Schema.violations : Schema → Path → Record → List Violation
  | ⟨_, fields, required, orders⟩, path, model =>
      Schema.memberViolations required fields path model ++
        orders.flatMap fun rule => rule.violations fields path model

def Schema.memberViolations (required : List String) :
    List (String × Field) → Path → Record → List Violation
  | [], _, _ => []
  | (name, field) :: rest, path, model =>
      field.violations (required.contains name) (path.child name) (Members.get? model name) ++
        Schema.memberViolations required rest path model

/-- The violations of what a record holds for a field. -/
def Field.violations : Field → Bool → Path → Option Value → List Violation
  | ⟨title, readOnly, shape⟩, required, path, held =>
      if readOnly then []
      else
        match held with
        | none => if required then [⟨path, .required title⟩] else []
        | some value =>
            if value.isEmpty && required then [⟨path, .required title⟩]
            else if value.isUnfilled then []
            else shape.violations title path value

/-- The violations of a list entry. A record stands at its position even when it is blank. -/
def Field.entryViolations : Field → Path → Value → List Violation
  | ⟨title, _, shape⟩, path, value => shape.entryViolations title path value

/-- The violations of a value that is filled in. -/
def Shape.violations : Shape → String → Path → Value → List Violation
  | .scalar rule, title, path, value => rule.violations title path value
  | .composite schema, title, path, value =>
      match value with
      | .record members =>
          if Value.allEmpty members then [] else schema.violations path members
      | _ => [⟨path, .notObject title⟩]
  | .list item _, title, path, value =>
      match value with
      | .list entries =>
          entries.zipIdx.flatMap fun (entry, position) =>
            item.entryViolations (path.entry position) entry
      | _ => [⟨path, .notList title⟩]

def Shape.entryViolations : Shape → String → Path → Value → List Violation
  | .scalar rule, title, path, value =>
      if value.isUnfilled then [] else rule.violations title path value
  | .composite schema, title, path, value =>
      match value with
      | .record members => schema.violations path members
      | _ => [⟨path, .notObject title⟩]
  | .list item _, title, path, value =>
      match value with
      | .list entries =>
          entries.zipIdx.flatMap fun (entry, position) =>
            item.entryViolations (path.entry position) entry
      | _ => [⟨path, .notList title⟩]

end

/-- Everything that is wrong with a form. -/
def Record.violations (schema : Schema) (model : Record) : List Violation :=
  schema.violations [] model

def Record.isValid (schema : Schema) (model : Record) : Bool :=
  (model.violations schema).isEmpty

end ResourceEditor
