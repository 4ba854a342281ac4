import ResourceEditor.Schema.Resource
/-
This file tells users about schemas: one line for each field with what is asked of it, and one line
for each resource.
-/

namespace ResourceEditor

/-- What users are told about a field. -/
structure FieldOutline where
  path : String
  title : String
  kind : String
  required : Bool
  constraints : List String
deriving Repr, DecidableEq

namespace ScalarRule

def describeRange (rule : ScalarRule) : List String :=
  match rule.minimum, rule.maximum with
  | some minimum, some maximum => [toString minimum.toInt ++ ".." ++ toString maximum.toInt]
  | some minimum, none => [">= " ++ toString minimum.toInt]
  | none, some maximum => ["<= " ++ toString maximum.toInt]
  | none, none => []

def describe (rule : ScalarRule) : List String :=
  rule.describeRange ++
    (if rule.allowed.isEmpty then [] else [String.intercalate "|" rule.allowed]) ++
    (rule.pattern.toList.map fun pattern => "pattern: " ++ pattern.message) ++
    (rule.default.toList.map fun text => "default " ++ text)

end ScalarRule

/-- Nothing more is said about a field that cannot be edited. -/
def Field.describe (field : Field) : List String :=
  if field.readOnly then ["read-only"] else (field.scalar?.map ScalarRule.describe).getD []

def Field.kindName (field : Field) : String :=
  match field.shape with
  | .scalar rule => rule.kind.name
  | .composite _ => "record"
  | .list _ dynamic => if dynamic then "list (dynamic)" else "list"

/-- The bounds on a field that are other fields. -/
def OrderRule.describe (name : String) (orders : List OrderRule) : List String :=
  (orders.filter fun order => order.lower == name).map fun order => "<= " ++ order.upper

/-- The path of a field below a record; entries of lists are not told apart. -/
def childPlace (place name : String) : String :=
  if place.isEmpty then name else place ++ "." ++ name

mutual

def Schema.outlineAt (place : String) : Schema → List FieldOutline
  | ⟨_, fields, required, orders⟩ => Schema.fieldsOutline required orders place fields

def Schema.fieldsOutline (required : List String) (orders : List OrderRule) (place : String) :
    List (String × Field) → List FieldOutline
  | [] => []
  | (name, field) :: rest =>
      field.outlineAt (childPlace place name) (required.contains name)
          (OrderRule.describe name orders) ++
        Schema.fieldsOutline required orders place rest

def Field.outlineAt (place : String) (required : Bool) (bounds : List String) :
    Field → List FieldOutline
  | ⟨title, readOnly, shape⟩ =>
      let field : Field := ⟨title, readOnly, shape⟩
      ⟨place, title, field.kindName, required, field.describe ++ bounds⟩ :: shape.outlineBelow place

/-- The lines for what a field holds. -/
def Shape.outlineBelow (place : String) : Shape → List FieldOutline
  | .scalar _ => []
  | .composite schema => schema.outlineAt place
  | .list ⟨_, _, .composite schema⟩ _ => schema.outlineAt (place ++ "[]")
  | .list item _ => item.outlineAt (place ++ "[]") false []

end

/-- One line for each field of a schema, depth first. -/
def Schema.outline (schema : Schema) : List FieldOutline := schema.outlineAt ""

end ResourceEditor
