import ResourceEditor.Members
import ResourceEditor.Path.Basic
import ResourceEditor.Pattern.Basic
/-
This file holds schemas: the fields of a resource, their shapes and their constraints.
-/

namespace ResourceEditor

inductive ScalarKind where
  | string
  | number
  | enum
deriving Repr, DecidableEq, Inhabited

def ScalarKind.name : ScalarKind → String
  | .string => "string"
  | .number => "number"
  | .enum => "enum"

/-- The kind of a scalar field and what is asked of its values. -/
structure ScalarRule where
  kind : ScalarKind
  minimum : Option Int64 := none
  maximum : Option Int64 := none
  pattern : Option Pattern := none
  allowed : List String := []
  default : Option String := none
deriving Repr, DecidableEq, Inhabited

/-- The first of two fields of a record must not be above the second. -/
structure OrderRule where
  lower : String
  upper : String
deriving Repr, DecidableEq

mutual

structure Schema where
  title : String
  fields : List (String × Field)
  required : List String
  orders : List OrderRule

structure Field where
  title : String
  readOnly : Bool
  shape : Shape

/-- A dynamic list is never without an entry. -/
inductive Shape where
  | scalar (rule : ScalarRule)
  | composite (schema : Schema)
  | list (item : Field) (dynamic : Bool)

end

instance : Inhabited Schema := ⟨⟨"", [], [], []⟩⟩

instance : Inhabited Shape := ⟨.scalar default⟩

instance : Inhabited Field := ⟨⟨"", false, default⟩⟩

namespace Schema

def empty (title : String) : Schema := ⟨title, [], [], []⟩

/-- Adds an optional field, or gives a field of that name a new description. -/
def withField (schema : Schema) (name : String) (field : Field) : Schema :=
  { schema with fields := Members.set schema.fields name field }

/-- Adds a field that must not be empty. -/
def withRequired (schema : Schema) (name : String) (field : Field) : Schema :=
  let schema := schema.withField name field
  if schema.required.contains name then schema
  else { schema with required := schema.required ++ [name] }

def withOrder (schema : Schema) (lower upper : String) : Schema :=
  { schema with orders := schema.orders ++ [⟨lower, upper⟩] }

def field? (schema : Schema) (name : String) : Option Field :=
  Members.get? schema.fields name

def isRequired (schema : Schema) (name : String) : Bool := schema.required.contains name

end Schema

namespace Field

def scalar (title : String) (kind : ScalarKind) : Field := ⟨title, false, .scalar { kind }⟩

def string (title : String) : Field := scalar title .string

def number (title : String) : Field := scalar title .number

def oneOf (title : String) (allowed : List String) : Field :=
  ⟨title, false, .scalar { kind := .enum, allowed }⟩

def composite (title : String) (schema : Schema) : Field := ⟨title, false, .composite schema⟩

def list (title : String) (item : Field) : Field := ⟨title, false, .list item false⟩

def dynamicList (title : String) (item : Field) : Field := ⟨title, false, .list item true⟩

/-- Changes the constraints of a scalar field and leaves other fields alone. -/
def adjust (field : Field) (change : ScalarRule → ScalarRule) : Field :=
  match field.shape with
  | .scalar rule => { field with shape := .scalar (change rule) }
  | _ => field

def withRange (field : Field) (minimum maximum : Int64) : Field :=
  field.adjust fun rule => { rule with minimum := some minimum, maximum := some maximum }

def withPattern (field : Field) (pattern : Pattern) : Field :=
  field.adjust fun rule => { rule with pattern := some pattern }

def withDefault (field : Field) (value : String) : Field :=
  field.adjust fun rule => { rule with default := some value }

def asReadOnly (field : Field) : Field := { field with readOnly := true }

def scalar? (field : Field) : Option ScalarRule :=
  match field.shape with
  | .scalar rule => some rule
  | _ => none

def nested? (field : Field) : Option Schema :=
  match field.shape with
  | .composite schema => some schema
  | _ => none

def item? (field : Field) : Option Field :=
  match field.shape with
  | .list item _ => some item
  | _ => none

def isDynamicList (field : Field) : Bool :=
  match field.shape with
  | .list _ dynamic => dynamic
  | _ => false

end Field

mutual

/-- How many records lie inside one another below the schema. A list adds no level. -/
def Schema.depth : Schema → Nat
  | ⟨_, fields, _, _⟩ => Schema.fieldsDepth fields

def Schema.fieldsDepth : List (String × Field) → Nat
  | [] => 0
  | (_, field) :: rest => max field.depth (Schema.fieldsDepth rest)

def Field.depth : Field → Nat
  | ⟨_, _, shape⟩ => shape.depth

def Shape.depth : Shape → Nat
  | .scalar _ => 0
  | .composite schema => 1 + schema.depth
  | .list item _ => item.depth

end

/-- The paths of the dynamic lists among the fields. -/
def Schema.dynamicLists (schema : Schema) : List Path :=
  (schema.fields.filter fun pair => pair.2.isDynamicList).map fun pair => [.field pair.1]

end ResourceEditor
