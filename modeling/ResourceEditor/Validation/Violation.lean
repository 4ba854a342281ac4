import ResourceEditor.Path.Basic
import ResourceEditor.Pattern.Basic
/-
This file holds the violations that validation reports.
-/

namespace ResourceEditor

/-- The constraint that a value fails, with the titles that its message speaks of. -/
inductive Cause where
  | required (title : String)
  | notANumber (title : String)
  | outOfRange (title : String) (minimum maximum : Option Int64)
  | above (lower upper : String)
  | pattern (rule : Pattern)
  | notAllowed (title : String) (allowed : List String)
  | notSingle (title : String)
  | notObject (title : String)
  | notList (title : String)
deriving Repr, DecidableEq

namespace Cause

def rangeMessage (title : String) : Option Int64 → Option Int64 → String
  | some minimum, some maximum =>
      title ++ " must be in [" ++ toString minimum.toInt ++ ".." ++ toString maximum.toInt ++ "]"
  | some minimum, none => title ++ " must be at least " ++ toString minimum.toInt
  | none, some maximum => title ++ " must be at most " ++ toString maximum.toInt
  | none, none => title ++ " is out of range"

def message : Cause → String
  | .required title => title ++ " is required"
  | .notANumber title => title ++ " must be a number"
  | .outOfRange title minimum maximum => rangeMessage title minimum maximum
  | .above lower upper => lower ++ " must be <= " ++ upper
  | .pattern rule => rule.message
  | .notAllowed title allowed =>
      title ++ " must be one of [" ++ String.intercalate ", " allowed ++ "]"
  | .notSingle title => title ++ " must be a single value"
  | .notObject title => title ++ " must be an object"
  | .notList title => title ++ " must be a list"

/-- The name of the constraint's kind in reports. -/
def kindName : Cause → String
  | .required _ => "required"
  | .notANumber _ => "not_a_number"
  | .outOfRange _ _ _ => "out_of_range"
  | .above _ _ => "out_of_range"
  | .pattern _ => "pattern"
  | .notAllowed _ _ => "not_allowed"
  | .notSingle _ => "wrong_type"
  | .notObject _ => "wrong_type"
  | .notList _ => "wrong_type"

end Cause

/-- A failed constraint and the place of the value that fails it. -/
structure Violation where
  path : Path
  cause : Cause
deriving Repr, DecidableEq

namespace Violation

def render (violation : Violation) : String :=
  violation.path.render ++ ": " ++ violation.cause.message

/-- One line for each violation. -/
def renderAll (violations : List Violation) : String :=
  String.intercalate "\n" (violations.map render)

/-- The violations of the value at exactly this path. -/
def allAt (violations : List Violation) (path : Path) : List Violation :=
  violations.filter fun violation => violation.path = path

end Violation

end ResourceEditor
