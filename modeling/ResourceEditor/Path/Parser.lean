import ResourceEditor.Decimal.Numeral
import ResourceEditor.Path.Basic
import ResourceEditor.Text.Blank
/-
This file reads paths: one or more parts joined by points, where a part is a name and any number of
positions in brackets.
-/

namespace ResourceEditor

open Decimal Text

/-- Why a text or a list of segments is no path to a value. -/
inductive PathFault where
  | empty
  | emptyName
  | badName
  | unclosed
  | badPosition
  | textAfterPosition
  | startsWithPosition
deriving Repr, DecidableEq

def PathFault.reason : PathFault → String
  | .empty => "path is empty"
  | .emptyName => "empty field name"
  | .badName => "field names may only contain letters, digits, '_' and '-'"
  | .unclosed => "unclosed '['"
  | .badPosition => "list index must be a non-negative integer"
  | .textAfterPosition => "unexpected text after ']'"
  | .startsWithPosition => "path must start with a field name"

namespace Path

def isNameChar (c : Char) : Bool :=
  c.isAlphanum || c == '_' || c == '-'

/-- The greatest position that a path can name. -/
def positionLimit : Nat := wordLimit - 1

theorem length_dropWhile_le (p : Char → Bool) (text : List Char) :
    (text.dropWhile p).length ≤ text.length := by
  induction text with
  | nil => simp
  | cons c rest ih =>
      by_cases holds : p c = true
      · simp only [List.dropWhile_cons, holds, if_true, List.length_cons]
        omega
      · simp [holds]

/-- Reads the positions after a name, each in brackets. -/
def readPositions : List Char → Except PathFault (List Segment)
  | [] => .ok []
  | c :: rest =>
      if c != '[' then .error .textAfterPosition
      else
        match _found : rest.dropWhile (· != ']') with
        | [] => .error .unclosed
        | _ :: after =>
            match readNatUpTo positionLimit (rest.takeWhile (· != ']')) with
            | none => .error .badPosition
            | some position => (readPositions after).map (.index position :: ·)
termination_by text => text.length
decreasing_by
  have shorter := length_dropWhile_le (· != ']') rest
  rw [_found] at shorter
  simp only [List.length_cons] at shorter ⊢
  omega

def readPart (part : List Char) : Except PathFault (List Segment) :=
  let name := part.takeWhile (· != '[')
  if name.isEmpty then .error .emptyName
  else if !name.all isNameChar then .error .badName
  else (readPositions (part.dropWhile (· != '['))).map (.field (String.ofList name) :: ·)

def readParts : List (List Char) → Except PathFault Path
  | [] => .ok []
  | part :: parts => do
      let first ← readPart part
      let rest ← readParts parts
      return first ++ rest

def parse (text : String) : Except PathFault Path :=
  if isBlankText text then .error .empty else readParts (splitAll '.' text.toList)

end Path

end ResourceEditor
