/-
This file holds regular expressions, how they are written and which texts they match. A pattern is
an expression for whole texts with what is said of a text that does not match; those of addresses
are given.
-/

namespace ResourceEditor

/-- A character as it is written where some characters are marks. -/
def escaped (marks : String) (c : Char) : List Char :=
  if marks.contains c then ['\\', c] else [c]

/-- A range of characters, or one character when both ends are the same. -/
structure CharRange where
  first : Char
  last : Char
deriving Repr, DecidableEq

namespace CharRange

def single (c : Char) : CharRange := ⟨c, c⟩

def holds (range : CharRange) (c : Char) : Bool :=
  range.first ≤ c && c ≤ range.last

/-- A range as written between brackets, where a hyphen is to come first. -/
def source (range : CharRange) : String :=
  if range.first = range.last then written range.first
  else written range.first ++ "-" ++ written range.last
where
  written (c : Char) : String := String.ofList (escaped "[]^\\&~" c)

end CharRange

/-- A choice of no expressions matches nothing, a sequence of none the empty text. -/
inductive Expression where
  | char (c : Char)
  | oneOf (ranges : List CharRange)
  | sequence (parts : List Expression)
  | choice (options : List Expression)
  | times (part : Expression) (least most : Nat)
  | atLeast (part : Expression) (least : Nat)
deriving Repr, Inhabited

namespace Expression

mutual

/-- Whether two expressions are made of the same parts, which decides their equality. -/
def same : Expression → Expression → Bool
  | .char c, .char other => c == other
  | .oneOf ranges, .oneOf others => ranges == others
  | .sequence parts, .sequence others => sameAll parts others
  | .choice options, .choice others => sameAll options others
  | .times part least most, .times other low high => part.same other && least == low && most == high
  | .atLeast part least, .atLeast other low => part.same other && least == low
  | _, _ => false

def sameAll : List Expression → List Expression → Bool
  | [], [] => true
  | part :: parts, other :: others => part.same other && sameAll parts others
  | _, _ => false

end

mutual

theorem same_iff (left right : Expression) : left.same right = true ↔ left = right := by
  cases left with
  | char c => cases right <;> simp [same]
  | oneOf ranges => cases right <;> simp [same]
  | sequence parts => cases right <;> simp [same, sameAll_iff parts]
  | choice options => cases right <;> simp [same, sameAll_iff options]
  | times part least most => cases right <;> simp [same, same_iff part, and_assoc]
  | atLeast part least => cases right <;> simp [same, same_iff part]

theorem sameAll_iff (left right : List Expression) : sameAll left right = true ↔ left = right := by
  cases left with
  | nil => cases right <;> simp [sameAll]
  | cons part parts => cases right <;> simp [sameAll, same_iff part, sameAll_iff parts]

end

instance : DecidableEq Expression := fun left right => decidable_of_iff _ (same_iff left right)

/-- How often a part may stand in a row, without a bound where there is no greatest number. -/
def countSource (least : Nat) : Option Nat → String
  | some most =>
      if least = most then "\x7b" ++ toString least ++ "\x7d"
      else "\x7b" ++ toString least ++ "," ++ toString most ++ "\x7d"
  | none =>
      match least with
      | 0 => "*"
      | 1 => "+"
      | _ => "\x7b" ++ toString least ++ ",\x7d"

/-- What is counted as one part. A sequence is put into a group for that. -/
def grouped (source : String) : Expression → String
  | .sequence _ => "(?:" ++ source ++ ")"
  | _ => source

mutual

/-- The written form, in which a choice is a group in parentheses. -/
def source : Expression → String
  | .char c => String.ofList (escaped "\\.+*?()|[]\x7b\x7d^$" c)
  | .oneOf ranges => "[" ++ String.join (ranges.map CharRange.source) ++ "]"
  | .sequence parts => String.join (sources parts)
  | .choice options => "(" ++ "|".intercalate (sources options) ++ ")"
  | .times part least most => part.grouped part.source ++ countSource least (some most)
  | .atLeast part least => part.grouped part.source ++ countSource least none

def sources : List Expression → List String
  | [] => []
  | part :: rest => part.source :: sources rest

end

/-- What can be left after exactly so many matches of one kind. -/
def restsTimes (rests : List Char → List (List Char)) : Nat → List Char → List (List Char)
  | 0, text => [text]
  | count + 1, text => (rests text).flatMap (restsTimes rests count)

mutual

/-- What can be left of a text after a match at its front. -/
def rests : Expression → List Char → List (List Char)
  | .char c, text =>
      match text with
      | first :: rest => if first = c then [rest] else []
      | [] => []
  | .oneOf ranges, text =>
      match text with
      | first :: rest => if ranges.any (·.holds first) then [rest] else []
      | [] => []
  | .sequence parts, text => restsInTurn parts text
  | .choice options, text => restsOfAny options text
  | .times part least most, text =>
      (List.range (most + 1 - least)).flatMap fun more => restsTimes part.rests (least + more) text
  | .atLeast part least, text =>
      -- Matches beyond the least number that leave the text as it is are not looked for.
      (List.range (text.length + 1)).flatMap fun more => restsTimes part.rests (least + more) text

def restsInTurn : List Expression → List Char → List (List Char)
  | [], text => [text]
  | part :: parts, text => (part.rests text).flatMap (restsInTurn parts)

def restsOfAny : List Expression → List Char → List (List Char)
  | [], _ => []
  | option :: options, text => option.rests text ++ restsOfAny options text

end

/-- Whether a match at the front can leave nothing of the text. -/
def isMatch (expression : Expression) (text : String) : Bool :=
  (expression.rests text.toList).any List.isEmpty

end Expression

/-- An expression for the whole of a text, and what is said of a text that does not match. -/
structure Pattern where
  expression : Expression
  message : String
deriving Repr, DecidableEq, Inhabited

namespace Pattern

open Expression

/-- The pattern as written, bound to both ends of the text. -/
def source (pattern : Pattern) : String := "^" ++ pattern.expression.source ++ "$"

def isMatch (pattern : Pattern) (text : String) : Bool := pattern.expression.isMatch text

def digits (first last : Char) : Expression := .oneOf [⟨first, last⟩]

example : source ⟨.atLeast (digits '0' '9') 1, "digits only"⟩ = "^[0-9]+$" := by cbv

/-- A number up to 255 without leading zeros. -/
def octet : Expression :=
  .choice
    [digits '0' '9',
      .sequence [digits '1' '9', digits '0' '9'],
      .sequence [.char '1', .times (digits '0' '9') 2 2],
      .sequence [.char '2', digits '0' '4', digits '0' '9'],
      .sequence [.char '2', .char '5', digits '0' '5']]

def hexPair : Expression :=
  .times (.oneOf [⟨'a', 'f'⟩, ⟨'A', 'F'⟩, ⟨'0', '9'⟩]) 2 2

def ipv4 : Pattern where
  expression := .sequence [.times (.choice [.sequence [octet, .char '.']]) 3 3, octet]
  message := "Please, enter a valid IP address."

def mac : Pattern where
  expression :=
    .sequence
      [.times (.choice [.sequence [hexPair, .oneOf [.single '-', .single ':']]]) 5 5,
        .choice [hexPair]]
  message := "Please, enter a valid MAC address."

def imsi : Pattern where
  expression := .choice [.times (digits '0' '9') 14 15]
  message := "Please, enter a valid IMSI."

end Pattern

end ResourceEditor
