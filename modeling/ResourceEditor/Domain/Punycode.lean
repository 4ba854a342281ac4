/-
This file writes the labels of domain names in ASCII and reads them: the ASCII characters of a label
come first, then digits that tell where its other characters go.
-/

namespace ResourceEditor.Punycode

def digitChar (digit : Nat) : Char :=
  if digit < 26 then Char.ofNat ('a'.toNat + digit) else Char.ofNat ('0'.toNat + digit - 26)

/-- The digit value from which on a number ends, at a position of the number. -/
def threshold (position bias : Nat) : Nat := min 26 (max 1 (position - bias))

/-- Divides a distance until it is small and counts 36 for each division. -/
def shrink (distance count : Nat) : Nat × Nat :=
  if 455 < distance then shrink (distance / 35) (count + 36) else (distance, count)
termination_by distance
decreasing_by omega

/-- How numbers are expected to look after one of them. -/
def adapt (distance points : Nat) (first : Bool) : Nat :=
  let halved := if first then distance / 700 else distance / 2
  let (small, count) := shrink (halved + halved / points) 0
  count + 36 * small / (small + 38)

/-- A number in digits of growing weight. -/
def digits (bias position number : Nat) : List Char :=
  let limit := threshold position bias
  if number < limit then [digitChar number]
  else
    digitChar (limit + (number - limit) % (36 - limit)) ::
      digits bias (position + 36) ((number - limit) / (36 - limit))
termination_by number
decreasing_by
  have positive : 1 ≤ threshold position bias := by unfold threshold; omega
  have smaller := Nat.div_le_self (number - threshold position bias)
    (36 - threshold position bias)
  omega

structure State where
  output : List Char
  distance : Nat
  bias : Nat
  handled : Nat

/-- Passes one character while the characters of one code point are written. -/
def State.pass (basic code : Nat) (state : State) (c : Char) : State :=
  if c.toNat < code then { state with distance := state.distance + 1 }
  else if c.toNat = code then
    { output := state.output ++ digits state.bias 36 state.distance
      distance := 0
      bias := adapt state.distance (state.handled + 1) (state.handled == basic)
      handled := state.handled + 1 }
  else state

/-- Writes the characters of the code points, which come in rising order. -/
def insert (label : List Char) (basic : Nat) : List Nat → Nat → State → State
  | [], _, state => state
  | code :: rest, next, state =>
      let moved := { state with
        distance := state.distance + (code - next) * (state.handled + 1) }
      let passed := label.foldl (State.pass basic code) moved
      insert label basic rest (code + 1) { passed with distance := passed.distance + 1 }

def encode (label : List Char) : List Char :=
  let basic := label.filter fun c => c.toNat < 128
  let others := ((label.filter fun c => 128 ≤ c.toNat).map Char.toNat).mergeSort.eraseDups
  let start := if basic.isEmpty then [] else basic ++ ['-']
  (insert label basic.length others 128 ⟨start, 0, 72, basic.length⟩).output

/-- Writes a label of a length that can be handled. -/
def encode? (label : List Char) : Option (List Char) :=
  if label.length ≤ 1000 then some (encode label) else none

def digitValue? (c : Char) : Option Nat :=
  if 'a' ≤ c && c ≤ 'z' then some (c.toNat - 'a'.toNat)
  else if 'A' ≤ c && c ≤ 'Z' then some (c.toNat - 'A'.toNat)
  else if '0' ≤ c && c ≤ '9' then some (c.toNat - '0'.toNat + 26)
  else none

/-- Numbers and the weights of their digits stay below this. -/
def numberLimit : Nat := 0x100000000

/-- Adds a number in digits to a distance and gives the text after it. -/
def readNumber (bias : Nat) : (text : List Char) → (position weight distance : Nat) →
    Option (Nat × { rest : List Char // rest.length < text.length })
  | [], _, _, _ => none
  | c :: rest, position, weight, distance =>
      match digitValue? c with
      | none => none
      | some digit =>
          let limit := threshold position bias
          let sum := distance + digit * weight
          if numberLimit ≤ sum then none
          else if digit < limit then some (sum, ⟨rest, by simp⟩)
          else if numberLimit ≤ weight * (36 - limit) then none
          else
            (readNumber bias rest (position + 36) (weight * (36 - limit)) sum).map
              fun (total, left) => (total, ⟨left.val, by have := left.property; simp; omega⟩)

/-- Puts the characters that the text tells into a label. A place is counted from the one after the
last character put in, with one round through the label for each code point. -/
def readPlaces (label : List Char) (bias code place : Nat) (text : List Char) :
    Option (List Char) :=
  if text.isEmpty then some label
  else
    match readNumber bias text 36 1 place with
    | none => none
    | some (distance, rest) =>
        let places := label.length + 1
        let next := code + distance / places
        if next.isValidChar then
          readPlaces (label.insertIdx (distance % places) (Char.ofNat next))
            (adapt (distance - place) places (place == 0)) next (distance % places + 1) rest.val
        else none
termination_by text.length
decreasing_by exact rest.property

/-- Reads a label in ASCII. What stands before the last hyphen is taken over; a hyphen at the start
is no digit. -/
def decode? (text : List Char) : Option (List Char) :=
  if text.all (·.toNat < 128) && text.length ≤ 2000 then
    match text.reverse.span (· != '-') with
    | (digits, '-' :: c :: basic) => readPlaces (c :: basic).reverse 72 128 0 digits.reverse
    | _ => readPlaces [] 72 128 0 text
  else none

end ResourceEditor.Punycode
