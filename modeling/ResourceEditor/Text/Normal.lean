import ResourceEditor.Text.Normal.Class
import ResourceEditor.Text.Normal.Composite
/-
This file puts texts into the composed normal form: marks stand in the order of their places, and a
letter with a mark is one character where there is such a character. A character that stands for
one other character is left as it is.
-/

namespace ResourceEditor.Text

/-- The consonant and the vowel of a syllable of Hangul, and a last consonant unless it is the
zeroth. -/
structure Syllable where
  consonant : Nat
  vowel : Nat
  final : Nat

namespace Syllable

def ofChar? (c : Char) : Option Syllable :=
  if 0xAC00 ≤ c.toNat && c.toNat ≤ 0xD7A3 then
    let index := c.toNat - 0xAC00
    some ⟨index / 588, index % 588 / 28, index % 28⟩
  else none

def toChar (syllable : Syllable) : Char :=
  Char.ofNat (0xAC00 + 588 * syllable.consonant + 28 * syllable.vowel + syllable.final)

def letters (syllable : Syllable) : List Char :=
  Char.ofNat (0x1100 + syllable.consonant) :: Char.ofNat (0x1161 + syllable.vowel) ::
    if syllable.final = 0 then [] else [Char.ofNat (0x11A7 + syllable.final)]

/-- The syllable that two letters, or a syllable and a last letter, make up. -/
def join? (first second : Char) : Option Syllable :=
  if 0x1100 ≤ first.toNat && first.toNat ≤ 0x1112 && 0x1161 ≤ second.toNat &&
      second.toNat ≤ 0x1175 then
    some ⟨first.toNat - 0x1100, second.toNat - 0x1161, 0⟩
  else
    match ofChar? first with
    | some ⟨consonant, vowel, 0⟩ =>
        if 0x11A8 ≤ second.toNat && second.toNat ≤ 0x11C2 then
          some ⟨consonant, vowel, second.toNat - 0x11A7⟩
        else none
    | _ => none

end Syllable

/-- The character that stands for two others. -/
def join? (first second : Char) : Option Char :=
  match Syllable.join? first second with
  | some syllable => some syllable.toChar
  | none =>
      (composites.find? fun composite =>
        composite.first == first.toNat && composite.second == second.toNat).map fun composite =>
          Char.ofNat composite.whole

/-- Undoes as many compositions as are told, the last one first. -/
def takeApart : Nat → Char → List Char
  | 0, c => [c]
  | depth + 1, c =>
      match composites.find? fun composite => composite.whole == c.toNat with
      | some composite =>
          takeApart depth (Char.ofNat composite.first) ++ [Char.ofNat composite.second]
      | none => [c]

/-- A character without compositions. A letter has three marks at most. -/
def decomposeChar (c : Char) : List Char :=
  match Syllable.ofChar? c with
  | some syllable => syllable.letters
  | none => takeApart 3 c

/-- Puts a character before a text in order. It goes behind marks of lower places. -/
def insertMark (c : Char) : List Char → List Char
  | [] => [c]
  | d :: rest =>
      if 0 < combiningClass d && combiningClass d < combiningClass c then d :: insertMark c rest
      else c :: d :: rest

/-- The characters without compositions, the marks in the order of their places. -/
def decompose (text : List Char) : List Char :=
  (text.flatMap decomposeChar).foldr insertMark []

/-- Composes a letter with the characters after it. The marks between the two, which did not
compose, are given last first; one at the same place or a later one keeps the letter apart. -/
def composeFrom (letter : Char) : List Char → List Char → List Char
  | passed, [] => letter :: passed.reverse
  | passed, c :: rest =>
      let isApart := passed.head?.any fun mark => combiningClass c ≤ combiningClass mark
      match if isApart then none else join? letter c with
      | some whole => composeFrom whole passed rest
      | none =>
          if combiningClass c = 0 then letter :: passed.reverse ++ composeFrom c [] rest
          else composeFrom letter (c :: passed) rest

/-- The text in the composed normal form. -/
def normalize (text : List Char) : List Char :=
  match decompose text with
  | [] => []
  | c :: rest => composeFrom c [] rest

end ResourceEditor.Text
