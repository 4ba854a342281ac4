import ResourceEditor.Text.Width.Following
/-
This file tells how many columns a text takes where every letter takes one. A character can take
less room, or more, for what follows it.
-/

namespace ResourceEditor

namespace Text

/-- The columns for a character by itself. Controls take one. -/
def charWidth (c : Char) : Int :=
  if c.toNat ≤ 0xA0 then 1
  else if c.toNat == 0x17D8 then 3
  else if isWeightless c then 0
  else if wideRanges.has c then 2
  else 1

/-- The columns for a character that the selector after it bears on. -/
def selected? (c : Char) (next : Following) : Option (Int × Following) :=
  match next.selector with
  | some .picture =>
      if isSelectable c then some (if next.start.isLink then 0 else 2, .plain .picture) else none
  | some .letter => if isReadable c then some (1, .plain .other) else none
  | some .wide => if isQuote c then some (2, .plain .other) else none
  | none => none

/-- The columns for a character before what follows it, and what it is to the one before it. -/
def widthBefore (c : Char) (next : Following) : Int × Following :=
  match selected? c next with
  | some answer => answer
  | none =>
      if c.toNat ≤ 0xA0 then (1, .plain .other)
      else
        match Selector.ofChar? c with
        | some selector => (0, ⟨next.start.behind selector, some selector⟩)
        | none =>
            match next.start.before? c with
            | some (width, start) => (width, .plain start)
            | none => (charWidth c, .plain (Start.ofChar c))

/-- The columns for a text, and what its first character is to one before it. -/
def widthAndStart : List Char → Int × Following
  | [] => (0, .plain .other)
  | c :: rest =>
      let (after, next) := widthAndStart rest
      let (width, start) := widthBefore c next
      (width + after, start)

/-- The columns for a text of one line. -/
def width (text : List Char) : Nat := (widthAndStart text).1.toNat

end Text

end ResourceEditor
