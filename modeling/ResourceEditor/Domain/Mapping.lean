import ResourceEditor.Domain.Replacement
import ResourceEditor.Text.Blank
import ResourceEditor.Text.Graphic
import ResourceEditor.Text.Lowercase
import ResourceEditor.Text.Normal
/-
This file brings domain names that mean the same to one spelling: lower case, plain letters for
letters in other shapes, and the composed normal form.
-/

namespace ResourceEditor.Domain

/-- Characters that are left out. -/
def ignoredRanges : Text.Ranges :=
  [
    (0xAD, 0xAD), (0x34F, 0x34F), (0x115F, 0x1160), (0x17B4, 0x17B5), (0x180B, 0x180F),
    (0x200B, 0x200B), (0x2060, 0x2064), (0x206A, 0x206F), (0x3164, 0x3164), (0xFE00, 0xFE0F),
    (0xFEFF, 0xFEFF), (0xFFA0, 0xFFA0), (0x1BCA0, 0x1BCA3), (0x1D173, 0x1D17A), (0xE0100, 0xE01EF)
  ]

/-- Characters that can be seen and still cannot stand in a name: some for several points or a
point after a number, and some that describe other characters. -/
def refusedRanges : Text.Ranges :=
  [
    (0x2024, 0x2026), (0x2488, 0x249B), (0x2FF0, 0x2FFF), (0x31EF, 0x31EF), (0x33C2, 0x33C2),
    (0x33C7, 0x33C7), (0x33D8, 0x33D8), (0xFE12, 0xFE12), (0xFE19, 0xFE19), (0xFE30, 0xFE30),
    (0xFE52, 0xFE52), (0xFFFC, 0xFFFD), (0x1F100, 0x1F100)
  ]

/-- The capital letters of Cherokee, which are kept instead of the small ones. -/
def isKeptCapital (c : Char) : Bool := Text.Ranges.has [(0x13A0, 0x13F5)] c

/-- The characters of ASCII, the two joiners, and most of what can be seen. -/
def isAllowed (c : Char) : Bool :=
  c.toNat < 128 || c == '\u200C' || c == '\u200D' || (Text.isGraphic c && !refusedRanges.has c)

def replacement? (c : Char) : Option (List Char) :=
  match (replacementRuns.takeWhile fun run => run.first ≤ c.toNat).getLast? with
  | some run => (Text.splitAll '|' run.texts.toList)[c.toNat - run.first]?
  | none => none

/-- What stands for a character, unless it cannot stand in a name. A wide letter stands for a letter
of ASCII. -/
def mapChar? (c : Char) : Option (List Char) :=
  match replacement? c with
  | some text => some text
  | none =>
      if ignoredRanges.has c then some []
      else if 0xFF01 ≤ c.toNat && c.toNat ≤ 0xFF5E then
        some (Text.lowerChar (Char.ofNat (c.toNat - 0xFEE0)))
      else if isKeptCapital c then some [c]
      else if isAllowed c then some (Text.lowerChar c)
      else none

/-- The one spelling of a name. -/
def map? (text : List Char) : Option (List Char) :=
  (text.mapM mapChar?).map fun texts => Text.normalize texts.flatten

end ResourceEditor.Domain
