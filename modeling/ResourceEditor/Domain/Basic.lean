import ResourceEditor.Domain.Direction
import ResourceEditor.Domain.Joining
import ResourceEditor.Domain.Mapping
import ResourceEditor.Domain.Punycode
/-
This file reads domain names in all scripts and writes them in ASCII. A label with other characters
than those of ASCII has a second form in ASCII, which starts with a mark of its own.
-/

namespace ResourceEditor.Domain

def isAscii (text : List Char) : Bool := text.all fun c => c.toNat < 128

/-- The start of an encoded label. -/
def encodedMark : List Char := ['x', 'n', '-', '-']

/-- A label as it is shown and as it is looked up. -/
structure Label where
  shown : List Char
  ascii : List Char
deriving Repr, DecidableEq

/-- Whether a label in the one spelling can stand in a name: no mark comes first, and joiners stand
where they can be seen. -/
def isWellFormed (label : List Char) : Bool :=
  !(label.head?.any Text.isMark) && areJoinersPlaced [] label

/-- Reads the text after the mark of an encoded label. It must encode a label that could not have
been written otherwise. -/
def decodeLabel? (encoded : List Char) : Option (List Char) := do
  let label ← Punycode.decode? encoded
  if !isAscii label && map? label == some label && !encodedMark.isPrefixOf label &&
      isWellFormed label then
    some label
  else none

/-- Reads a label in the one spelling. -/
def Label.read? (label : List Char) : Option Label :=
  if encodedMark.isPrefixOf label then
    (decodeLabel? (label.drop encodedMark.length)).map (⟨·, label⟩)
  else if isAscii label then some ⟨label, label⟩
  else if isWellFormed label then
    (Punycode.encode? label).map fun encoded => ⟨label, encodedMark ++ encoded⟩
  else none

/-- Whether labels can be told apart in a name that has letters of both directions. -/
def areOrdered (labels : List Label) : Bool :=
  !(labels.any fun label => isMixed label.shown) || labels.all fun label => isOrdered label.shown

/-- A name in ASCII. Without a label it is empty. -/
def toAscii? (name : List Char) : Option (List Char) := do
  let labels ← (Text.splitAll '.' (← map? name)).mapM Label.read?
  if areOrdered labels then some (List.intercalate ['.'] (labels.map (·.ascii))) else none

end ResourceEditor.Domain
