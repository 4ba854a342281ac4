/-
This file holds sets of characters given by the ranges of their code points.
-/

namespace ResourceEditor

namespace Text

/-- First and last code points of the ranges that make up a set of characters. -/
abbrev Ranges := List (Nat × Nat)

def Ranges.has (ranges : Ranges) (c : Char) : Bool :=
  ranges.any fun (first, last) => first ≤ c.toNat && c.toNat ≤ last

end Text

end ResourceEditor
