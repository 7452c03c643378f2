/-!
# Ranges of code points

A character class of the Unicode standard is a list of inclusive ranges of code points, and a
character belongs to the class when one of the ranges holds its code point.
-/

namespace RpcStubs.Text

/-- The code points from `first` to `last`, both included. -/
structure CodeRange where
  first : Nat
  last : Nat

def CodeRange.contains (range : CodeRange) (n : Nat) : Bool :=
  decide (range.first ≤ n) && decide (n ≤ range.last)

/-- Whether a class given by its ranges holds the character `c`. -/
def inRanges (ranges : List CodeRange) (c : Char) : Bool :=
  ranges.any (·.contains c.toNat)

end RpcStubs.Text
