/-! # Sets of code points

A set of characters is written as a list of closed ranges of code points. -/

namespace ModelClasses.Text

abbrev CodeRanges := List (Nat × Nat)

/-- A character is in a set when one of its ranges holds the character's code point. -/
def CodeRanges.contains (ranges : CodeRanges) (c : Char) : Bool :=
  ranges.any fun r => r.1 ≤ c.toNat && c.toNat ≤ r.2

end ModelClasses.Text
