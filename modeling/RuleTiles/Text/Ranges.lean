/-
**Tables of characters.**

A property of characters is kept as a table of ranges of code points.

Main definitions:

* `RuleTiles.inRanges` — a character lies in one of several ranges.
-/

set_option relaxedAutoImplicit false
set_option autoImplicit false

namespace RuleTiles

/-- Whether the code point of a character lies in one of several closed ranges. -/
def inRanges (ranges : List (Nat × Nat)) (c : Char) : Bool :=
  ranges.any fun range => range.1 ≤ c.toNat && c.toNat ≤ range.2

end RuleTiles
