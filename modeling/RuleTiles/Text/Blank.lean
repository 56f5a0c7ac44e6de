/-
**White space, and the words of a line.**

Text is read as a list of characters.  A character is *blank* when it has the Unicode property
`White_Space`; blanks separate the words of a line and are dropped around a name.

Main definitions:

* `RuleTiles.blankRanges`, `RuleTiles.isBlank` — the table of the property and its test;
* `RuleTiles.trim` — a text without the blanks at its two ends;
* `RuleTiles.words` — the maximal pieces of a text that hold no blank;
* `RuleTiles.lowercase` — ASCII letters in lower case, all else as it is.
-/

import RuleTiles.Text.Ranges

set_option relaxedAutoImplicit false
set_option autoImplicit false

namespace RuleTiles

/-! ### The property -/

/-- The code points with the Unicode property `White_Space`, as closed ranges in ascending
order. -/
def blankRanges : List (Nat × Nat) :=
  [(0x0009, 0x000D), (0x0020, 0x0020), (0x0085, 0x0085), (0x00A0, 0x00A0), (0x1680, 0x1680),
   (0x2000, 0x200A), (0x2028, 0x2029), (0x202F, 0x202F), (0x205F, 0x205F), (0x3000, 0x3000)]

/-- Whether a character is white space. -/
def isBlank (c : Char) : Bool := inRanges blankRanges c

/-- The property holds of 25 code points. -/
example : (blankRanges.map fun range => range.2 + 1 - range.1).sum = 25 := by decide

/-- The table is in ascending order and its ranges are disjoint. -/
example : blankRanges.Pairwise fun a b => a.2 < b.1 := by decide

/-! ### Trimming and splitting -/

/-- The text without the blanks at its two ends. -/
def trim (s : List Char) : List Char :=
  ((s.dropWhile isBlank).reverse.dropWhile isBlank).reverse

theorem trim_nil : trim [] = [] := rfl

/-- The maximal pieces without a blank, from left to right. -/
def words (s : List Char) : List (List Char) :=
  (s.splitOnP isBlank).filter fun w => !w.isEmpty

@[simp] theorem words_nil : words [] = [] := rfl

/-! ### Letter case -/

/-- ASCII letters in lower case; every other character is left alone. -/
def lowercase (s : List Char) : List Char := s.map Char.toLower

end RuleTiles
