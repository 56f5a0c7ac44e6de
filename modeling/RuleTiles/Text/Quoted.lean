/-
**Text in quotation marks.**

A text that is shown as a value stands between double quotes.  Quotes and backslashes inside it
are marked by a backslash, and characters that cannot be seen by themselves are written by their
code point.

Main definitions:

* `RuleTiles.invisibleRanges`, `RuleTiles.isInvisible` — characters without a picture;
* `RuleTiles.isHidden` — characters that are written by their code point;
* `RuleTiles.escaped`, `RuleTiles.quoted` — a character, and a text, as shown in quotes.
-/

import RuleTiles.Text.Mark
import RuleTiles.Text.Unassigned

set_option relaxedAutoImplicit false
set_option autoImplicit false

namespace RuleTiles

/-- The control, format, separator and private-use characters, the plain space left out, and the
four fillers of the Hangul script, as closed ranges in ascending order. -/
def invisibleRanges : List (Nat × Nat) :=
  [(0x0000, 0x001F), (0x007F, 0x00A0), (0x00AD, 0x00AD), (0x0600, 0x0605), (0x061C, 0x061C),
   (0x06DD, 0x06DD), (0x070F, 0x070F), (0x0890, 0x0891), (0x08E2, 0x08E2), (0x115F, 0x1160),
   (0x1680, 0x1680), (0x180E, 0x180E), (0x2000, 0x200F), (0x2028, 0x202F), (0x205F, 0x2064),
   (0x2066, 0x206F), (0x3000, 0x3000), (0x3164, 0x3164), (0xE000, 0xF8FF), (0xFEFF, 0xFEFF),
   (0xFFA0, 0xFFA0), (0xFFF9, 0xFFFB), (0x110BD, 0x110BD), (0x110CD, 0x110CD), (0x13430, 0x1343F),
   (0x1BCA0, 0x1BCA3), (0x1D173, 0x1D17A), (0xE0001, 0xE0001), (0xE0020, 0xE007F),
   (0xF0000, 0xFFFFD), (0x100000, 0x10FFFD)]

/-- Whether a character has no picture of its own. -/
def isInvisible (c : Char) : Bool := inRanges invisibleRanges c

/-- The property holds of 137725 code points. -/
example : (invisibleRanges.map fun range => range.2 + 1 - range.1).sum = 137725 := by decide +kernel

/-- The table is in ascending order and its ranges are disjoint. -/
example : invisibleRanges.Pairwise fun a b => a.2 < b.1 := by decide

/-- Whether a character cannot be seen by itself: it has no picture, it only changes the picture of
the character before it, or it does not exist. -/
def isHidden (c : Char) : Bool := isInvisible c || isMark c || isUnassigned c

/-- A character as shown between quotes. -/
def escaped (c : Char) : List Char :=
  match c with
  | '"' => ['\\', '"']
  | '\\' => ['\\', '\\']
  | '\n' => ['\\', 'n']
  | '\r' => ['\\', 'r']
  | '\t' => ['\\', 't']
  | '\x00' => ['\\', '0']
  | c =>
    if isHidden c then ['\\', 'u', '{'] ++ Nat.toDigits 16 c.toNat ++ ['}']
    else [c]

/-- A text between quotes. -/
def quoted (s : String) : String :=
  .ofList ('"' :: s.toList.flatMap escaped ++ ['"'])

end RuleTiles
