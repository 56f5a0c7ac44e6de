/-
**The four directions of a move.**

A move command names one of four directions.  Directions are written in two ways: as a code from
0 to 3, and as a word or its first letter, in either letter case and with white space around it.

Main definitions:

* `RuleTiles.Direction` — up, down, left, right;
* `RuleTiles.Direction.reverse`, `RuleTiles.Direction.offset` — the opposite direction, and the
  change of row and column of one step;
* `RuleTiles.Direction.code`, `RuleTiles.Direction.ofCode?` — numbering;
* `RuleTiles.Direction.letter`, `RuleTiles.Direction.ofChars?`, `RuleTiles.Direction.parse?` —
  spelling.

Main results:

* `RuleTiles.Direction.reverse_reverse`, `RuleTiles.Direction.ofCode?_code`,
  `RuleTiles.Direction.ofChars?_letter` — the three pairs undo each other.
-/

import RuleTiles.Text.Blank

set_option relaxedAutoImplicit false
set_option autoImplicit false

namespace RuleTiles

/-- A direction of movement on the board; row 0 is the top row. -/
inductive Direction
  | up
  | down
  | left
  | right
  deriving DecidableEq, Hashable, Repr, Inhabited

namespace Direction

/-- The four directions in the order of their codes. -/
def all : List Direction := [up, down, left, right]

theorem mem_all (d : Direction) : d ∈ all := by cases d <;> decide

/-- The opposite direction. -/
def reverse : Direction → Direction
  | up => down
  | down => up
  | left => right
  | right => left

@[simp] theorem reverse_reverse (d : Direction) : d.reverse.reverse = d := by cases d <;> rfl

/-- The change of row and of column made by one step. -/
def offset : Direction → Int × Int
  | up => (-1, 0)
  | down => (1, 0)
  | left => (0, -1)
  | right => (0, 1)

/-! ### Numbering -/

/-- The code of a direction, from 0 to 3. -/
def code : Direction → Nat
  | up => 0
  | down => 1
  | left => 2
  | right => 3

/-- The direction with a given code. -/
def ofCode? : Nat → Option Direction
  | 0 => some up
  | 1 => some down
  | 2 => some left
  | 3 => some right
  | _ => none

@[simp] theorem ofCode?_code (d : Direction) : ofCode? d.code = some d := by cases d <;> rfl

/-- The direction numbered by a two-bit number. -/
def ofFin (n : Fin 4) : Direction :=
  match n with
  | 0 => up
  | 1 => down
  | 2 => left
  | 3 => right

/-! ### Spelling -/

/-- The letter that abbreviates a direction. -/
def letter : Direction → Char
  | up => 'u'
  | down => 'd'
  | left => 'l'
  | right => 'r'

/-- The name of a direction in records. -/
def tag : Direction → String
  | up => "Up"
  | down => "Down"
  | left => "Left"
  | right => "Right"

/-- Reads the full name or the first letter of a direction; letter case and surrounding white
space do not matter. -/
def ofChars? (s : List Char) : Option Direction :=
  match lowercase (trim s) with
  | ['u'] | ['u', 'p'] => some up
  | ['d'] | ['d', 'o', 'w', 'n'] => some down
  | ['l'] | ['l', 'e', 'f', 't'] => some left
  | ['r'] | ['r', 'i', 'g', 'h', 't'] => some right
  | _ => none

/-- Reads a direction from a string. -/
def parse? (text : String) : Option Direction := ofChars? text.toList

@[simp] theorem ofChars?_letter (d : Direction) : ofChars? [d.letter] = some d := by
  cases d <;> rfl

end Direction

end RuleTiles
