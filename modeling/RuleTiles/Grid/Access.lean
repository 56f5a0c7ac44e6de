/-
**Access to a board at arbitrary positions.**

A caller may name any position.  Reading or changing a cell that is not on the board fails and
leaves the board as it was.

Main definitions:

* `RuleTiles.Grid.OutOfBounds` — the position that was named and the size of the board;
* `RuleTiles.Grid.access`, `RuleTiles.Grid.place`, `RuleTiles.Grid.remove`.

Main results:

* `RuleTiles.Grid.access_eq_ok_iff`, `RuleTiles.Grid.place_eq_ok_iff`,
  `RuleTiles.Grid.remove_eq_ok_iff` — each succeeds exactly on the board.
-/

import RuleTiles.Grid

set_option relaxedAutoImplicit false
set_option autoImplicit false

namespace RuleTiles.Grid

/-- A position off the board, with the size of the board. -/
structure OutOfBounds where
  pos : Position
  width : Nat
  height : Nat
  deriving DecidableEq

/-- The sentence that reports a position off the board. -/
def OutOfBounds.message (e : OutOfBounds) : String :=
  "Position " ++ e.pos.text ++ " is outside the " ++ sizeText e.width e.height ++ " grid"

/-- The result `x`, if a position lies on the board. -/
def guarded {α : Type} (g : Grid) (p : Position) (x : α) : Except OutOfBounds α :=
  if g.contains p then .ok x else .error ⟨p, g.width, g.height⟩

theorem guarded_eq_ok_iff {α : Type} {g : Grid} {p : Position} {x y : α} :
    g.guarded p x = .ok y ↔ g.contains p = true ∧ y = x := by
  unfold guarded
  split
  · rename_i h
    simp [h, eq_comm]
  · rename_i h
    simp [h]

/-- The cell at a position. -/
def access (g : Grid) (p : Position) : Except OutOfBounds Cell := g.guarded p (g.cell p)

/-- The board with a kind placed at a position. -/
def place (g : Grid) (p : Position) (k : Kind) (facing : Option Direction) :
    Except OutOfBounds Grid :=
  g.guarded p (g.put p k facing)

/-- The board without a kind at a position; nothing happens when it is not there. -/
def remove (g : Grid) (p : Position) (k : Kind) : Except OutOfBounds Grid :=
  g.guarded p (g.take ⟨p, k⟩)

theorem access_eq_ok_iff {g : Grid} {p : Position} {c : Cell} :
    g.access p = .ok c ↔ g.contains p = true ∧ c = g.cell p :=
  guarded_eq_ok_iff

theorem place_eq_ok_iff {g h : Grid} {p : Position} {k : Kind} {facing : Option Direction} :
    g.place p k facing = .ok h ↔ g.contains p = true ∧ h = g.put p k facing :=
  guarded_eq_ok_iff

theorem remove_eq_ok_iff {g h : Grid} {p : Position} {k : Kind} :
    g.remove p k = .ok h ↔ g.contains p = true ∧ h = g.take ⟨p, k⟩ :=
  guarded_eq_ok_iff

end RuleTiles.Grid
