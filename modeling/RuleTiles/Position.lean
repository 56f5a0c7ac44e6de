/-
**Positions with 32-bit coordinates.**

A coordinate is an integer that fits in 32 bits with a sign.  It is signed so that a step over the
edge of a board can be written down and then refused by the board.  A step stops at the ends of
the range; sums, differences and distances fail when an intermediate result leaves it.

Main definitions:

* `RuleTiles.Coord` — an integer in the range, with `Coord.clamp`, `Coord.ofInt?` and
  `Coord.checked`;
* `RuleTiles.Overflow` — which kind of operation left the range;
* `RuleTiles.Position` — a row and a column, ordered by row first;
* `RuleTiles.Position.step`, `RuleTiles.Position.add`, `RuleTiles.Position.sub`,
  `RuleTiles.Position.distance`.

Main results:

* `RuleTiles.Coord.checked_eq_ok_iff` — a checked result is the exact one;
* `RuleTiles.Coord.val_clamp_of_mem` — clamping changes nothing inside the range.
-/

import RuleTiles.Direction

set_option relaxedAutoImplicit false
set_option autoImplicit false

namespace RuleTiles

/-- The kind of operation whose result left its range. -/
inductive Overflow
  | add
  | sub
  | neg
  deriving DecidableEq, Repr

/-- The sentence that reports an overflow. -/
def Overflow.message : Overflow → String
  | add => "attempt to add with overflow"
  | sub => "attempt to subtract with overflow"
  | neg => "attempt to negate with overflow"

/-! ### Coordinates -/

/-- An integer that fits in 32 bits with a sign. -/
@[ext] structure Coord where
  /-- The integer. -/
  val : Int
  lower : -2147483648 ≤ val
  upper : val ≤ 2147483647
  deriving DecidableEq

namespace Coord

/-- The integer of the range that is nearest to `x`. -/
def clamp (x : Int) : Coord where
  val := max (-2147483648) (min x 2147483647)
  lower := by omega
  upper := by omega

/-- The integer `x` itself, when it fits. -/
def ofInt? (x : Int) : Option Coord :=
  if h : -2147483648 ≤ x ∧ x ≤ 2147483647 then some ⟨x, h.1, h.2⟩ else none

/-- The integer `x` itself, or the overflow `fault` when it does not fit. -/
def checked (fault : Overflow) (x : Int) : Except Overflow Coord :=
  match ofInt? x with
  | some c => .ok c
  | none => .error fault

instance : Hashable Coord := ⟨fun c => hash c.val⟩

instance : Inhabited Coord := ⟨clamp 0⟩

instance : Ord Coord := ⟨compareOn Coord.val⟩

instance : Std.TransOrd Coord := inferInstanceAs (Std.TransCmp (compareOn Coord.val))

instance : Std.LawfulEqOrd Coord where
  eq_of_compare h := Coord.ext (Std.LawfulEqOrd.eq_of_compare (α := Int) h)

theorem val_clamp (x : Int) : (clamp x).val = max (-2147483648) (min x 2147483647) := rfl

theorem val_clamp_of_mem {x : Int} (h₁ : -2147483648 ≤ x) (h₂ : x ≤ 2147483647) :
    (clamp x).val = x := by
  rw [val_clamp]; omega

/-- A natural number below the bound is its own coordinate. -/
theorem val_clamp_natCast {n : Nat} (h : n ≤ 2147483647) : (clamp n).val = n :=
  val_clamp_of_mem (by omega) (by omega)

@[simp] theorem clamp_val (c : Coord) : clamp c.val = c :=
  Coord.ext (val_clamp_of_mem c.lower c.upper)

theorem ofInt?_eq_some_iff {x : Int} {c : Coord} : ofInt? x = some c ↔ c.val = x := by
  unfold ofInt?
  split
  · constructor
    · intro h; cases h; rfl
    · intro h; exact congrArg some (Coord.ext h.symm)
  · rename_i h
    constructor
    · intro h'; cases h'
    · intro h'; exact absurd ⟨h' ▸ c.lower, h' ▸ c.upper⟩ h

@[simp] theorem ofInt?_val (c : Coord) : ofInt? c.val = some c := ofInt?_eq_some_iff.2 rfl

/-- A checked result is the exact integer. -/
theorem checked_eq_ok_iff {fault : Overflow} {x : Int} {c : Coord} :
    checked fault x = .ok c ↔ c.val = x := by
  rw [← ofInt?_eq_some_iff]
  unfold checked
  cases ofInt? x <;> simp

end Coord

/-! ### Positions -/

/-- A row and a column; row 0 is the top row and column 0 the leftmost. -/
@[ext] structure Position where
  row : Coord
  col : Coord
  deriving DecidableEq, Hashable, Inhabited

namespace Position

/-- Positions are ordered by row, then by column. -/
instance : Ord Position := ⟨compareLex (compareOn Position.row) (compareOn Position.col)⟩

instance : Std.TransOrd Position :=
  inferInstanceAs (Std.TransCmp (compareLex (compareOn Position.row) (compareOn Position.col)))

instance : Std.LawfulEqOrd Position where
  eq_of_compare h := by
    obtain ⟨h₁, h₂⟩ := compareLex_eq_eq.1 h
    exact Position.ext (Std.LawfulEqOrd.eq_of_compare (α := Coord) h₁)
      (Std.LawfulEqOrd.eq_of_compare (α := Coord) h₂)

/-- The position with the coordinates nearest to the given integers. -/
def clamp (row col : Int) : Position := ⟨.clamp row, .clamp col⟩

/-- The position one cell away; at the ends of the range it stays where it is. -/
def step (p : Position) (d : Direction) : Position :=
  ⟨.clamp (p.row.val + d.offset.1), .clamp (p.col.val + d.offset.2)⟩

/-- The sum of two positions, coordinate by coordinate. -/
def add (p q : Position) : Except Overflow Position := do
  let row ← Coord.checked .add (p.row.val + q.row.val)
  let col ← Coord.checked .add (p.col.val + q.col.val)
  return ⟨row, col⟩

/-- The difference of two positions, coordinate by coordinate. -/
def sub (p q : Position) : Except Overflow Position := do
  let row ← Coord.checked .sub (p.row.val - q.row.val)
  let col ← Coord.checked .sub (p.col.val - q.col.val)
  return ⟨row, col⟩

/-- The number of steps between two positions when every intermediate result has to fit in a
coordinate: the row difference and its size, then the column difference and its size, then their
sum. -/
def distance (p q : Position) : Except Overflow Nat := do
  let rows ← Coord.checked .sub (p.row.val - q.row.val)
  let rows ← Coord.checked .neg (rows.val.natAbs : Int)
  let cols ← Coord.checked .sub (p.col.val - q.col.val)
  let cols ← Coord.checked .neg (cols.val.natAbs : Int)
  let total ← Coord.checked .add (rows.val + cols.val)
  return total.val.toNat

/-- The text of a position. -/
def text (p : Position) : String :=
  "(" ++ toString p.row.val ++ ", " ++ toString p.col.val ++ ")"

end Position

end RuleTiles
