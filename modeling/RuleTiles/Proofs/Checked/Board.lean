/-
**Boards under checks.**

Here boards are read and changed as a machine does it, which stops when a number leaves the range of
its type, when it divides by zero, when an array has no item at a place, and when an object that is
lifted does not lie where it should.  None of the operations on a board is ever stopped: its sides
are between 1 and 256 and it has a cell for each of its places.  Only lifting asks for something,
namely that the objects lie on the board.

Main definitions:

* `RuleTiles.Checked.Halt` — why a machine stops;
* `RuleTiles.Checked.fetch`, `RuleTiles.Checked.change` — reading and changing one cell;
* `RuleTiles.Checked.positions`, `RuleTiles.Checked.objects` — going through a board;
* `RuleTiles.Checked.lift`, `RuleTiles.Checked.liftAll` — taking objects that have to be there.

Main results:

* `RuleTiles.Checked.fetch_eq`, `RuleTiles.Checked.change_eq`,
  `RuleTiles.Checked.positions_eq`, `RuleTiles.Checked.objects_eq` — **no operation on a board is
  stopped**;
* `RuleTiles.Checked.liftAll_eq` — objects are lifted when they lie on the board, each once.
-/

import RuleTiles.Grid.Bearing
import RuleTiles.Proofs.Board.Places
import RuleTiles.Rule.Reading

set_option relaxedAutoImplicit false
set_option autoImplicit false

namespace RuleTiles

namespace Checked

/-! ### Operations that may be stopped -/

/-- Why a machine stops. -/
inductive Halt
  /-- A number left the range of its type. -/
  | outOfRange
  /-- A number was divided by zero. -/
  | dividedByZero
  /-- An array with some number of items has none at a place. -/
  | noItem (place size : Nat)
  /-- An object that was lifted did not lie on the board. -/
  | notThere (o : Object)
  /-- One more turn could not be counted. -/
  | uncounted
  deriving DecidableEq

/-- A size, which is a word of 64 bits. -/
def word (n : Nat) : Except Halt Nat := if n < 2 ^ 64 then pure n else .error .outOfRange

/-- A size as a coordinate; bits that do not fit are lost. -/
def truncate (n : Nat) : Int := Int.bmod n (2 ^ 32)

/-- Quotient and remainder of two coordinates. -/
def divide (a b : Int) : Except Halt (Int × Int) :=
  if b = 0 then .error .dividedByZero
  else if a = -2147483648 ∧ b = -1 then .error .outOfRange
  else pure (a.tdiv b, a.tmod b)

/-- The item of an array at a place. -/
def item {α : Type} (items : Array α) (i : Nat) : Except Halt α :=
  match items[i]? with
  | some x => pure x
  | none => .error (.noItem i items.size)

/-- The items of a list that pass a test. -/
def select {α : Type} (test : α → Except Halt Bool) : List α → Except Halt (List α)
  | [] => pure []
  | x :: rest => do
    let keep ← test x
    let rest ← select test rest
    return if keep then x :: rest else rest

theorem word_eq {n : Nat} (h : n < 2 ^ 64) : word n = pure n := if_pos h

theorem truncate_eq {n : Nat} (h : n < 2 ^ 31) : truncate n = n :=
  Int.bmod_eq_of_le (by omega) (by omega)

theorem divide_eq {a b : Nat} (h : 0 < b) :
    divide a b = pure (((a / b : Nat) : Int), ((a % b : Nat) : Int)) := by
  rw [divide, if_neg (by omega), if_neg (by omega), Int.ofNat_tdiv, Int.ofNat_tmod]

theorem item_eq {α : Type} {items : Array α} {i : Nat} {x : α} (h : items[i]? = some x) :
    item items i = pure x := by
  simp [item, h]

@[simp] theorem select_pure {α : Type} (test : α → Bool) (l : List α) :
    select (fun x => pure (test x)) l = pure (l.filter test) := by
  induction l with
  | nil => rfl
  | cons x rest ih =>
      rw [select, ih, pure_bind, pure_bind, List.filter_cons]

/-! ### One cell -/

/-- The place of a position among the cells of a board, if it lies on the board. -/
def place (g : Grid) (p : Position) : Except Halt (Option Nat) :=
  if g.contains p then do
    let start ← word (p.row.val.toNat * g.width)
    let i ← word (start + p.col.val.toNat)
    return some i
  else pure none

/-- The cell at a position, if it lies on the board. -/
def fetch (g : Grid) (p : Position) : Except Halt (Option Cell) := do
  match ← place g p with
  | none => return none
  | some i =>
    let c ← item g.cells i
    return some c

/-- The board with the cell at a position changed, if it lies on the board. -/
def change (g : Grid) (p : Position) (f : Cell → Cell) : Except Halt Grid := do
  let _ ← place g p
  return g.modify p f

/-- A board has no more cells than the largest board. -/
theorem size_cells_le (g : Grid) : g.width * g.height ≤ 65536 := by
  have hwidth := g.width_le
  have hheight := g.height_le
  unfold maxDimension at hwidth hheight
  exact Nat.mul_le_mul hwidth hheight

theorem place_eq (g : Grid) (p : Position) :
    place g p = pure (if g.contains p then some (g.index p) else none) := by
  unfold place
  split
  · rename_i hp
    have hindex := Grid.index_lt hp
    have hsize := size_cells_le g
    rw [g.size_cells, Grid.index] at hindex
    rw [word_eq (by omega), pure_bind, word_eq (by omega), pure_bind, Grid.index]
  · rfl

/-- No look at a cell is stopped. -/
@[simp] theorem fetch_eq (g : Grid) (p : Position) : fetch g p = pure (g.at? p) := by
  rw [fetch, place_eq, pure_bind, Grid.at?]
  split
  · rename_i hnone
    split at hnone
    · cases hnone
    · rename_i hp
      rw [if_neg hp]
  · rename_i i hsome
    split at hsome
    · rename_i hp
      cases hsome
      have hitem := Array.getElem?_eq_getElem (Grid.index_lt hp)
      rw [item_eq hitem, pure_bind, if_pos hp, hitem]
    · cases hsome

/-- No change of a cell is stopped. -/
@[simp] theorem change_eq (g : Grid) (p : Position) (f : Cell → Cell) :
    change g p f = pure (g.modify p f) := by
  rw [change, place_eq, pure_bind]

/-- The board with a kind put on the cell at a position. -/
def put (g : Grid) (p : Position) (k : Kind) (facing : Option Direction) : Except Halt Grid :=
  change g p fun c => c.put k facing

/-- The board without an object, if it is there. -/
def take (g : Grid) (o : Object) : Except Halt Grid := change g o.pos fun c => c.take o.kind

/-- The board with an object turned. -/
def turn (g : Grid) (o : Object) (d : Direction) : Except Halt Grid :=
  change g o.pos fun c => c.turn o.kind d

@[simp] theorem put_eq (g : Grid) (p : Position) (k : Kind) (facing : Option Direction) :
    put g p k facing = pure (g.put p k facing) :=
  change_eq g p _

@[simp] theorem take_eq (g : Grid) (o : Object) : take g o = pure (g.take o) :=
  change_eq g o.pos _

@[simp] theorem turn_eq (g : Grid) (o : Object) (d : Direction) :
    turn g o d = pure (g.turn o d) :=
  change_eq g o.pos _

/-! ### Going through a board -/

/-- The positions of a board, each computed from its place. -/
def positions (g : Grid) : Except Halt (List Position) := do
  let size ← word (g.width * g.height)
  (List.range (truncate size).toNat).mapM fun (i : Nat) => do
    let (row, col) ← divide i (truncate g.width)
    return .clamp row col

/-- The objects of a board, by its positions and its cells side by side. -/
def objects (g : Grid) : Except Halt (List Object) := do
  let ps ← positions g
  return (ps.zip g.cells.toList).flatMap fun pc => pc.2.kinds.map fun k => ⟨pc.1, k⟩

/-- The positions that hold a kind, by its positions and its cells side by side. -/
def positionsOf (g : Grid) (k : Kind) : Except Halt (List Position) := do
  let ps ← positions g
  return ((ps.zip g.cells.toList).filter fun pc => pc.2.has k).map Prod.fst

/-- **The positions of a board are gone through without a stop.** -/
@[simp] theorem positions_eq (g : Grid) : positions g = pure g.positions := by
  have hsize := size_cells_le g
  have hwidth := g.width_le
  unfold maxDimension at hwidth
  unfold positions
  rw [word_eq (by omega), pure_bind, truncate_eq (by omega), truncate_eq (by omega),
    Int.toNat_natCast, Grid.positions_eq_map_range]
  simp only [divide_eq g.width_pos, pure_bind, List.mapM_pure]

/-- **The objects of a board are gone through without a stop.** -/
@[simp] theorem objects_eq (g : Grid) : objects g = pure g.objects := by
  rw [objects, positions_eq, pure_bind, Grid.zip_cells, List.flatMap_map]
  rfl

@[simp] theorem positionsOf_eq (g : Grid) (k : Kind) :
    positionsOf g k = pure (g.positionsOf k) := by
  rw [positionsOf, positions_eq, pure_bind, Grid.zip_cells, List.filter_map, List.map_map]
  simp [Grid.positionsOf, Function.comp_def]

/-! ### Where properties are found -/

/-- The objects that have a property. -/
def having (g : Grid) (rules : RuleSet) (p : Property) : Except Halt (List Object) := do
  let os ← objects g
  return os.filter fun o => rules.grants o.kind p

/-- Whether some object at a position has a property. -/
def holds (g : Grid) (rules : RuleSet) (pos : Position) (p : Property) : Except Halt Bool := do
  match ← fetch g pos with
  | none => return false
  | some c => return c.kinds.any fun k => rules.grants k p

/-- The objects that have one property and share a cell with one that has another. -/
def meeting (g : Grid) (rules : RuleSet) (p q : Property) : Except Halt (List Object) := do
  let os ← having g rules p
  select (fun o => holds g rules o.pos q) os

/-- Whether some object of the board is YOU. -/
def controllable (g : Grid) (rules : RuleSet) : Except Halt Bool := do
  let os ← objects g
  return os.any fun o => rules.grants o.kind .you

@[simp] theorem having_eq (g : Grid) (rules : RuleSet) (p : Property) :
    having g rules p = pure (g.having rules p) := by
  rw [having, objects_eq, pure_bind, Grid.having_eq]

@[simp] theorem holds_eq (g : Grid) (rules : RuleSet) (pos : Position) (p : Property) :
    holds g rules pos p = pure (g.holds rules pos p) := by
  rw [holds, fetch_eq, pure_bind, Grid.holds, Grid.cell]
  cases g.at? pos with
  | none => rfl
  | some c => rfl

@[simp] theorem meeting_eq (g : Grid) (rules : RuleSet) (p q : Property) :
    meeting g rules p q = pure (g.meeting rules p q) := by
  rw [meeting, having_eq, pure_bind, Grid.meeting_eq]
  simp only [holds_eq, select_pure]

@[simp] theorem controllable_eq (g : Grid) (rules : RuleSet) :
    controllable g rules = pure (g.controllable rules) := by
  rw [controllable, objects_eq, pure_bind]
  refine congrArg pure (Bool.eq_iff_iff.2 ?_)
  rw [Grid.controllable_eq_true, List.any_eq_true]

/-! ### The rules on a board -/

/-- The rules spelled around the cell at a position. -/
def sentencesAt (g : Grid) (p : Position) : Except Halt (List Rule) := do
  let middle ← fetch g p
  if (middle.getD .empty).has .is then
    let found ← Grid.readingDirections.mapM fun d => do
      let first ← fetch g (p.step d.reverse)
      let third ← fetch g (p.step d)
      return sentences (first.getD .empty) (third.getD .empty)
    return found.flatten
  else return []

/-- The rules spelled on a board. -/
def rules (g : Grid) : Except Halt RuleSet := do
  let ps ← positions g
  let found ← ps.mapM (sentencesAt g)
  return .ofList found.flatten

@[simp] theorem sentencesAt_eq (g : Grid) (p : Position) :
    sentencesAt g p = pure (g.sentencesAt p) := by
  simp only [sentencesAt, fetch_eq, pure_bind, List.mapM_pure]
  rw [Grid.sentencesAt, Grid.cell]
  split
  · rw [List.flatMap_def]
    rfl
  · rfl

/-- **The rules of a board are read without a stop.** -/
@[simp] theorem rules_eq (g : Grid) : rules g = pure g.rules := by
  have hsentences : sentencesAt g = fun p => pure (g.sentencesAt p) := funext (sentencesAt_eq g)
  rw [rules, positions_eq, pure_bind, hsentences, List.mapM_pure, pure_bind, ← List.flatMap_def]
  rfl

/-! ### Objects that have to be there -/

/-- The board without an object that has to lie on it. -/
def lift (g : Grid) (o : Object) : Except Halt Grid := do
  match ← fetch g o.pos with
  | none => .error (.notThere o)
  | some c =>
    if o.kind ∈ c.kinds then take g o
    else .error (.notThere o)

/-- The board without objects that have to lie on it, one after another. -/
def liftAll (g : Grid) (objects : List Object) : Except Halt Grid := objects.foldlM lift g

theorem lift_eq {g : Grid} {o : Object} (h : o ∈ g.objects) : lift g o = pure (g.take o) := by
  have hkind := Grid.mem_objects.1 h
  have hat := Grid.at?_eq_some_cell (Grid.contains_of_mem_kinds hkind)
  rw [lift, fetch_eq, pure_bind, hat]
  simp only [if_pos hkind, take_eq]

/-- **Objects are lifted without a stop** when they lie on the board and none is lifted twice. -/
theorem liftAll_eq {g : Grid} {os : List Object} (hnodup : os.Nodup)
    (h : ∀ o ∈ os, o ∈ g.objects) : liftAll g os = pure (g.takeAll os) := by
  induction os generalizing g with
  | nil => rfl
  | cons o rest ih =>
      obtain ⟨ho, hrest⟩ := List.nodup_cons.1 hnodup
      rw [liftAll, List.foldlM_cons, lift_eq (h o (List.mem_cons_self ..)), pure_bind]
      refine ih hrest fun x hx => ?_
      -- the rest are other objects, and so still there
      have hne : x ≠ o := fun hxo => ho (hxo ▸ hx)
      have hmem := Grid.mem_objects.1 (h x (List.mem_cons_of_mem _ hx))
      exact Grid.mem_objects.2 (Grid.mem_kinds_take.2 ⟨hmem, hne⟩)

end Checked

end RuleTiles
