/-
**The board.**

A grid is a rectangle of cells, between 1 and 256 each way, kept row by row.  It knows nothing of
rules: which kinds may share a cell is decided elsewhere.

Main definitions:

* `RuleTiles.Grid`, `RuleTiles.Grid.ofCells`, `RuleTiles.Grid.ofFitting`, `RuleTiles.Grid.blank` —
  the board and how it is made;
* `RuleTiles.Grid.Fault` — why cells do not make a board;
* `RuleTiles.Grid.contains`, `RuleTiles.Grid.at?`, `RuleTiles.Grid.cell` — reading a cell;
* `RuleTiles.Grid.positions`, `RuleTiles.Grid.objects` — the cells in reading order, and what lies
  on them;
* `RuleTiles.Grid.put`, `RuleTiles.Grid.take`, `RuleTiles.Grid.turn` — changing one cell;
* `RuleTiles.Grid.takeAll` — taking several objects off the board.

Main results:

* `RuleTiles.Grid.ofCells_eq_ok_iff` — which cells make a board;
* `RuleTiles.Grid.mem_positions` — the positions of a board are those on it;
* `RuleTiles.Grid.mem_objects`, `RuleTiles.Grid.mem_cells` — what a board holds, by its positions;
* `RuleTiles.Grid.cell_modify` — **a change at one position is seen there and nowhere else**.
-/

import RuleTiles.Cell
import RuleTiles.Position

set_option relaxedAutoImplicit false
set_option autoImplicit false

namespace RuleTiles

/-- An object of the board: a kind at a position. -/
@[ext] structure Object where
  pos : Position
  kind : Kind
  deriving DecidableEq, Hashable

namespace Object

/-- Objects are ordered by position, then by kind. -/
instance : Ord Object := ⟨compareLex (compareOn Object.pos) (compareOn Object.kind)⟩

instance : Std.TransOrd Object :=
  inferInstanceAs (Std.TransCmp (compareLex (compareOn Object.pos) (compareOn Object.kind)))

instance : Std.LawfulEqOrd Object where
  eq_of_compare h := by
    obtain ⟨h₁, h₂⟩ := compareLex_eq_eq.1 h
    exact Object.ext (Std.LawfulEqOrd.eq_of_compare (α := Position) h₁)
      (Std.LawfulEqOrd.eq_of_compare (α := Kind) h₂)

end Object

/-- The largest width and the largest height of a board. -/
def maxDimension : Nat := 256

/-- A rectangular board, kept row by row. -/
structure Grid where
  width : Nat
  height : Nat
  cells : Array Cell
  width_pos : 0 < width
  height_pos : 0 < height
  width_le : width ≤ maxDimension
  height_le : height ≤ maxDimension
  size_cells : cells.size = width * height
  deriving DecidableEq

namespace Grid

instance : Hashable Grid := ⟨fun g => mixHash (hash g.width) (hash g.cells)⟩

/-! ### Making a board -/

/-- Why a board cannot be made. -/
inductive Fault
  /-- There is no row or no column. -/
  | zeroDimension (width height : Nat)
  /-- A side is longer than the largest dimension. -/
  | tooLarge (width height : Nat)
  /-- The number of cells is not the product of the sides. -/
  | cellCount (width height found : Nat)
  /-- A board in play differs in size from the board it started from. -/
  | sizeChanged (width height initialWidth initialHeight : Nat)
  deriving DecidableEq

/-- A size as it is written in messages. -/
def sizeText (width height : Nat) : String := toString width ++ "x" ++ toString height

/-- The sentence that reports a fault. -/
def Fault.message : Fault → String
  | zeroDimension w h => "dimensions must be non-zero, got " ++ sizeText w h
  | tooLarge w h =>
      "dimensions " ++ sizeText w h ++ " exceed the maximum of " ++ toString maxDimension
  | cellCount w h found =>
      "expected " ++ toString (w * h) ++ " cells for a " ++ sizeText w h ++ " grid, got " ++
        toString found
  | sizeChanged w h w₀ h₀ =>
      "snapshot grid is " ++ sizeText w h ++ " but the level is " ++ sizeText w₀ h₀

/-- The board with the given sides and cells, row by row. -/
def ofCells (width height : Nat) (cells : Array Cell) : Except Fault Grid :=
  if hz : width = 0 ∨ height = 0 then .error (.zeroDimension width height)
  else if hm : maxDimension < width ∨ maxDimension < height then .error (.tooLarge width height)
  else if hs : cells.size ≠ width * height then .error (.cellCount width height cells.size)
  else .ok
    { width, height, cells
      width_pos := by omega
      height_pos := by omega
      width_le := by omega
      height_le := by omega
      size_cells := by omega }

/-- The board with sides and cells that are known to fit together. -/
def ofFitting (width height : Nat) (cells : Array Cell)
    (h : (0 < width ∧ 0 < height) ∧ (width ≤ maxDimension ∧ height ≤ maxDimension) ∧
      cells.size = width * height) : Grid where
  width := width
  height := height
  cells := cells
  width_pos := h.1.1
  height_pos := h.1.2
  width_le := h.2.1.1
  height_le := h.2.1.2
  size_cells := h.2.2

/-- Cells make a board exactly when its sides and its cells are the given ones. -/
theorem ofCells_eq_ok_iff {width height : Nat} {cells : Array Cell} {g : Grid} :
    ofCells width height cells = .ok g ↔
      g.width = width ∧ g.height = height ∧ g.cells = cells := by
  unfold ofCells
  constructor
  · intro h
    split at h
    · cases h
    · split at h
      · cases h
      · split at h
        · cases h
        · cases h
          exact ⟨rfl, rfl, rfl⟩
  · rintro ⟨rfl, rfl, rfl⟩
    have hw := g.width_pos
    have hh := g.height_pos
    have hw' := g.width_le
    have hh' := g.height_le
    rw [dif_neg (by omega), dif_neg (by omega), dif_neg (by simp [g.size_cells])]

/-- The board with the given sides on which nothing lies.  The sides are judged before any cell is
made. -/
def blank (width height : Nat) : Except Fault Grid :=
  if width = 0 ∨ height = 0 then .error (.zeroDimension width height)
  else if maxDimension < width ∨ maxDimension < height then .error (.tooLarge width height)
  else ofCells width height (Array.replicate (width * height) .empty)

/-! ### Reading -/

/-- Whether a position lies on the board. -/
def contains (g : Grid) (p : Position) : Bool :=
  0 ≤ p.row.val && 0 ≤ p.col.val && p.row.val < g.height && p.col.val < g.width

/-- The place of a position in the row-by-row order, when it lies on the board. -/
def index (g : Grid) (p : Position) : Nat := p.row.val.toNat * g.width + p.col.val.toNat

/-- The cell at a position on the board. -/
def at? (g : Grid) (p : Position) : Option Cell :=
  if g.contains p then g.cells[g.index p]? else none

/-- The cell at a position; off the board nothing lies anywhere. -/
def cell (g : Grid) (p : Position) : Cell := (g.at? p).getD .empty

/-- The positions of the board, row by row. -/
def positions (g : Grid) : List Position :=
  (List.range g.height).flatMap fun (row : Nat) =>
    (List.range g.width).map fun (col : Nat) => .clamp row col

/-- The objects of the board, row by row and in catalog order within a cell. -/
def objects (g : Grid) : List Object :=
  g.positions.flatMap fun p => (g.cell p).kinds.map fun k => ⟨p, k⟩

/-- The positions that hold a kind, row by row. -/
def positionsOf (g : Grid) (k : Kind) : List Position :=
  g.positions.filter fun p => (g.cell p).has k

/-- Whether some cell holds a kind. -/
def hasAny (g : Grid) (k : Kind) : Bool := g.cells.any fun c => c.has k

theorem contains_iff {g : Grid} {p : Position} :
    g.contains p = true ↔
      0 ≤ p.row.val ∧ 0 ≤ p.col.val ∧ p.row.val < g.height ∧ p.col.val < g.width := by
  simp [contains, and_assoc]

theorem index_lt {g : Grid} {p : Position} (h : g.contains p = true) :
    g.index p < g.cells.size := by
  obtain ⟨hr, hc, hh, hw⟩ := contains_iff.1 h
  have hrow : p.row.val.toNat + 1 ≤ g.height := by omega
  have hcol : p.col.val.toNat < g.width := by omega
  have := Nat.mul_le_mul_right g.width hrow
  rw [Nat.add_mul, Nat.mul_comm g.height] at this
  rw [g.size_cells, index]
  omega

/-- Two positions of the board have different places. -/
theorem index_inj {g : Grid} {p q : Position} (hp : g.contains p = true)
    (hq : g.contains q = true) (h : g.index p = g.index q) : p = q := by
  obtain ⟨hr, hc, _, hw⟩ := contains_iff.1 hp
  obtain ⟨hr', hc', _, hw'⟩ := contains_iff.1 hq
  have hcol : p.col.val.toNat < g.width := by omega
  have hcol' : q.col.val.toNat < g.width := by omega
  -- the row is the quotient of the place by the width
  have row_of : ∀ r c : Nat, c < g.width → (r * g.width + c) / g.width = r := by
    intro r c hc
    rw [Nat.add_comm, Nat.add_mul_div_right _ _ g.width_pos, Nat.div_eq_of_lt hc, Nat.zero_add]
  have row_eq : p.row.val.toNat = q.row.val.toNat := by
    have := congrArg (· / g.width) h
    simpa only [index, row_of _ _ hcol, row_of _ _ hcol'] using this
  have col_eq : p.col.val.toNat = q.col.val.toNat := by
    unfold index at h
    rw [row_eq] at h
    omega
  exact Position.ext (Coord.ext (by omega)) (Coord.ext (by omega))

theorem at?_eq_none_iff {g : Grid} {p : Position} : g.at? p = none ↔ g.contains p = false := by
  unfold at?
  split
  · rename_i h
    simp [h, index_lt h]
  · rename_i h
    simpa using h

theorem at?_eq_some_cell {g : Grid} {p : Position} (h : g.contains p = true) :
    g.at? p = some (g.cell p) := by
  cases hp : g.at? p with
  | none => rw [at?_eq_none_iff, h] at hp; cases hp
  | some c => simp [cell, hp]

/-- Off the board nothing lies anywhere. -/
theorem cell_of_not_contains {g : Grid} {p : Position} (h : g.contains p = false) :
    g.cell p = .empty := by
  simp [cell, at?_eq_none_iff.2 h]

/-- The positions of a board are those on it. -/
theorem mem_positions {g : Grid} {p : Position} : p ∈ g.positions ↔ g.contains p = true := by
  have hw := g.width_le
  have hh := g.height_le
  unfold maxDimension at hw hh
  rw [contains_iff]
  simp only [positions, List.mem_flatMap, List.mem_map, List.mem_range, Position.clamp]
  constructor
  · rintro ⟨r, hr, c, hc, rfl⟩
    dsimp only
    rw [Coord.val_clamp_natCast (by omega), Coord.val_clamp_natCast (by omega)]
    omega
  · rintro ⟨hr, hc, hrh, hcw⟩
    refine ⟨p.row.val.toNat, by omega, p.col.val.toNat, by omega, Position.ext ?_ ?_⟩
    · exact Coord.ext (by rw [Coord.val_clamp_natCast] <;> omega)
    · exact Coord.ext (by rw [Coord.val_clamp_natCast] <;> omega)

/-- A cell on which something lies is on the board. -/
theorem contains_of_mem_kinds {g : Grid} {p : Position} {k : Kind} (h : k ∈ (g.cell p).kinds) :
    g.contains p = true := by
  cases hc : g.contains p with
  | true => rfl
  | false => rw [cell_of_not_contains hc] at h; cases h

/-- The objects of a board are the kinds on its cells. -/
theorem mem_objects {g : Grid} {o : Object} : o ∈ g.objects ↔ o.kind ∈ (g.cell o.pos).kinds := by
  simp only [objects, List.mem_flatMap, List.mem_map]
  constructor
  · rintro ⟨p, _, k, hk, rfl⟩
    exact hk
  · intro h
    exact ⟨o.pos, mem_positions.2 (contains_of_mem_kinds h), o.kind, h, rfl⟩

/-- Every place in the row-by-row order is that of a position of the board. -/
theorem exists_index_eq {g : Grid} {i : Nat} (hi : i < g.cells.size) :
    ∃ p, g.contains p = true ∧ g.index p = i := by
  have hw := g.width_le
  have hh := g.height_le
  unfold maxDimension at hw hh
  rw [g.size_cells, Nat.mul_comm] at hi
  have hrow : i / g.width < g.height := (Nat.div_lt_iff_lt_mul g.width_pos).2 hi
  have hcol : i % g.width < g.width := Nat.mod_lt _ g.width_pos
  have row_col : g.width * (i / g.width) + i % g.width = i := Nat.div_add_mod i g.width
  -- from here on only what is known of the row and the column counts
  generalize i / g.width = row at hrow row_col
  generalize i % g.width = col at hcol row_col
  have val_row := Coord.val_clamp_natCast (show row ≤ 2147483647 by omega)
  have val_col := Coord.val_clamp_natCast (show col ≤ 2147483647 by omega)
  refine ⟨.clamp row col, contains_iff.2 ?_, ?_⟩
  · simp only [Position.clamp, val_row, val_col]
    omega
  · simp only [index, Position.clamp, val_row, val_col, Int.toNat_natCast]
    rw [Nat.mul_comm]
    exact row_col

/-- The cells of a board are those at its positions. -/
theorem mem_cells {g : Grid} {c : Cell} :
    c ∈ g.cells ↔ ∃ p, g.contains p = true ∧ g.cell p = c := by
  have at?_eq : ∀ p, g.contains p = true → g.cells[g.index p]? = some (g.cell p) := by
    intro p h
    rw [← at?_eq_some_cell h, at?, if_pos h]
  constructor
  · intro h
    obtain ⟨i, hi, rfl⟩ := Array.getElem_of_mem h
    obtain ⟨p, hp, rfl⟩ := exists_index_eq hi
    have := at?_eq p hp
    rw [Array.getElem?_eq_getElem hi] at this
    exact ⟨p, hp, (Option.some.inj this).symm⟩
  · rintro ⟨p, hp, rfl⟩
    exact Array.mem_of_getElem? (at?_eq p hp)

/-! ### Changing cells -/

/-- The board with the cell at one position changed; off the board nothing happens. -/
def modify (g : Grid) (p : Position) (f : Cell → Cell) : Grid :=
  if g.contains p then
    { g with
      cells := g.cells.modify (g.index p) f
      size_cells := by simp [g.size_cells] }
  else g

/-- Puts a kind on the cell at a position. -/
def put (g : Grid) (p : Position) (k : Kind) (facing : Option Direction) : Grid :=
  g.modify p fun c => c.put k facing

/-- Takes an object off the board. -/
def take (g : Grid) (o : Object) : Grid := g.modify o.pos fun c => c.take o.kind

/-- Takes objects off the board. -/
def takeAll (g : Grid) (objects : List Object) : Grid := objects.foldl take g

/-- Turns an object of the board. -/
def turn (g : Grid) (o : Object) (d : Direction) : Grid :=
  g.modify o.pos fun c => c.turn o.kind d

@[simp] theorem width_modify (g : Grid) (p : Position) (f : Cell → Cell) :
    (g.modify p f).width = g.width := by
  unfold modify; split <;> rfl

@[simp] theorem height_modify (g : Grid) (p : Position) (f : Cell → Cell) :
    (g.modify p f).height = g.height := by
  unfold modify; split <;> rfl

@[simp] theorem contains_modify (g : Grid) (p q : Position) (f : Cell → Cell) :
    (g.modify p f).contains q = g.contains q := by
  simp [contains]

/-- **A change at one position is seen there and nowhere else.** -/
theorem cell_modify (g : Grid) (p q : Position) (f : Cell → Cell) :
    (g.modify p f).cell q = if q = p ∧ g.contains p = true then f (g.cell q) else g.cell q := by
  cases hp : g.contains p with
  | false => simp [modify, hp]
  | true =>
    cases hq : g.contains q with
    | false =>
      -- the changed position is on the board, so it is another one
      have hqp : q ≠ p := by
        rintro rfl
        rw [hp] at hq
        cases hq
      rw [cell_of_not_contains (by simpa using hq), cell_of_not_contains hq]
      simp [hqp]
    | true =>
      -- both are on the board, where different positions have different places
      have hidx : (g.modify p f).index q = g.index q := by simp [index]
      simp only [cell, at?, contains_modify, hq, hidx, if_true]
      simp only [modify, hp, if_true, Array.getElem?_modify]
      by_cases h : q = p
      · subst h
        simp [Array.getElem?_eq_getElem (index_lt hp)]
      · have hne : g.index p ≠ g.index q := fun he => h (index_inj hq hp he.symm)
        simp [hne, h]

theorem cell_put (g : Grid) (p q : Position) (k : Kind) (facing : Option Direction) :
    (g.put p k facing).cell q =
      if q = p ∧ g.contains p = true then (g.cell q).put k facing else g.cell q :=
  cell_modify g p q _

theorem cell_take (g : Grid) (o : Object) (q : Position) :
    (g.take o).cell q =
      if q = o.pos ∧ g.contains o.pos = true then (g.cell q).take o.kind else g.cell q :=
  cell_modify g o.pos q _

theorem cell_turn (g : Grid) (o : Object) (d : Direction) (q : Position) :
    (g.turn o d).cell q =
      if q = o.pos ∧ g.contains o.pos = true then (g.cell q).turn o.kind d else g.cell q :=
  cell_modify g o.pos q _

end Grid

end RuleTiles
