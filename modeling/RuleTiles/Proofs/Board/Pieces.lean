/-
**Boards made of pieces.**

A board that is read from a text is given by pieces, cell by cell.  The pieces of a cell are put on
it one after another.  What comes of them does not depend on how this is done: the cell holds the
kinds that occur among its pieces and can be placed, and each of them faces as the last piece says
that gives it a facing.

Main definitions:

* `RuleTiles.Piece.lastFacing` — the facing that pieces give to a kind;
* `RuleTiles.Cell.Holds`, `RuleTiles.Grid.Shows` — **a cell, and a board, hold what pieces say**;
* `RuleTiles.Grid.rows` — the cells of a board, row by row.

Main results:

* `RuleTiles.Cell.holds_iff` — the cell that holds what pieces say is the one on which they are put;
* `RuleTiles.Grid.flatten_rows` — the rows of a board hold its cells in their order;
* `RuleTiles.Grid.shows_iff` — the board that holds what pieces say has the cells they make.
-/

import Mathlib.Data.List.Forall2
import RuleTiles.Proofs.Board.Facings

set_option relaxedAutoImplicit false
set_option autoImplicit false

namespace RuleTiles

/-! ### One cell -/

/-- The facing that pieces give to a kind: the last one that any of them gives it. -/
def Piece.lastFacing (pieces : List Piece) (k : Kind) : Option Direction :=
  ((pieces.filter fun x => x.kind = k).filterMap Piece.facing).getLast?

theorem Piece.lastFacing_append_singleton (pieces : List Piece) (x : Piece) (k : Kind) :
    lastFacing (pieces ++ [x]) k =
      if x.kind = k then x.facing.or (lastFacing pieces k) else lastFacing pieces k := by
  unfold lastFacing
  rw [List.filter_append, List.filterMap_append, List.getLast?_append]
  by_cases hx : x.kind = k
  · cases hfacing : x.facing with
    | none => simp [hx, hfacing]
    | some d => simp [hx, hfacing]
  · simp [hx]

namespace Cell

/-- **A cell holds what pieces say**: the kinds that occur among them and can be placed, each facing
as the last piece says that gives it a facing. -/
structure Holds (c : Cell) (pieces : List Piece) : Prop where
  kinds : ∀ k, k ∈ c.kinds ↔ k.isPlaceable = true ∧ ∃ x ∈ pieces, x.kind = k
  facing : ∀ k, k.isPlaceable = true → c.facing k = Piece.lastFacing pieces k

theorem facing_put (c : Cell) (k x : Kind) (facing : Option Direction) :
    (c.put k facing).facing x =
      if x = k ∧ k.isPlaceable = true then facing.or (c.facing k) else c.facing x := by
  rw [Cell.facing, get?_put]
  split
  · rfl
  · rfl

theorem facing_of_not_mem_kinds {c : Cell} {k : Kind} (h : k ∉ c.kinds) : c.facing k = none := by
  rw [Cell.facing, get?_eq_none_iff.2 h]
  rfl

/-- The pieces that are put on a cell are what it holds. -/
theorem holds_ofPieces (pieces : List Piece) : (ofPieces pieces).Holds pieces := by
  induction pieces using List.reverseRecOn with
  | nil => exact ⟨by simp [ofPieces], fun _ _ => rfl⟩
  | append_singleton pieces x ih =>
      have hput : ofPieces (pieces ++ [x]) = (ofPieces pieces).put x.kind x.facing := by
        rw [ofPieces, List.foldl_append]
        rfl
      rw [hput]
      constructor
      · intro k
        rw [mem_kinds_put, ih.kinds]
        simp only [List.mem_append, List.mem_singleton]
        constructor
        · rintro (⟨hk, y, hy, rfl⟩ | ⟨rfl, hk⟩)
          · exact ⟨hk, y, .inl hy, rfl⟩
          · exact ⟨hk, x, .inr rfl, rfl⟩
        · rintro ⟨hk, y, hy | rfl, rfl⟩
          · exact .inl ⟨hk, y, hy, rfl⟩
          · exact .inr ⟨rfl, hk⟩
      · intro k hk
        rw [facing_put, Piece.lastFacing_append_singleton]
        by_cases hx : x.kind = k
        · subst hx
          rw [if_pos ⟨rfl, hk⟩, if_pos rfl, ih.facing _ hk]
        · rw [if_neg fun h => hx h.1.symm, if_neg hx, ih.facing _ hk]

/-- **The cell that holds what pieces say is the one on which they are put.** -/
theorem holds_iff {c : Cell} {pieces : List Piece} : c.Holds pieces ↔ c = ofPieces pieces := by
  constructor
  · intro h
    have hpieces := holds_ofPieces pieces
    have hkinds : ∀ k, k ∈ c.kinds ↔ k ∈ (ofPieces pieces).kinds := fun k =>
      (h.kinds k).trans (hpieces.kinds k).symm
    refine ext_facing hkinds fun k => ?_
    by_cases hk : k.isPlaceable = true
    · rw [h.facing k hk, hpieces.facing k hk]
    · -- such a kind lies on no cell
      have hc : k ∉ c.kinds := fun hmem => hk (isPlaceable_of_mem_kinds hmem)
      rw [facing_of_not_mem_kinds hc, facing_of_not_mem_kinds (mt (hkinds k).2 hc)]
  · rintro rfl
    exact holds_ofPieces pieces

end Cell

/-! ### Rows of cells -/

namespace Grid

/-- The cells of a board, row by row. -/
def rows (g : Grid) : List (List Cell) :=
  (List.range g.height).map fun (row : Nat) =>
    (List.range g.width).map fun (col : Nat) => g.cell (.clamp row col)

/-- **A board holds what pieces say**, cell by cell in each of its rows. -/
def Shows (g : Grid) (rows : List (List (List Piece))) : Prop :=
  List.Forall₂ (List.Forall₂ Cell.Holds) g.rows rows

/-- The rows of a board hold its cells in their order. -/
theorem flatten_rows (g : Grid) : g.rows.flatten = g.cells.toList := by
  rw [toList_cells, positions, List.map_flatMap, rows, List.flatMap_def]
  simp only [List.map_map, Function.comp_def]

theorem map_length_rows (g : Grid) : g.rows.map List.length = List.replicate g.height g.width := by
  simp [rows, Function.comp_def]

/-- **The board that holds what pieces say has the cells they make**, when there are as many rows of
as many cells. -/
theorem shows_iff {g : Grid} {rows : List (List (List Piece))} (hheight : rows.length = g.height)
    (hwidth : ∀ row ∈ rows, row.length = g.width) :
    g.Shows rows ↔ g.cells.toList = rows.flatten.map .ofPieces := by
  have hcell : Cell.Holds = fun c pieces => c = .ofPieces pieces :=
    funext fun c => funext fun pieces => propext Cell.holds_iff
  have hrow : List.Forall₂ Cell.Holds = fun cells pieces => cells = pieces.map .ofPieces := by
    funext cells pieces
    rw [hcell, ← List.forall₂_map_right_iff, List.forall₂_eq_eq_eq]
  have hlength : g.rows.map List.length =
      (rows.map (List.map Cell.ofPieces)).map List.length := by
    rw [map_length_rows, List.map_map, ← hheight, eq_comm]
    refine List.eq_replicate_iff.2 ⟨List.length_map .., fun n hn => ?_⟩
    obtain ⟨row, hmem, rfl⟩ := List.mem_map.1 hn
    simpa using hwidth row hmem
  rw [Shows, hrow, ← List.forall₂_map_right_iff, List.forall₂_eq_eq_eq, List.eq_iff_flatten_eq,
    flatten_rows, List.map_flatten]
  exact and_iff_left hlength

end Grid

end RuleTiles
