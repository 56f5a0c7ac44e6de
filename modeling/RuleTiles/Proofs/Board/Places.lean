/-
**The places of a board.**

The cells of a board are kept row by row, so each place in their order belongs to one position.
This module goes from places to positions and back, and shows that positions and objects are listed
in ascending order and that a board is determined by its sides and by what lies on its cells.  So it
does not matter in which order, or how often, the same objects are taken off a board.

Main results:

* `RuleTiles.Grid.positions_eq_map_range`, `RuleTiles.Grid.toList_cells` — positions and cells,
  place by place;
* `RuleTiles.Grid.ascending_positions`, `RuleTiles.Grid.ascending_objects` — positions and objects
  are listed in their order;
* `RuleTiles.Grid.ext_cell` — **a board is determined by its sides and its cells**;
* `RuleTiles.Grid.takeAll_congr` — only which objects are taken off a board matters.
-/

import RuleTiles.Proofs.Board.Contents
import RuleTiles.Proofs.Board.Size

set_option relaxedAutoImplicit false
set_option autoImplicit false

namespace RuleTiles

/-- Positions are ordered by rows, and in a row by columns. -/
theorem Position.compare_eq_lt {p q : Position}
    (h : p.row.val < q.row.val ∨ p.row.val = q.row.val ∧ p.col.val < q.col.val) :
    compare p q = .lt := by
  change (compare p.row.val q.row.val).then (compare p.col.val q.col.val) = .lt
  rw [Ordering.then_eq_lt]
  rcases h with h | ⟨h, h'⟩
  · exact .inl (Int.compare_eq_lt.2 h)
  · rw [h]
    exact .inr ⟨Std.ReflOrd.compare_self, Int.compare_eq_lt.2 h'⟩

namespace Grid

/-! ### From places to positions -/

/-- Places in a rectangle, row by row. -/
theorem map_range_mul {α : Type} (f : Nat → Nat → α) {w : Nat} (hw : 0 < w) (h : Nat) :
    ((List.range (w * h)).map fun i => f (i / w) (i % w)) =
      (List.range h).flatMap fun r => (List.range w).map fun c => f r c := by
  induction h with
  | zero => rfl
  | succ h ih =>
      rw [Nat.mul_succ, List.range_add, List.map_append, ih, List.range_succ, List.flatMap_append,
        List.flatMap_singleton, List.map_map]
      refine congrArg _ (List.map_congr_left fun c hc => ?_)
      have hcw := List.mem_range.1 hc
      have hrow : (w * h + c) / w = h := by
        rw [Nat.mul_add_div hw, Nat.div_eq_of_lt hcw, Nat.add_zero]
      have hcol : (w * h + c) % w = c := by
        rw [Nat.mul_add_mod, Nat.mod_eq_of_lt hcw]
      simp only [Function.comp_apply, hrow, hcol]

/-- The positions of a board are those computed from the places. -/
theorem positions_eq_map_range (g : Grid) :
    g.positions =
      (List.range (g.width * g.height)).map fun i =>
        .clamp ((i / g.width : Nat) : Int) ((i % g.width : Nat) : Int) :=
  (map_range_mul (fun r c => Position.clamp r c) g.width_pos g.height).symm

/-- The position computed from a place is the one with that place. -/
theorem eq_clamp_of_index {g : Grid} {p : Position} (hp : g.contains p = true) :
    p = .clamp ((g.index p / g.width : Nat) : Int) ((g.index p % g.width : Nat) : Int) := by
  obtain ⟨hrow, hcol, hrow_lt, hcol_lt⟩ := contains_iff.1 hp
  have hcol_toNat : p.col.val.toNat < g.width := by omega
  have hquotient : g.index p / g.width = p.row.val.toNat := by
    rw [index, Nat.add_comm, Nat.add_mul_div_right _ _ g.width_pos,
      Nat.div_eq_of_lt hcol_toNat, Nat.zero_add]
  have hremainder : g.index p % g.width = p.col.val.toNat := by
    rw [index, Nat.mul_comm, Nat.mul_add_mod, Nat.mod_eq_of_lt hcol_toNat]
  rw [hquotient, hremainder, Int.toNat_of_nonneg hrow, Int.toNat_of_nonneg hcol, Position.clamp,
    Coord.clamp_val, Coord.clamp_val]

/-- The cells of a board are those at its positions, in the same order. -/
theorem toList_cells (g : Grid) : g.cells.toList = g.positions.map g.cell := by
  rw [positions_eq_map_range]
  refine List.ext_getElem ?_ fun i hi _ => ?_
  · simp [g.size_cells]
  · have hi : i < g.cells.size := hi
    obtain ⟨p, hp, hindex⟩ := exists_index_eq hi
    have hcell : g.cell p = g.cells[i] := by
      have hat := at?_eq_some_cell hp
      rw [at?, if_pos hp, hindex, Array.getElem?_eq_getElem hi] at hat
      exact (Option.some.inj hat).symm
    simp only [List.getElem_map, List.getElem_range, Array.getElem_toList]
    rw [← hcell, eq_clamp_of_index hp, hindex]

/-- Positions and cells side by side are each position with its cell. -/
theorem zip_cells (g : Grid) :
    g.positions.zip g.cells.toList = g.positions.map fun p => (p, g.cell p) := by
  rw [toList_cells, List.map_prod_left_eq_zip]

/-- **A board is determined by its sides and its cells.** -/
theorem ext_cell {g h : Grid} (hsize : SameSize g h) (hcell : ∀ p, g.cell p = h.cell p) :
    g = h := by
  have hpositions : g.positions = h.positions := by
    rw [positions, positions, hsize.width, hsize.height]
  have hlist : g.cells.toList = h.cells.toList := by
    rw [toList_cells, toList_cells, hpositions]
    exact List.map_congr_left fun p _ => hcell p
  have hcells : g.cells = h.cells := Array.toList_inj.1 hlist
  obtain ⟨hwidth, hheight⟩ := hsize
  cases g
  cases h
  cases hwidth
  cases hheight
  cases hcells
  rfl

/-! ### Order -/

/-- The positions of a board are listed by rows, and in a row by columns. -/
theorem ascending_positions (g : Grid) :
    g.positions.Pairwise fun p q => compare p q = .lt := by
  have hw := g.width_le
  have hh := g.height_le
  unfold maxDimension at hw hh
  refine List.pairwise_flatMap.2 ⟨fun row hrow => ?_, ?_⟩
  · refine List.pairwise_map.2 ?_
    refine List.pairwise_lt_range.imp_of_mem fun {col col'} hcol hcol' hlt => ?_
    rw [List.mem_range] at hrow hcol hcol'
    refine Position.compare_eq_lt (.inr ⟨rfl, ?_⟩)
    simp only [Position.clamp]
    rw [Coord.val_clamp_natCast (by omega), Coord.val_clamp_natCast (by omega)]
    omega
  · refine List.pairwise_lt_range.imp_of_mem fun {row row'} hrow hrow' hlt => ?_
    rw [List.mem_range] at hrow hrow'
    intro p hp q hq
    obtain ⟨col, -, rfl⟩ := List.mem_map.1 hp
    obtain ⟨col', -, rfl⟩ := List.mem_map.1 hq
    refine Position.compare_eq_lt (.inl ?_)
    simp only [Position.clamp]
    rw [Coord.val_clamp_natCast (by omega), Coord.val_clamp_natCast (by omega)]
    omega

/-- Its objects are listed by their positions, and at a position by the catalog. -/
theorem ascending_objects (g : Grid) : g.objects.Pairwise fun a b => compare a b = .lt := by
  refine List.pairwise_flatMap.2 ⟨fun p _ => ?_, g.ascending_positions.imp fun {p q} hpq => ?_⟩
  · refine List.pairwise_map.2 ((g.cell p).contents.keys_ascending.imp fun {k k'} hk => ?_)
    change (compare p p).then (compare k k') = .lt
    rw [Ordering.then_eq_lt]
    exact .inr ⟨Std.ReflOrd.compare_self, hk⟩
  · intro a ha b hb
    obtain ⟨k, -, rfl⟩ := List.mem_map.1 ha
    obtain ⟨k', -, rfl⟩ := List.mem_map.1 hb
    change (compare p q).then (compare k k') = .lt
    rw [Ordering.then_eq_lt]
    exact .inl hpq

/-! ### Taking objects off a board -/

theorem get?_take (g : Grid) (o : Object) (q : Position) (k : Kind) :
    ((g.take o).cell q).get? k = if (⟨q, k⟩ : Object) = o then none else (g.cell q).get? k := by
  rw [cell_take]
  split
  · rename_i h
    obtain ⟨rfl, _⟩ := h
    rw [Cell.get?_take]
    simp [Object.ext_iff]
  · rename_i h
    split
    · -- the object would be off the board, where nothing lies
      rename_i ho
      subst ho
      have hoff : g.contains q = false := by simpa using h
      rw [cell_of_not_contains hoff, Cell.get?_empty]
    · rfl

theorem get?_takeAll (g : Grid) (objects : List Object) (q : Position) (k : Kind) :
    ((g.takeAll objects).cell q).get? k =
      if (⟨q, k⟩ : Object) ∈ objects then none else (g.cell q).get? k := by
  induction objects generalizing g with
  | nil => simp [takeAll]
  | cons o rest ih =>
      rw [takeAll, List.foldl_cons, ← takeAll, ih, get?_take]
      by_cases ho : (⟨q, k⟩ : Object) = o
      · simp [ho]
      · simp [ho]

/-- **Only which objects are taken off a board matters**, not in which order or how often. -/
theorem takeAll_congr (g : Grid) {os os' : List Object} (h : ∀ o, o ∈ os ↔ o ∈ os') :
    g.takeAll os = g.takeAll os' := by
  have hsize := sameSize_takeAll g os
  have hsize' := sameSize_takeAll g os'
  refine ext_cell ⟨hsize.width.symm.trans hsize'.width, hsize.height.symm.trans hsize'.height⟩ ?_
  intro q
  refine Cell.ext_get? fun k => ?_
  rw [get?_takeAll, get?_takeAll]
  simp only [h]

end Grid

end RuleTiles
