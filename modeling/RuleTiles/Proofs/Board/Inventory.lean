/-
**A board as a table of objects.**

A board keeps its cells row by row, and each cell keeps the kinds that lie on it.  To a caller it is
one table with at most one entry for each kind at each position, which is the facing of the object
if it has one.  A request on a board changes one entry of the table or fails, and each question
about the board has the answer that the table gives, no matter whether a cell is looked up by its
position or all cells are gone through place by place.

Main definitions:

* `RuleTiles.Edit`, `RuleTiles.Grid.edited` — requests, and what they make of a board;
* `RuleTiles.Inventory`, `RuleTiles.Inventory.edited` — tables, and what requests make of them;
* `RuleTiles.Inventory.Has` — what a table says of a kind at a position;
* `RuleTiles.Grid.Represents` — **a board gives the answers of a table**.

Main results:

* `RuleTiles.Grid.Tallies.represents` — the entries of its cells decide what a board answers;
* `RuleTiles.Grid.Tallies.edited`, `RuleTiles.Grid.Tallies.foldl` — one request, and any number of
  them;
* `RuleTiles.Grid.refines_inventory` — **a board gives the answers of the table it should**, after
  any requests, made from cells, read from a record, and after a turn.
-/

import RuleTiles.Grid.Access
import RuleTiles.Proofs.Board.Facings
import RuleTiles.Proofs.Checked.Board
import RuleTiles.Proofs.Results
import RuleTiles.Record.Board

set_option relaxedAutoImplicit false
set_option autoImplicit false

namespace RuleTiles

/-! ### Kinds that stand for others -/

theorem Kind.isPlaceable_iff {k : Kind} :
    k.isPlaceable = true ↔ k ≠ .icon .empty ∧ k ≠ .icon .text := by
  unfold isPlaceable
  split <;> simp_all

namespace Cell

theorem has_empty_iff {c : Cell} : c.has (.icon .empty) = true ↔ ∀ k, k ∉ c.kinds := by
  have hkinds : c.has (.icon .empty) = true ↔ c.kinds = [] := by
    simp [has, isEmpty, SortedMap.isEmpty, kinds, SortedMap.keys]
  rw [hkinds, List.eq_nil_iff_forall_not_mem]

theorem has_text_iff {c : Cell} :
    c.has (.icon .text) = true ↔ ∃ k : Kind, k.isText = true ∧ k ∈ c.kinds := by
  rw [has, List.any_eq_true]
  simp only [and_comm]

end Cell

/-! ### Requests -/

/-- A request on a board: to place a kind at a position, with a facing or without one, or to remove
it from there. -/
inductive Edit
  | place (p : Position) (k : Kind) (facing : Option Direction)
  | remove (p : Position) (k : Kind)
  deriving DecidableEq

/-- The position that a request names. -/
def Edit.pos : Edit → Position
  | place p _ _ => p
  | remove p _ => p

namespace Grid

/-- What comes of a request on a board. -/
def edit (g : Grid) : Edit → Except OutOfBounds Grid
  | .place p k facing => g.place p k facing
  | .remove p k => g.remove p k

/-- The board after a request; one that fails leaves the board as it was. -/
def edited (g : Grid) (e : Edit) : Grid :=
  match g.edit e with
  | .ok after => after
  | .error _ => g

end Grid

/-! ### Tables of objects -/

/-- A table of objects: for a kind at a position it may have an entry, which is the facing of the
object if it has one. -/
abbrev Inventory := SortedMap Object (Option Direction)

/-- Whether a position lies on a board with the given sides. -/
def OnBoard (width height : Nat) (p : Position) : Prop :=
  (0 ≤ p.row.val ∧ p.row.val < height) ∧ (0 ≤ p.col.val ∧ p.col.val < width)

instance (width height : Nat) (p : Position) : Decidable (OnBoard width height p) :=
  inferInstanceAs (Decidable (_ ∧ _))

namespace Inventory

/-- A request on a table.  The icons `empty` and `text` are never entered; a facing that is not
given stays as it is known, and is forgotten with its entry. -/
def entered (m : Inventory) : Edit → Inventory
  | .place p k facing =>
    if k = .icon .empty ∨ k = .icon .text then m
    else m.insert ⟨p, k⟩ (facing.or (m.get? ⟨p, k⟩).join)
  | .remove p k => m.erase ⟨p, k⟩

/-- The table of a board with the given sides after a request; one that names a position off the
board changes nothing. -/
def edited (width height : Nat) (m : Inventory) (e : Edit) : Inventory :=
  if OnBoard width height e.pos then m.entered e else m

/-- What a table says of a kind at a position: `empty` asks for no entry at all, and `text` for some
word. -/
def Has (m : Inventory) (p : Position) (k : Kind) : Prop :=
  if k = .icon .empty then ∀ x, (⟨p, x⟩ : Object) ∉ m.keys
  else if k = .icon .text then ∃ x : Kind, x.isText = true ∧ (⟨p, x⟩ : Object) ∈ m.keys
  else (⟨p, k⟩ : Object) ∈ m.keys

theorem edited_of_onBoard {w h : Nat} (m : Inventory) (e : Edit) (he : OnBoard w h e.pos) :
    m.edited w h e = m.entered e :=
  if_pos he

theorem edited_of_not_onBoard {w h : Nat} (m : Inventory) (e : Edit) (he : ¬OnBoard w h e.pos) :
    m.edited w h e = m :=
  if_neg he

theorem get?_place (m : Inventory) (w h : Nat) (p : Position) (x : Kind)
    (facing : Option Direction) (q : Position) (k : Kind) :
    (m.edited w h (.place p x facing)).get? ⟨q, k⟩ =
      if (p = q ∧ x = k) ∧ OnBoard w h q ∧ k.isPlaceable = true then
        some (facing.or (m.get? ⟨q, k⟩).join)
      else m.get? ⟨q, k⟩ := by
  by_cases hp : OnBoard w h p
  · rw [m.edited_of_onBoard (.place p x facing) hp, entered]
    by_cases hx : x = .icon .empty ∨ x = .icon .text
    · -- a kind that is never entered
      rw [if_pos hx, if_neg]
      rintro ⟨⟨-, rfl⟩, -, hk⟩
      exact not_or.2 (Kind.isPlaceable_iff.1 hk) hx
    · rw [if_neg hx, SortedMap.get?_insert]
      by_cases ho : p = q ∧ x = k
      · obtain ⟨rfl, rfl⟩ := ho
        rw [if_pos rfl, if_pos ⟨⟨rfl, rfl⟩, hp, Kind.isPlaceable_iff.2 (not_or.1 hx)⟩]
      · rw [if_neg fun h => ho (by cases h; exact ⟨rfl, rfl⟩), if_neg fun h => ho h.1]
  · rw [m.edited_of_not_onBoard (.place p x facing) hp, if_neg]
    rintro ⟨⟨rfl, -⟩, hq, -⟩
    exact hp hq

theorem get?_remove (m : Inventory) (w h : Nat) (p : Position) (x : Kind) (q : Position)
    (k : Kind) :
    (m.edited w h (.remove p x)).get? ⟨q, k⟩ =
      if (⟨q, k⟩ : Object) = ⟨p, x⟩ ∧ OnBoard w h q then none else m.get? ⟨q, k⟩ := by
  by_cases hp : OnBoard w h p
  · rw [m.edited_of_onBoard (.remove p x) hp, entered, SortedMap.get?_erase]
    by_cases ho : (⟨q, k⟩ : Object) = ⟨p, x⟩
    · cases ho
      rw [if_pos rfl, if_pos ⟨rfl, hp⟩]
    · rw [if_neg ho, if_neg fun h => ho h.1]
  · rw [m.edited_of_not_onBoard (.remove p x) hp, if_neg]
    rintro ⟨ho, hq⟩
    cases ho
    exact hp hq

end Inventory

namespace Grid

/-- **A board gives the answers of a table.**  Each answer is the same when it is computed as a
machine does it, which finds cells by their places and stops when there is none at a place. -/
structure Represents (w h : Nat) (g : Grid) (m : Inventory) : Prop where
  width : g.width = w
  height : g.height = h
  /-- There is a cell for each place. -/
  size : g.cells.size = w * h
  /-- Entries are for positions on the board, and none is for an icon that stands for others. -/
  stored : ∀ o ∈ m.keys, OnBoard w h o.pos ∧ o.kind ≠ .icon .empty ∧ o.kind ≠ .icon .text
  /-- The cell at a position on the board has the entries for that position. -/
  access : ∀ p, OnBoard w h p → ∃ c : Cell,
    (g.access p = .ok c ∧ Checked.fetch g p = .ok (some c)) ∧
      ∀ k, (c.has k = true ↔ m.Has p k) ∧ c.get? k = m.get? ⟨p, k⟩ ∧
        c.facing k = (m.get? ⟨p, k⟩).join
  /-- There is no cell off the board. -/
  outside : ∀ p, ¬OnBoard w h p → g.access p = .error ⟨p, w, h⟩ ∧ Checked.fetch g p = .ok none
  /-- The objects are those with an entry, by rows, by columns and by the catalog. -/
  objects : g.objects = m.keys ∧ Checked.objects g = .ok m.keys
  /-- A kind is found at the positions of which the table says that they hold it, by rows and by
  columns. -/
  positionsOf : ∀ k, (g.positionsOf k).Pairwise (fun p q => compare p q = .lt) ∧
    (∀ p, p ∈ g.positionsOf k ↔ OnBoard w h p ∧ m.Has p k) ∧
      Checked.positionsOf g k = .ok (g.positionsOf k)
  /-- A kind is found somewhere when there is such a position. -/
  hasAny : ∀ k, g.hasAny k = true ↔ ∃ p, OnBoard w h p ∧ m.Has p k

/-! ### Answers -/

/-- The cells of a board have the entries of a table. -/
def Tallies (g : Grid) (m : Inventory) : Prop := ∀ p k, (g.cell p).get? k = m.get? ⟨p, k⟩

theorem contains_iff_onBoard {g : Grid} {p : Position} :
    g.contains p = true ↔ OnBoard g.width g.height p := by
  rw [contains_iff, OnBoard]
  omega

section Answers

variable {g : Grid} {m : Inventory}

theorem Tallies.mem_keys (h : Tallies g m) {p : Position} {k : Kind} :
    (⟨p, k⟩ : Object) ∈ m.keys ↔ k ∈ (g.cell p).kinds := by
  rw [SortedMap.mem_keys, Cell.mem_kinds, h]

/-- What lies on a cell is what the table says of its position. -/
theorem Tallies.has (h : Tallies g m) (p : Position) (k : Kind) :
    (g.cell p).has k = true ↔ m.Has p k := by
  unfold Inventory.Has
  by_cases hempty : k = .icon .empty
  · subst hempty
    rw [if_pos rfl]
    simp only [h.mem_keys]
    exact Cell.has_empty_iff
  · rw [if_neg hempty]
    by_cases htext : k = .icon .text
    · subst htext
      rw [if_pos rfl]
      simp only [h.mem_keys]
      exact Cell.has_text_iff
    · rw [if_neg htext, h.mem_keys, Cell.has_iff_mem_kinds (Kind.isPlaceable_iff.2 ⟨hempty, htext⟩)]

/-- **The entries of its cells decide what a board answers.** -/
theorem Tallies.represents (h : Tallies g m) : Represents g.width g.height g m where
  width := rfl
  height := rfl
  size := g.size_cells
  stored := by
    rintro ⟨p, k⟩ ho
    have hk := h.mem_keys.1 ho
    exact ⟨contains_iff_onBoard.1 (contains_of_mem_kinds hk),
      Kind.isPlaceable_iff.1 (Cell.isPlaceable_of_mem_kinds hk)⟩
  access := by
    intro p hp
    have hcontains := contains_iff_onBoard.2 hp
    refine ⟨g.cell p, ⟨access_eq_ok_iff.2 ⟨hcontains, rfl⟩, ?_⟩, fun k => ⟨h.has p k, h p k, ?_⟩⟩
    · rw [Checked.fetch_eq, at?_eq_some_cell hcontains]
      rfl
    · rw [Cell.facing, h]
  outside := by
    intro p hp
    have hcontains : g.contains p = false := by
      rw [← Bool.not_eq_true, contains_iff_onBoard]
      exact hp
    refine ⟨?_, ?_⟩
    · rw [Grid.access, guarded, hcontains]
      rfl
    · rw [Checked.fetch_eq, at?_eq_none_iff.2 hcontains]
      rfl
  objects := by
    have hobjects : g.objects = m.keys :=
      Ascending.eq_of_mem_iff Ascending.asymm g.ascending_objects m.keys_ascending fun o =>
        mem_objects.trans h.mem_keys.symm
    exact ⟨hobjects, by rw [Checked.objects_eq, hobjects]; rfl⟩
  positionsOf := by
    intro k
    refine ⟨g.ascending_positions.filter _, fun p => ?_, Checked.positionsOf_eq g k⟩
    rw [Grid.positionsOf, List.mem_filter, mem_positions, contains_iff_onBoard, h.has]
  hasAny := by
    intro k
    rw [Grid.hasAny, Array.any_eq_true']
    simp only [mem_cells, ← h.has, ← contains_iff_onBoard]
    constructor
    · rintro ⟨c, ⟨p, hp, rfl⟩, hc⟩
      exact ⟨p, hp, hc⟩
    · rintro ⟨p, hp, hc⟩
      exact ⟨_, ⟨p, hp, rfl⟩, hc⟩

/-! ### Requests one after another -/

theorem edited_place (g : Grid) (p : Position) (k : Kind) (facing : Option Direction) :
    g.edited (.place p k facing) = g.put p k facing := by
  unfold edited edit place guarded put modify
  by_cases hp : g.contains p = true
  · simp only [if_pos hp]
  · simp only [if_neg hp]

theorem edited_remove (g : Grid) (p : Position) (k : Kind) :
    g.edited (.remove p k) = g.take ⟨p, k⟩ := by
  unfold edited edit remove guarded take modify
  by_cases hp : g.contains p = true
  · simp only [if_pos hp]
  · simp only [if_neg hp]

/-- A request fails just when it names a position off the board. -/
theorem edit_eq (g : Grid) (e : Edit) :
    g.edit e = if OnBoard g.width g.height e.pos then .ok (g.edited e)
      else .error ⟨e.pos, g.width, g.height⟩ := by
  by_cases hp : g.contains e.pos = true
  · rw [if_pos (contains_iff_onBoard.1 hp)]
    cases e with
    | place p k facing => rw [edited_place]; exact place_eq_ok_iff.2 ⟨hp, rfl⟩
    | remove p k => rw [edited_remove]; exact remove_eq_ok_iff.2 ⟨hp, rfl⟩
  · rw [if_neg (mt contains_iff_onBoard.2 hp)]
    cases e with
    | place p k facing => exact if_neg hp
    | remove p k => exact if_neg hp

theorem sameSize_edited (g : Grid) (e : Edit) : SameSize g (g.edited e) := by
  cases e with
  | place p k facing => rw [edited_place]; exact sameSize_put g p k facing
  | remove p k => rw [edited_remove]; exact sameSize_take g ⟨p, k⟩

/-- **One request** changes the same entry of a board and of its table. -/
theorem Tallies.edited (h : Tallies g m) (e : Edit) :
    Tallies (g.edited e) (m.edited g.width g.height e) := by
  intro q k
  cases e with
  | place p x facing =>
      rw [edited_place, get?_put, h, Inventory.get?_place]
      simp only [contains_iff_onBoard]
  | remove p x =>
      rw [edited_remove, get?_take, h, Inventory.get?_remove]
      by_cases hq : OnBoard g.width g.height q
      · simp [hq]
      · -- off the board there is nothing to remove
        have hnone : m.get? ⟨q, k⟩ = none := by
          rw [← h]
          exact get?_eq_none fun hin => hq (contains_iff_onBoard.1 hin.1)
        simp [hnone]

/-- **Any number of requests** change the same entries. -/
theorem Tallies.foldl (h : Tallies g m) (edits : List Edit) :
    SameSize g (edits.foldl Grid.edited g) ∧
      Tallies (edits.foldl Grid.edited g)
        (edits.foldl (Inventory.edited g.width g.height) m) := by
  induction edits generalizing g m with
  | nil => exact ⟨.refl g, h⟩
  | cons e edits ih =>
      have hsize := sameSize_edited g e
      obtain ⟨hrest, hentries⟩ := ih (h.edited e)
      rw [← hsize.width, ← hsize.height] at hentries
      exact ⟨hsize.trans hrest, hentries⟩

end Answers

/-! ### The table of a board -/

/-- The table of what lies on a board. -/
def inventory (g : Grid) : Inventory where
  entries := g.objects.map fun o => (o, (g.cell o.pos).facing o.kind)
  ascending := List.pairwise_map.2 g.ascending_objects

theorem tallies_inventory (g : Grid) : Tallies g g.inventory := by
  intro p k
  refine Option.ext fun facing => ?_
  rw [SortedMap.get?_eq_some_iff]
  simp only [inventory, List.mem_map, Prod.mk.injEq]
  constructor
  · intro hget
    refine ⟨⟨p, k⟩, mem_objects.2 (Cell.mem_kinds.2 (by rw [hget]; rfl)), rfl, ?_⟩
    rw [Cell.facing, hget]
    rfl
  · rintro ⟨_, ho, rfl, hfacing⟩
    have hk := Cell.mem_kinds.1 (mem_objects.1 ho)
    obtain ⟨found, hfound⟩ := Option.isSome_iff_exists.1 hk
    rw [Cell.facing, hfound] at hfacing
    rw [hfound, ← hfacing]
    rfl

/-! ### Boards that are made -/

/-- Sides and cells fit together when no side is zero or greater than the largest and there is a
cell for each place. -/
theorem exists_ofCells_eq_ok_iff {w h : Nat} {cells : Array Cell} :
    (∃ g, ofCells w h cells = .ok g) ↔
      ((1 ≤ w ∧ w ≤ 256) ∧ (1 ≤ h ∧ h ≤ 256)) ∧ cells.size = w * h := by
  constructor
  · rintro ⟨g, hg⟩
    obtain ⟨rfl, rfl, rfl⟩ := ofCells_eq_ok_iff.1 hg
    exact ⟨⟨⟨g.width_pos, g.width_le⟩, g.height_pos, g.height_le⟩, g.size_cells⟩
  · rintro ⟨⟨hw, hh⟩, hsize⟩
    exact ⟨.ofFitting w h cells ⟨⟨hw.1, hh.1⟩, ⟨hw.2, hh.2⟩, hsize⟩,
      ofCells_eq_ok_iff.2 ⟨rfl, rfl, rfl⟩⟩

/-- The cell at a position of a board that is made from cells is the one at its place. -/
theorem getElem?_of_ofCells {w h : Nat} {cells : Array Cell} {g : Grid}
    (hg : ofCells w h cells = .ok g) {p : Position} (hp : OnBoard w h p) :
    cells[p.row.val.toNat * w + p.col.val.toNat]? = some (g.cell p) := by
  obtain ⟨rfl, rfl, rfl⟩ := ofCells_eq_ok_iff.1 hg
  have hcontains := contains_iff_onBoard.2 hp
  rw [← at?_eq_some_cell hcontains, at?, if_pos hcontains]
  rfl

theorem represents_of_ofCells {w h : Nat} {cells : Array Cell} {g : Grid}
    (hg : ofCells w h cells = .ok g) : Represents w h g g.inventory := by
  obtain ⟨rfl, rfl, -⟩ := ofCells_eq_ok_iff.1 hg
  exact g.tallies_inventory.represents

/-- On a blank board there is nothing. -/
theorem exists_blank_eq {w h : Nat} (hw : 1 ≤ w ∧ w ≤ 256) (hh : 1 ≤ h ∧ h ≤ 256) :
    ∃ g, blank w h = .ok g ∧ (g.width = w ∧ g.height = h) ∧ Tallies g .empty := by
  have hcells : (Array.replicate (w * h) Cell.empty).size = w * h := Array.size_replicate
  obtain ⟨g, hg⟩ := exists_ofCells_eq_ok_iff.2 ⟨⟨hw, hh⟩, hcells⟩
  obtain ⟨hwidth, hheight, hempty⟩ := ofCells_eq_ok_iff.1 hg
  refine ⟨g, ?_, ⟨hwidth, hheight⟩, fun p k => ?_⟩
  · rw [blank, if_neg (by omega), if_neg (by rw [maxDimension]; omega), hg]
  · have hcell : g.cell p = .empty := by
      by_cases hp : g.contains p = true
      · have hmem := mem_cells.2 ⟨p, hp, rfl⟩
        rw [hempty] at hmem
        exact (Array.mem_replicate.1 hmem).2
      · exact cell_of_not_contains (by simpa using hp)
    rw [hcell]
    rfl

/-- A board that is read from a record is made from the cells that the record lists. -/
theorem exists_cells_of_record {d : Json.Draft} {g : Grid} (hg : Record.grid d = .ok g) :
    ∃ cells, Record.triple "width" "height" "cells" (Record.natural Record.maxWord)
        (Record.natural Record.maxWord) (Record.list Record.cell) d =
          .ok (g.width, g.height, cells) ∧
      ofCells g.width g.height cells.toArray = .ok g := by
  obtain ⟨⟨w, h, cells⟩, hread, hmake⟩ := bind_eq_ok_iff.1 hg
  replace hmake : Record.makeGrid w h cells = .ok g := hmake
  unfold Record.makeGrid at hmake
  split at hmake
  · rename_i hmade
    cases hmake
    obtain ⟨rfl, rfl, -⟩ := ofCells_eq_ok_iff.1 hmade
    exact ⟨cells, hread, hmade⟩
  · cases hmake

/-- **A board gives the answers of the table it should.**  A blank board does after any requests,
each of which fails just when it names a position off the board; so does a board that is made from
cells, of which there have to be as many as it has places; a board that is read from a record; and,
with the same sides, the board after a turn. -/
theorem refines_inventory :
    (∀ w h, (1 ≤ w ∧ w ≤ 256) ∧ (1 ≤ h ∧ h ≤ 256) → ∃ g, blank w h = .ok g ∧
      ∀ edits : List Edit,
        Represents w h (edits.foldl edited g) (edits.foldl (Inventory.edited w h) .empty) ∧
        ∀ e, (edits.foldl edited g).edit e =
          if OnBoard w h e.pos then .ok ((edits ++ [e]).foldl edited g)
          else .error ⟨e.pos, w, h⟩) ∧
    (∀ w h cells,
      ((∃ g, ofCells w h cells = .ok g) ↔
        ((1 ≤ w ∧ w ≤ 256) ∧ (1 ≤ h ∧ h ≤ 256)) ∧ cells.size = w * h) ∧
      ∀ g, ofCells w h cells = .ok g → Represents w h g g.inventory ∧
        ∀ p, OnBoard w h p →
          ∃ c, cells[p.row.val.toNat * w + p.col.val.toNat]? = some c ∧
            ∀ k, g.inventory.get? ⟨p, k⟩ = c.get? k) ∧
    (∀ d g, Record.grid d = .ok g →
      (∃ cells, Record.triple "width" "height" "cells" (Record.natural Record.maxWord)
          (Record.natural Record.maxWord) (Record.list Record.cell) d =
            .ok (g.width, g.height, cells) ∧
        ofCells g.width g.height cells.toArray = .ok g) ∧
      Represents g.width g.height g g.inventory) ∧
    ∀ w h g m rules d gen, Represents w h g m →
      Represents w h (g.resolve rules d gen).grid (g.resolve rules d gen).grid.inventory := by
  refine ⟨?_, ?_, ?_, ?_⟩
  · rintro w h ⟨hw, hh⟩
    obtain ⟨g, hg, ⟨rfl, rfl⟩, hempty⟩ := exists_blank_eq hw hh
    refine ⟨g, hg, fun edits => ?_⟩
    obtain ⟨hsize, hentries⟩ := hempty.foldl edits
    refine ⟨?_, fun e => ?_⟩
    · have hanswers := hentries.represents
      rwa [← hsize.width, ← hsize.height] at hanswers
    · rw [edit_eq, List.foldl_append, ← hsize.width, ← hsize.height]
      rfl
  · intro w h cells
    refine ⟨exists_ofCells_eq_ok_iff, fun g hg => ⟨represents_of_ofCells hg, fun p hp => ?_⟩⟩
    exact ⟨_, getElem?_of_ofCells hg hp, fun k => (g.tallies_inventory p k).symm⟩
  · intro d g hg
    exact ⟨exists_cells_of_record hg, g.tallies_inventory.represents⟩
  · rintro w h g m rules d gen hg
    obtain ⟨rfl, rfl⟩ := And.intro hg.width hg.height
    have hsize := sameSize_resolve g rules d gen
    rw [hsize.width, hsize.height]
    exact (tallies_inventory _).represents

/-- A facing stays when its kind is placed again without one, `empty` is not entered, and the last
request names no position of the board. -/
example :
    ([.place (.clamp 0 1) (.icon .rock) (some .left), .place (.clamp 0 1) (.icon .rock) none,
        .place (.clamp 0 0) (.icon .empty) none,
        .place (.clamp 1 0) (.icon .rock) none].foldl edited
      (.ofFitting 2 1 #[.empty, .empty] (by decide))).inventory.entries =
      [(⟨.clamp 0 1, .icon .rock⟩, some .left)] := by
  decide +kernel

end Grid

end RuleTiles
