/-
**The contents of one cell.**

A cell holds each kind at most once.  An object on a cell may face a direction; it has none until
it first moves or is given one.  The icons `empty` and `text` are never held: they are answered
for by the other contents, `empty` when there are none and `text` when there is a word tile.

Main definitions:

* `RuleTiles.Piece` — a kind with the facing it is given, if any;
* `RuleTiles.Cell` — a map from placeable kinds to facings;
* `RuleTiles.Cell.put`, `RuleTiles.Cell.take`, `RuleTiles.Cell.turn` — the changes of a cell;
* `RuleTiles.Cell.has`, `RuleTiles.Cell.kinds`, `RuleTiles.Cell.facing` — what it holds.

Main results:

* `RuleTiles.Cell.get?_put`, `RuleTiles.Cell.get?_take`, `RuleTiles.Cell.get?_turn` — each change
  seen through look-ups;
* `RuleTiles.Cell.ext_get?` — a cell is determined by its look-ups.
-/

import RuleTiles.Direction
import RuleTiles.Kind
import RuleTiles.Sorted.Map

set_option relaxedAutoImplicit false
set_option autoImplicit false

namespace RuleTiles

/-- A kind to be put on a cell, with the direction it is to face if that is given. -/
structure Piece where
  kind : Kind
  facing : Option Direction
  deriving DecidableEq, Repr

/-- The contents of one cell: the placeable kinds on it, each with its facing if it has one. -/
structure Cell where
  /-- The kinds on the cell and their facings. -/
  contents : SortedMap Kind (Option Direction)
  placeable : ∀ k ∈ contents.keys, k.isPlaceable = true
  deriving DecidableEq

namespace Cell

instance : Hashable Cell := ⟨fun c => hash c.contents⟩

/-- The cell on which nothing lies. -/
def empty : Cell := ⟨.empty, by simp [SortedMap.keys, SortedMap.empty]⟩

instance : Inhabited Cell := ⟨empty⟩

/-! ### Queries -/

/-- The entry for a kind: nothing when it is not here, and its facing, if it has one, when it
is. -/
def get? (c : Cell) (k : Kind) : Option (Option Direction) := c.contents.get? k

/-- The kinds on the cell in catalog order. -/
def kinds (c : Cell) : List Kind := c.contents.keys

/-- The pieces on the cell in catalog order. -/
def pieces (c : Cell) : List Piece := c.contents.entries.map fun e => ⟨e.1, e.2⟩

/-- The number of kinds on the cell. -/
def size (c : Cell) : Nat := c.contents.size

/-- Whether nothing lies on the cell. -/
def isEmpty (c : Cell) : Bool := c.contents.isEmpty

/-- The word tiles on the cell in catalog order. -/
def texts (c : Cell) : List Kind := c.kinds.filter Kind.isText

/-- Whether the cell holds a kind; `empty` asks for no object at all and `text` for any word. -/
def has (c : Cell) (k : Kind) : Bool :=
  match k with
  | .icon .empty => c.isEmpty
  | .icon .text => c.kinds.any Kind.isText
  | k => c.contents.contains k

/-- The direction a kind faces, if it is here and has a facing. -/
def facing (c : Cell) (k : Kind) : Option Direction := (c.get? k).join

theorem mem_kinds {c : Cell} {k : Kind} : k ∈ c.kinds ↔ (c.get? k).isSome = true :=
  SortedMap.mem_keys

theorem isPlaceable_of_mem_kinds {c : Cell} {k : Kind} (h : k ∈ c.kinds) :
    k.isPlaceable = true :=
  c.placeable k h

@[simp] theorem get?_empty (k : Kind) : empty.get? k = none := rfl

@[simp] theorem kinds_empty : empty.kinds = [] := rfl

/-- A cell is determined by its look-ups. -/
theorem ext_get? {c d : Cell} (h : ∀ k, c.get? k = d.get? k) : c = d := by
  have hc : c.contents = d.contents := SortedMap.ext_get? h
  cases c; cases d; cases hc; rfl

/-! ### Changes -/

/-- The cell after setting the entry for a kind that may lie here. -/
private def set (c : Cell) (k : Kind) (facing : Option Direction) (hk : k.isPlaceable = true) :
    Cell where
  contents := c.contents.insert k facing
  placeable := by
    intro x hx
    rw [SortedMap.mem_keys, SortedMap.get?_insert] at hx
    by_cases h : x = k
    · rw [h, hk]
    · rw [if_neg h] at hx
      exact c.placeable x (SortedMap.mem_keys.2 hx)

/-- Puts a kind on the cell.  A facing that is given replaces the one the kind had; otherwise it
keeps the one it had.  A kind that cannot be placed changes nothing. -/
def put (c : Cell) (k : Kind) (facing : Option Direction) : Cell :=
  if hk : k.isPlaceable = true then c.set k (facing.or (c.facing k)) hk else c

/-- Takes a kind off the cell. -/
def take (c : Cell) (k : Kind) : Cell where
  contents := c.contents.erase k
  placeable := by
    intro x hx
    rw [SortedMap.mem_keys, SortedMap.get?_erase] at hx
    split at hx
    · cases hx
    · exact c.placeable x (SortedMap.mem_keys.2 hx)

/-- Turns a kind on the cell; a kind that is not here is left alone. -/
def turn (c : Cell) (k : Kind) (d : Direction) : Cell :=
  if hk : k ∈ c.contents.keys then c.set k (some d) (c.placeable k hk) else c

/-- The cell on which the pieces are put one after another. -/
def ofPieces (pieces : List Piece) : Cell :=
  pieces.foldl (fun c piece => c.put piece.kind piece.facing) empty

/-- The cell on which the kinds are put, none of them with a facing. -/
def ofKinds (kinds : List Kind) : Cell := ofPieces (kinds.map fun k => ⟨k, none⟩)

theorem get?_put (c : Cell) (k x : Kind) (facing : Option Direction) :
    (c.put k facing).get? x =
      if x = k ∧ k.isPlaceable = true then some (facing.or (c.facing k)) else c.get? x := by
  unfold put
  split
  · rename_i hk
    simp [get?, set, hk]
  · rename_i hk
    simp [hk]

theorem get?_take (c : Cell) (k x : Kind) :
    (c.take k).get? x = if x = k then none else c.get? x :=
  SortedMap.get?_erase c.contents k x

theorem get?_turn (c : Cell) (k x : Kind) (d : Direction) :
    (c.turn k d).get? x = if x = k ∧ k ∈ c.kinds then some (some d) else c.get? x := by
  unfold turn
  split
  · rename_i hk
    have hk' : k ∈ c.kinds := hk
    simp [get?, set, hk']
  · rename_i hk
    have hk' : k ∉ c.kinds := hk
    simp [hk']

end Cell

end RuleTiles
