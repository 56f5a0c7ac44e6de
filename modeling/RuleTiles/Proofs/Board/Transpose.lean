/-
**Transposed boards.**

A board is transposed by exchanging its rows and its columns, and with them up and left, and down
and right.  On corresponding cells the two boards hold the same kinds, facing corresponding ways.
A step from a cell corresponds to a step from the corresponding cell, so what is said of a board by
its cells and their neighbours is said of the other one by exchanged words; and as sentences are
read along rows and along columns, both boards spell the same rules.

Main definitions:

* `RuleTiles.Position.transpose`, `RuleTiles.Direction.transpose`, `RuleTiles.Object.transpose` —
  places, directions and objects exchanged;
* `RuleTiles.Grid.transpose` — **the transposed board**;
* `RuleTiles.Grid.Transposed` — one board is the other one transposed, entry by entry.

Main results:

* `RuleTiles.Grid.transposed_transpose`, `RuleTiles.Grid.Transposed.eq_transpose` — one board is
  the other one transposed just when its entries are;
* `RuleTiles.Grid.Transposed.objects` — the objects of a transposed board, up to their order;
* `RuleTiles.Grid.Transposed.rules` — **both boards spell the same rules**.
-/

import Mathlib.Data.List.Nodup
import Mathlib.Logic.Function.Basic
import RuleTiles.Proofs.Board.Lines
import RuleTiles.Proofs.Board.Numbers
import RuleTiles.Rule.Reading

set_option relaxedAutoImplicit false
set_option autoImplicit false

namespace RuleTiles

/-! ### Directions, positions, objects -/

namespace Direction

/-- The direction with rows and columns exchanged. -/
def transpose : Direction → Direction
  | up => left
  | left => up
  | down => right
  | right => down

@[simp] theorem transpose_transpose (d : Direction) : d.transpose.transpose = d := by
  cases d <;> rfl

theorem transpose_reverse (d : Direction) : d.reverse.transpose = d.transpose.reverse := by
  cases d <;> rfl

/-- Exchanging twice changes no facing. -/
@[simp] theorem map_transpose_transpose (facing : Option Direction) :
    (facing.map transpose).map transpose = facing := by
  cases facing with
  | none => rfl
  | some d => simp

end Direction

namespace Position

/-- The position with rows and columns exchanged. -/
def transpose (p : Position) : Position := ⟨p.col, p.row⟩

@[simp] theorem transpose_transpose (p : Position) : p.transpose.transpose = p := rfl

theorem transpose_involutive : Function.Involutive transpose := transpose_transpose

theorem transpose_inj {p q : Position} : p.transpose = q.transpose ↔ p = q :=
  transpose_involutive.injective.eq_iff

/-- A step from a position corresponds to a step from the exchanged one. -/
theorem transpose_step (p : Position) (d : Direction) :
    (p.step d).transpose = p.transpose.step d.transpose := by
  cases d <;> rfl

theorem transpose_along (p : Position) (d : Direction) (n : Nat) :
    (p.along d n).transpose = p.transpose.along d.transpose n := by
  cases d <;> rfl

end Position

namespace Object

/-- The object at the exchanged position. -/
def transpose (o : Object) : Object := ⟨o.pos.transpose, o.kind⟩

@[simp] theorem transpose_transpose (o : Object) : o.transpose.transpose = o := rfl

theorem transpose_involutive : Function.Involutive transpose := transpose_transpose

@[simp] theorem pos_transpose (o : Object) : o.transpose.pos = o.pos.transpose := rfl

@[simp] theorem kind_transpose (o : Object) : o.transpose.kind = o.kind := rfl

end Object

/-- Lists without repetition are the same up to order when one holds what the other one exchanged
holds. -/
theorem perm_map_of_involutive {α : Type} {f : α → α} (hf : Function.Involutive f) {l l' : List α}
    (hl : l.Nodup) (hl' : l'.Nodup) (hmem : ∀ a, f a ∈ l' ↔ a ∈ l) : l'.Perm (l.map f) := by
  refine (List.perm_ext_iff_of_nodup hl' (hl.map hf.injective)).2 fun a => ?_
  rw [List.mem_map]
  constructor
  · intro ha
    exact ⟨f a, (hmem _).1 (by rwa [hf a]), hf a⟩
  · rintro ⟨b, hb, rfl⟩
    exact (hmem b).2 hb

/-! ### Boards -/

namespace SortedMap

variable {κ ν : Type} [Ord κ]

/-- The map with every value changed. -/
def mapValues (m : SortedMap κ ν) (f : ν → ν) : SortedMap κ ν :=
  ⟨m.entries.map fun e => (e.1, f e.2), List.pairwise_map.2 m.ascending⟩

@[simp] theorem keys_mapValues (m : SortedMap κ ν) (f : ν → ν) : (m.mapValues f).keys = m.keys := by
  simp [keys, mapValues, Function.comp_def]

@[simp] theorem get?_mapValues (m : SortedMap κ ν) (f : ν → ν) (k : κ) :
    (m.mapValues f).get? k = (m.get? k).map f := by
  unfold get? mapValues
  dsimp only
  induction m.entries with
  | nil => rfl
  | cons e l ih =>
      rw [List.map_cons, getList, getList]
      split
      · rfl
      · rfl
      · exact ih

end SortedMap

namespace Cell

/-- The cell with every facing exchanged. -/
def transpose (c : Cell) : Cell where
  contents := c.contents.mapValues (Option.map Direction.transpose)
  placeable := by
    rw [SortedMap.keys_mapValues]
    exact c.placeable

@[simp] theorem get?_transpose (c : Cell) (k : Kind) :
    c.transpose.get? k = (c.get? k).map (Option.map Direction.transpose) :=
  SortedMap.get?_mapValues _ _ _

end Cell

namespace Grid

/-- **The transposed board**: rows and columns are exchanged, and all facings with them. -/
def transpose (g : Grid) : Grid where
  width := g.height
  height := g.width
  cells := .ofFn fun i : Fin (g.height * g.width) =>
    (g.cell (.clamp ((i % g.height : Nat) : Int) ((i / g.height : Nat) : Int))).transpose
  width_pos := g.height_pos
  height_pos := g.width_pos
  width_le := g.height_le
  height_le := g.width_le
  size_cells := Array.size_ofFn

/-- One board is the other one transposed, entry by entry. -/
structure Transposed (g h : Grid) : Prop where
  width : h.width = g.height
  height : h.height = g.width
  get? : ∀ p k, (h.cell p.transpose).get? k =
    ((g.cell p).get? k).map (Option.map Direction.transpose)

theorem contains_transpose (g : Grid) (p : Position) :
    g.transpose.contains p.transpose = g.contains p := by
  rw [Bool.eq_iff_iff, contains_iff, contains_iff]
  simp only [Position.transpose, transpose]
  omega

theorem cell_transpose (g : Grid) (p : Position) :
    g.transpose.cell p.transpose = (g.cell p).transpose := by
  cases hp : g.contains p with
  | false =>
      have hp' : g.transpose.contains p.transpose = false := by rw [contains_transpose, hp]
      rw [cell_of_not_contains hp, cell_of_not_contains hp']
      rfl
  | true =>
      have hp' : g.transpose.contains p.transpose = true := by rw [contains_transpose, hp]
      have hplace := index_lt hp'
      -- the cell was computed from the place of the exchanged position
      have hposition := congrArg Position.transpose (eq_clamp_of_index hp')
      rw [cell, at?, if_pos hp', Array.getElem?_eq_getElem hplace, Option.getD_some]
      simp only [transpose, Array.getElem_ofFn]
      exact congrArg (fun q => (g.cell q).transpose) hposition.symm

theorem transposed_transpose (g : Grid) : g.Transposed g.transpose where
  width := rfl
  height := rfl
  get? := fun p k => by rw [cell_transpose, Cell.get?_transpose]

namespace Transposed

variable {g h : Grid}

theorem symm (ht : g.Transposed h) : h.Transposed g where
  width := ht.height.symm
  height := ht.width.symm
  get? := fun p k => by
    have hentry := ht.get? p.transpose k
    rw [Position.transpose_transpose] at hentry
    rw [hentry]
    cases (g.cell p.transpose).get? k with
    | none => rfl
    | some facing => exact congrArg some (Direction.map_transpose_transpose facing).symm

/-- A board with the entries of the transposed one is the transposed one. -/
theorem eq_transpose (ht : g.Transposed h) : h = g.transpose := by
  refine ext_cell ⟨ht.width, ht.height⟩ fun p => Cell.ext_get? fun k => ?_
  rw [← Position.transpose_transpose p, ht.get?, (transposed_transpose g).get?]

theorem contains (ht : g.Transposed h) (p : Position) :
    h.contains p.transpose = g.contains p := by
  rw [ht.eq_transpose, contains_transpose]

/-! ### Cells -/

/-- Corresponding cells hold the same kinds. -/
theorem kinds (ht : g.Transposed h) (p : Position) :
    (h.cell p.transpose).kinds = (g.cell p).kinds := by
  refine Cell.kinds_ext fun k => ?_
  rw [Cell.mem_kinds, Cell.mem_kinds, ht.get?, Option.isSome_map]

theorem facing (ht : g.Transposed h) (p : Position) (k : Kind) :
    (h.cell p.transpose).facing k = ((g.cell p).facing k).map Direction.transpose := by
  rw [Cell.facing, Cell.facing, ht.get?]
  cases (g.cell p).get? k with
  | none => rfl
  | some facing => rfl

theorem has (ht : g.Transposed h) (p : Position) {k : Kind} (hk : k.isPlaceable = true) :
    (h.cell p.transpose).has k = (g.cell p).has k := by
  rw [Bool.eq_iff_iff, Cell.has_iff_mem_kinds hk, Cell.has_iff_mem_kinds hk, ht.kinds]

theorem size (ht : g.Transposed h) (p : Position) :
    (h.cell p.transpose).size = (g.cell p).size := by
  have hlength : ∀ c : Cell, c.size = c.kinds.length := by
    intro c
    rw [Cell.kinds, SortedMap.keys, List.length_map, Cell.size, SortedMap.size]
  rw [hlength, hlength, ht.kinds]

theorem holds (ht : g.Transposed h) (rules : RuleSet) (p : Position) (q : Property) :
    h.holds rules p.transpose q = g.holds rules p q := by
  rw [Grid.holds, Grid.holds, ht.kinds]

theorem pushable (ht : g.Transposed h) (rules : RuleSet) (p : Position) :
    rules.pushable (h.cell p.transpose) = rules.pushable (g.cell p) := by
  rw [RuleSet.pushable, RuleSet.pushable, ht.kinds]

/-! ### Positions and objects -/

theorem positions (ht : g.Transposed h) :
    h.positions.Perm (g.positions.map Position.transpose) := by
  refine perm_map_of_involutive Position.transpose_involutive g.nodup_positions h.nodup_positions ?_
  intro p
  rw [mem_positions, mem_positions, ht.contains]

/-- The positions that hold a kind correspond. -/
theorem positionsOf (ht : g.Transposed h) {k : Kind} (hk : k.isPlaceable = true) :
    (h.positionsOf k).Perm ((g.positionsOf k).map Position.transpose) := by
  refine (ht.positions.filter _).trans ?_
  rw [List.filter_map]
  refine .of_eq (congrArg _ (List.filter_congr fun p _ => ?_))
  exact ht.has p hk

theorem mem_objects (ht : g.Transposed h) {o : Object} :
    o.transpose ∈ h.objects ↔ o ∈ g.objects := by
  rw [Grid.mem_objects, Grid.mem_objects, Object.pos_transpose, ht.kinds, Object.kind_transpose]

/-- The objects of a transposed board, up to their order. -/
theorem objects (ht : g.Transposed h) : h.objects.Perm (g.objects.map Object.transpose) :=
  perm_map_of_involutive Object.transpose_involutive g.nodup_objects h.nodup_objects
    fun _ => ht.mem_objects

/-- A selection of the objects that looks at kinds and at corresponding cells. -/
theorem objects_filter (ht : g.Transposed h) {keep keep' : Object → Bool}
    (hkeep : ∀ o, keep' o.transpose = keep o) :
    (h.objects.filter keep').Perm ((g.objects.filter keep).map Object.transpose) := by
  refine (ht.objects.filter keep').trans ?_
  rw [List.filter_map]
  exact .of_eq (congrArg _ (List.filter_congr fun o _ => hkeep o))

theorem mem_having (ht : g.Transposed h) {rules : RuleSet} {p : Property} {o : Object} :
    o.transpose ∈ h.having rules p ↔ o ∈ g.having rules p := by
  rw [Grid.mem_having, Grid.mem_having, ht.mem_objects, Object.kind_transpose]

theorem meeting (ht : g.Transposed h) (rules : RuleSet) (p q : Property) :
    (h.meeting rules p q).Perm ((g.meeting rules p q).map Object.transpose) := by
  rw [meeting_eq, meeting_eq, having_eq, having_eq, List.filter_filter, List.filter_filter]
  refine ht.objects_filter fun o => ?_
  rw [Object.pos_transpose, ht.holds, Object.kind_transpose]

theorem controllable (ht : g.Transposed h) (rules : RuleSet) :
    h.controllable rules = g.controllable rules := by
  rw [Bool.eq_iff_iff, controllable_eq_true, controllable_eq_true]
  constructor
  · rintro ⟨o, ho, hyou⟩
    exact ⟨o.transpose, ht.symm.mem_objects.2 ho, hyou⟩
  · rintro ⟨o, ho, hyou⟩
    exact ⟨o.transpose, ht.mem_objects.2 ho, hyou⟩

/-! ### Rules -/

theorem sentencesAt (ht : g.Transposed h) {p : Position} {r : Rule} (hr : r ∈ g.sentencesAt p) :
    r ∈ h.sentencesAt p.transpose := by
  obtain ⟨his, d, hd, hr⟩ := mem_sentencesAt.1 hr
  refine mem_sentencesAt.2 ⟨by rwa [ht.kinds], d.transpose, ?_, ?_⟩
  · -- along rows becomes along columns
    cases d <;> simp [readingDirections, Direction.transpose] at hd ⊢
  · rw [← Direction.transpose_reverse, ← Position.transpose_step, ← Position.transpose_step,
      mem_sentences, ht.kinds, ht.kinds]
    exact mem_sentences.1 hr

/-- **Both boards spell the same rules.** -/
theorem rules (ht : g.Transposed h) : h.rules = g.rules := by
  refine SortedSet.ext_mem fun r => ?_
  rw [mem_rules, mem_rules]
  constructor
  · rintro ⟨p, hr⟩
    exact ⟨p.transpose, ht.symm.sentencesAt hr⟩
  · rintro ⟨p, hr⟩
    exact ⟨p.transpose, ht.sentencesAt hr⟩

end Transposed

/-- Transposing twice gives the board back. -/
@[simp] theorem transpose_transpose (g : Grid) : g.transpose.transpose = g :=
  (transposed_transpose g).symm.eq_transpose.symm

end Grid

end RuleTiles
