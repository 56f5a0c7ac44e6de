/-
**Records are read back.**

What is written of a game is read part by part: leaves by their names and numbers, lists item by
item, records field by field.  Each reader recovers what its writer wrote, and so does a reader that
is put together from such readers.  A cell is recovered because its pieces are of different kinds
that may lie on a cell, a set of rules because it is kept in ascending order, and a board because
its cells are as many as its sides ask for.

Main definitions:

* `RuleTiles.Record.Reads` — a decoder reads back what an encoding writes.

Main results:

* `RuleTiles.Record.reads_list`, `RuleTiles.Record.reads_optional`,
  `RuleTiles.Record.pair_object`, `RuleTiles.Record.triple_object` — reading back is passed on from
  the parts to the whole;
* `RuleTiles.Cell.ofPieces_pieces` — a cell is made again from its pieces;
* `RuleTiles.Record.reads_grid`, `RuleTiles.Record.reads_rules` — boards and rules are read back;
* `RuleTiles.Record.reads_game` — **a game is read back**;
* `RuleTiles.Record.decode_write` — a text is read as its record is, in any layout;
* `RuleTiles.Game.load_save` — **the text of a game gives the game again**.
-/

import RuleTiles.Proofs.Json.Written
import RuleTiles.Record.Snapshot

set_option relaxedAutoImplicit false
set_option autoImplicit false

namespace RuleTiles

namespace Record

open Json

/-- A decoder reads back what is written by an encoding. -/
def Reads {α : Type} (value : Decoder α) (ofValue : α → Json) : Prop :=
  ∀ x, value (ofValue x).draft = .ok x

/-! ### Leaves -/

theorem natural_natCast {bound n : Nat} (h : n ≤ bound) : natural bound (.number n) = .ok n := by
  simp [natural, h]

theorem reads_word64 : Reads word64 ofWord64 := by
  intro w
  have hw : w.toNat ≤ maxWord := Nat.le_of_lt_succ w.toNat_lt
  simp [word64, ofWord64, draft, natural_natCast hw, bind, Except.bind, pure, Except.pure]

/-- What is known by its name is read back when the name is. -/
theorem reads_tagged {α : Type} {ofTag? : String → Option α} {tag : α → String}
    (h : ∀ x, ofTag? (tag x) = some x) : Reads (tagged ofTag?) fun x => .string (tag x) := by
  intro x
  simp [tagged, draft, h]

theorem reads_kind : Reads kind ofKind := reads_tagged Kind.ofTag?_tag

theorem reads_property : Reads property ofProperty := reads_tagged Property.ofTag?_tag

theorem reads_direction : Reads direction ofDirection := reads_tagged directionOfTag?_tag

theorem reads_playState : Reads playState ofPlayState := reads_tagged playStateOfTag?_tag

/-- A value that is not written as nothing may be missing. -/
theorem reads_optional {α : Type} {value : Decoder α} {ofValue : α → Json}
    (h : Reads value ofValue) (hnull : ∀ x, (ofValue x).draft ≠ .null) :
    Reads (optional value) fun x => x.elim .null ofValue := by
  intro x
  cases x with
  | none => rfl
  | some x =>
      have hx := h x
      simp only [Option.elim_some]
      unfold optional
      split
      · rename_i hd
        exact absurd hd (hnull x)
      · simp [hx, bind, Except.bind, pure, Except.pure]

/-! ### Lists -/

theorem drafts_eq_map (items : List Json) : drafts items = items.map draft := by
  induction items with
  | nil => rfl
  | cons x items ih => rw [drafts, ih, List.map_cons]

/-- A list is read when each of its items is. -/
theorem list_array {α β : Type} {item : Decoder β} {ofItem : α → Json} {f : α → β}
    (h : ∀ x, item (ofItem x).draft = .ok (f x)) (xs : List α) :
    list item (Json.array (xs.map ofItem)).draft = .ok (xs.map f) := by
  simp only [draft, drafts_eq_map, List.map_map, list]
  induction xs with
  | nil => rfl
  | cons x xs ih =>
      rw [List.map_cons, List.mapM_cons, ih, Function.comp_apply, h x]
      rfl

/-- A list is read back when its items are. -/
theorem reads_list {α : Type} {item : Decoder α} {ofItem : α → Json} (h : Reads item ofItem) :
    Reads (list item) fun xs => .array (xs.map ofItem) := by
  intro xs
  rw [list_array h, List.map_id']

/-! ### Records with named fields -/

/-- A field with a name of the record is taken in. -/
theorem takeField_of_mem {σ : Type} {names : List String} {set : σ → String → Decoder σ} {s : σ}
    {name : String} {d : Draft} (h : name ∈ names) :
    takeField names set s (some name, d) = set s name d := by
  simp [takeField, h]

/-- A free slot is filled with the value of a field. -/
theorem fill_none {α : Type} {value : Decoder α} {d : Draft} {x : α} (h : value d = .ok x) :
    fill none value d = .ok (some x) := by
  simp [fill, h, bind, Except.bind, pure, Except.pure]

section

variable {α β γ : Type} {first : Decoder α} {second : Decoder β} {third : Decoder γ}
  {a b c : String} {d₁ d₂ d₃ : Draft} {x : α} {y : β} {z : γ}

theorem single_object (hx : first d₁ = .ok x) :
    single a first (.object [(some a, d₁)]) = .ok x := by
  simp [single, fields, entries, takeField_of_mem, fill_none hx, need, bind, Except.bind, pure,
    Except.pure]

theorem pair_object (hab : b ≠ a) (hx : first d₁ = .ok x) (hy : second d₂ = .ok y) :
    pair a b first second (.object [(some a, d₁), (some b, d₂)]) = .ok (x, y) := by
  simp [pair, fields, entries, takeField_of_mem, PairSlots.set, hab, fill_none hx, fill_none hy,
    need, bind, Except.bind, pure, Except.pure]

/-- The second of two fields may be missing. -/
theorem pairOptional_missing (hx : first d₁ = .ok x) :
    pairOptional a b first second (.object [(some a, d₁)]) = .ok (x, none) := by
  simp [pairOptional, fields, entries, takeField_of_mem, PairSlots.set, fill_none hx, need, bind,
    Except.bind, pure, Except.pure]

theorem pairOptional_object {s : Option β} (hab : b ≠ a) (hx : first d₁ = .ok x)
    (hs : optional second d₂ = .ok s) :
    pairOptional a b first second (.object [(some a, d₁), (some b, d₂)]) = .ok (x, s) := by
  simp [pairOptional, fields, entries, takeField_of_mem, PairSlots.set, hab, fill_none hx,
    fill_none hs, need, bind, Except.bind, pure, Except.pure]

theorem triple_object (hab : b ≠ a) (hac : c ≠ a) (hbc : c ≠ b) (hx : first d₁ = .ok x)
    (hy : second d₂ = .ok y) (hz : third d₃ = .ok z) :
    triple a b c first second third (.object [(some a, d₁), (some b, d₂), (some c, d₃)]) =
      .ok (x, y, z) := by
  simp [triple, fields, entries, takeField_of_mem, TripleSlots.set, hab, hac, hbc, fill_none hx,
    fill_none hy, fill_none hz, need, bind, Except.bind, pure, Except.pure]

end

end Record

/-! ### Cells -/

namespace Cell

/-- Putting pieces of different kinds on a cell that holds none of them enters just these
pieces. -/
theorem get?_foldl_put {entries : List (Kind × Option Direction)} {c : Cell}
    (hdistinct : entries.Pairwise fun a b => a.1 ≠ b.1)
    (hplaceable : ∀ e ∈ entries, e.1.isPlaceable = true) (hfree : ∀ e ∈ entries, c.get? e.1 = none)
    (k : Kind) (f : Option Direction) :
    (entries.foldl (fun c e => c.put e.1 e.2) c).get? k = some f ↔
      (k, f) ∈ entries ∨ c.get? k = some f := by
  induction entries generalizing c with
  | nil => simp
  | cons e entries ih =>
      obtain ⟨hfirst, hrest⟩ := List.pairwise_cons.1 hdistinct
      have hnone : c.get? e.1 = none := hfree e (List.mem_cons_self ..)
      -- the piece keeps no facing of an older one, as there is none of its kind
      have hput : ∀ x, (c.put e.1 e.2).get? x = if x = e.1 then some e.2 else c.get? x := by
        intro x
        simp [get?_put, hplaceable e (List.mem_cons_self ..), facing, hnone]
      have hstep := ih (c := c.put e.1 e.2) hrest
        (fun x hx => hplaceable x (List.mem_cons_of_mem _ hx)) ?_
      · rw [List.foldl_cons, hstep, hput, List.mem_cons, Prod.ext_iff]
        split
        · rename_i hk
          subst hk
          simp [hnone, or_comm, eq_comm]
        · rename_i hk
          simp [hk]
      · intro x hx
        rw [hput, if_neg (hfirst x hx).symm]
        exact hfree x (List.mem_cons_of_mem _ hx)

/-- **A cell is made again from its pieces.** -/
@[simp] theorem ofPieces_pieces (c : Cell) : ofPieces c.pieces = c := by
  refine ext_get? fun k => Option.ext fun f => ?_
  have hdistinct : c.contents.entries.Pairwise fun a b => a.1 ≠ b.1 :=
    c.contents.ascending.imp Ascending.ne_of_lt
  have hplaceable : ∀ e ∈ c.contents.entries, e.1.isPlaceable = true := fun e he =>
    c.placeable e.1 (List.mem_map_of_mem he)
  have hfold := get?_foldl_put (c := empty) hdistinct hplaceable (fun _ _ => rfl) k f
  rw [ofPieces, pieces, List.foldl_map, hfold]
  simp [get?, SortedMap.get?_eq_some_iff, empty, SortedMap.empty]

end Cell

namespace Record

open Json

theorem piece_missing (k : Kind) :
    piece (.object [(some "kind", (ofKind k).draft)]) = .ok ⟨k, none⟩ := by
  have hpiece : pairOptional "kind" "facing" kind direction
      (.object [(some "kind", (ofKind k).draft)]) = .ok (k, none) :=
    pairOptional_missing (reads_kind k)
  simp [piece, hpiece, bind, Except.bind, pure, Except.pure]

theorem piece_object (k : Kind) (facing : Option Direction) :
    piece (.object [(some "kind", (ofKind k).draft),
      (some "facing", (facing.elim .null ofDirection).draft)]) = .ok ⟨k, facing⟩ := by
  have hfacing := reads_optional reads_direction (fun _ h => by cases h) facing
  have hpiece := pairOptional_object (a := "kind") (b := "facing") (by decide) (reads_kind k)
    hfacing
  simp [piece, hpiece, bind, Except.bind, pure, Except.pure]

theorem reads_piece : Reads piece ofPiece := by
  intro p
  obtain ⟨k, facing⟩ := p
  cases facing with
  | none => exact piece_missing k
  | some d => exact piece_object k (some d)

theorem reads_cell : Reads cell ofCell := by
  intro c
  have hpieces := reads_list reads_piece c.pieces
  simp [cell, ofCell, hpieces, bind, Except.bind, pure, Except.pure]

/-! ### Boards -/

/-- The sides and the cells of a board make it again. -/
theorem makeGrid_cells (g : Grid) : makeGrid g.width g.height g.cells.toList = .ok g := by
  have hcells : Grid.ofCells g.width g.height g.cells.toList.toArray = .ok g :=
    Grid.ofCells_eq_ok_iff.2 ⟨rfl, rfl, rfl⟩
  simp [makeGrid, hcells]

theorem reads_grid : Reads grid ofGrid := by
  intro g
  have hbound : maxDimension ≤ maxWord := by decide
  have hwidth := natural_natCast (Nat.le_trans g.width_le hbound)
  have hheight := natural_natCast (Nat.le_trans g.height_le hbound)
  have hcells := reads_list reads_cell g.cells.toList
  have hgrid := triple_object (a := "width") (b := "height") (c := "cells") (by decide) (by decide)
    (by decide) hwidth hheight hcells
  have hmake := makeGrid_cells g
  simp only [draft] at hgrid
  simp [grid, ofGrid, draft, fieldDrafts, hgrid, hmake, bind, Except.bind]

/-! ### Rules -/

theorem reads_predicate : Reads predicate ofPredicate := by
  intro p
  cases p with
  | property p =>
      have hp := reads_property p
      simp [predicate, ofPredicate, draft, fieldDrafts, variant, hp, bind, Except.bind, pure,
        Except.pure]
  | becomes k =>
      have hk := reads_kind k
      simp [predicate, ofPredicate, draft, fieldDrafts, variant, hk, bind, Except.bind, pure,
        Except.pure]

theorem reads_rule : Reads rule ofRule := by
  intro r
  have hrule := pair_object (a := "subject") (b := "predicate") (by decide) (reads_kind r.subject)
    (reads_predicate r.predicate)
  simp [rule, ofRule, draft, fieldDrafts, hrule, bind, Except.bind, pure, Except.pure]

theorem reads_rules : Reads rules ofRules := by
  intro r
  have hrules := reads_list reads_rule r.toList
  simp [rules, ofRules, hrules, bind, Except.bind, pure, Except.pure]

/-! ### Games -/

/-- **A game is read back.** -/
theorem reads_game : Reads game ofGame := by
  intro g
  have hrules := single_object (a := "rules") (reads_rules g.rules)
  have hicon := reads_optional reads_kind (fun _ h => by cases h) g.playerIcon
  simp [game, ofGame, draft, fieldDrafts, fields, entries, takeField_of_mem, gameFields,
    GameSlots.set, fill_none (reads_grid g.initialGrid), fill_none (reads_grid g.grid),
    fill_none hrules, fill_none (reads_playState g.playState), fill_none hicon,
    fill_none (reads_word64 g.turnNumber), fill_none (reads_word64 g.seed),
    fill_none (reads_word64 g.randomState), need, bind, Except.bind, pure, Except.pure]

/-- A written text is read as its draft is, whatever comes of that. -/
theorem decode_write {α : Type} {l : Layout} (hl : l.IsBlank) (value : Decoder α) (j : Json) :
    decode value (.ofList (j.write l 0)) = value j.draft := by
  rw [decode, String.toList_ofList, read_write hl]
  cases hvalue : value j.draft with
  | ok x => simp [hvalue, bind, Except.bind, pure, Except.pure]
  | error fault => simp [hvalue, bind, Except.bind]

/-- What a draft is read as, its text is read as. -/
theorem decode_pretty {α : Type} {value : Decoder α} {j : Json} {x : α}
    (h : value j.draft = .ok x) : decode value j.pretty = .ok x :=
  (decode_write isBlank_indented value j).trans h

/-- What is written in one line is read as its draft is. -/
theorem decode_compact {α : Type} (value : Decoder α) (j : Json) :
    decode value j.compact = value j.draft :=
  decode_write isBlank_oneLine value j

end Record

/-! ### Snapshots -/

namespace Game

/-- A text is accepted only when the board has the size it had at the start. -/
theorem keepsSize_of_load {text : String} {g : Game} (h : load text = .ok g) :
    g.keepsSize = true := by
  unfold load at h
  cases hread : ofRecord (Record.decode Record.game text) with
  | error e => simp [hread, bind, Except.bind] at h
  | ok read =>
      simp only [hread, bind, Except.bind] at h
      split at h
      · rename_i hsize
        cases h
        exact hsize
      · cases h

/-- The text of a record is accepted when the record is that of a game whose board has the size it
had at the start. -/
theorem load_pretty {j : Json} {g : Game} (hread : Record.game j.draft = .ok g)
    (hsize : g.keepsSize = true) : load j.pretty = .ok g := by
  simp [load, Record.decode_pretty hread, ofRecord, hsize, bind, Except.bind]

/-- **A game whose board has the size it had at the start is loaded from its own text**, and is
the same in every part. -/
theorem load_save {g : Game} (h : g.keepsSize = true) : load g.save = .ok g :=
  load_pretty (Record.reads_game g) h

end Game

end RuleTiles
