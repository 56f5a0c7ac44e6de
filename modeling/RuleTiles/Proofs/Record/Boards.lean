/-
**Boards are put in order when they are read.**

A record of a board lists pieces for each of its cells.  The pieces of a cell may stand in any order
and the same kind may be listed several times, with different facings or without one, and kinds may
be listed that lie on no cell.  Reading such a list gives a board whenever its sides can be those of
a board and there are as many lists as cells.  Writing that board lists each kind that lies on a
cell once and in catalog order, and reading this again changes nothing more.

Main definitions:

* `RuleTiles.Record.Listed`, `RuleTiles.Record.Listing` — a piece and a board as they may stand in a
  record, with `RuleTiles.Record.Listing.text` for the text of it;
* `RuleTiles.Record.listing` — reading what is listed, without making a board of it;
* `RuleTiles.Grid.Lists` — **a board is what is listed**;
* `RuleTiles.Cell.listed`, `RuleTiles.Grid.listed` — how a cell and a board are listed when they are
  written;
* `RuleTiles.Grid.rewritten` — the text of a board, read and written again.

Main results:

* `RuleTiles.Record.triple_map` — a reader that makes something else of its last field;
* `RuleTiles.Record.grid_eq_ok_iff` — a board is read just when it is what is listed;
* `RuleTiles.Record.listing_ofListing` — which listings can be read at all;
* `RuleTiles.Grid.ofGrid_eq` — what is written of a board is its listing;
* `RuleTiles.Grid.load_normalizes` — **reading a board puts it in order**, and a board in order is
  read as it is.
-/

import RuleTiles.Proofs.Board.Inventory
import RuleTiles.Proofs.Board.Pieces
import RuleTiles.Proofs.Record.Codecs

set_option relaxedAutoImplicit false
set_option autoImplicit false

namespace RuleTiles

namespace Record

open Json

/-! ### Readers that make something else of a part -/

section Map

variable {α β γ δ σ τ : Type}

/-- What is made of each item of a list is made of the items of the list that is read. -/
theorem list_map (item : Decoder α) (f : α → β) (d : Draft) :
    list (fun d => f <$> item d) d = List.map f <$> list item d := by
  cases d with
  | array items =>
      simp only [list]
      induction items with
      | nil => rfl
      | cons x items ih =>
          simp only [List.mapM_cons, ih, map_bind, bind_map_left, map_pure, List.map_cons]
  | null => rfl
  | number n => rfl
  | string s => rfl
  | object fields => rfl
  | foreign => rfl
  | malformed => rfl

/-- What is known of a record can be kept in another form while its fields are taken in, if each of
them is taken in alike. -/
theorem fields_map {names : List String} {set : σ → String → Decoder σ}
    {set' : τ → String → Decoder τ} {φ : σ → τ}
    (hset : ∀ s name d, set' (φ s) name d = φ <$> set s name d) (blank : σ) (d : Draft) :
    fields names set' (φ blank) d = φ <$> fields names set blank d := by
  have htake : ∀ s field, takeField names set' (φ s) field = φ <$> takeField names set s field := by
    rintro s ⟨_ | name, d⟩
    · rfl
    · unfold takeField
      dsimp only
      split
      · exact hset s name d
      · split <;> rfl
  have hfold : ∀ (known : List (Option String × Draft)) (s : σ),
      known.foldlM (takeField names set') (φ s) = φ <$> known.foldlM (takeField names set) s := by
    intro known
    induction known with
    | nil => exact fun _ => rfl
    | cons field known ih =>
        intro s
        simp only [List.foldlM_cons, htake, bind_map_left, map_bind, ih]
  unfold fields
  simp only [hfold, map_bind]

/-- Three fields, of which the last is taken as something else. -/
def TripleSlots.mapThird (f : γ → δ) (s : TripleSlots α β γ) : TripleSlots α β δ :=
  ⟨s.first, s.second, s.third.map f⟩

variable {a b c : String} {first : Decoder α} {second : Decoder β} {third : Decoder γ}

theorem set_mapThird (f : γ → δ) (s : TripleSlots α β γ) (name : String) (d : Draft) :
    TripleSlots.set a b first second (fun d => f <$> third d) (s.mapThird f) name d =
      TripleSlots.mapThird f <$> TripleSlots.set a b first second third s name d := by
  unfold TripleSlots.set
  split
  · simp only [map_bind, map_pure, TripleSlots.mapThird]
  · split
    · simp only [map_bind, map_pure, TripleSlots.mapThird]
    · cases hthird : s.third with
      | none =>
          simp only [TripleSlots.mapThird, hthird, fill, Option.map_none, Option.map_some, map_bind,
            map_pure, bind_assoc, bind_map_left, pure_bind]
      | some z =>
          simp only [TripleSlots.mapThird, hthird, fill, Option.map_some]
          rfl

/-- **What is made of the last of three fields** is made of it when all of them are read. -/
theorem triple_map (f : γ → δ) (d : Draft) :
    triple a b c first second (fun d => f <$> third d) d =
      (fun x => (x.1, x.2.1, f x.2.2)) <$> triple a b c first second third d := by
  have hfields : fields [a, b, c] (TripleSlots.set a b first second fun d => f <$> third d) {} d =
      TripleSlots.mapThird f <$> fields [a, b, c] (TripleSlots.set a b first second third) {} d :=
    fields_map (set_mapThird f) {} d
  unfold triple
  simp only [hfields, map_bind, bind_map_left, map_pure]
  refine bind_congr fun s => bind_congr fun x => bind_congr fun y => ?_
  obtain ⟨_, _, z⟩ := s
  cases z with
  | none => rfl
  | some z => rfl

end Map

/-! ### What is listed -/

/-- Reads the sides of a board and the pieces that are listed for its cells. -/
def listing : Decoder (Nat × Nat × List (List Piece)) :=
  triple "width" "height" "cells" (natural maxWord) (natural maxWord) (list (list piece))

end Record

/-- **A board is what is listed**: it has the given sides, there is a list for each of its cells,
and the cell at a position holds what the list says that has its place in reading order. -/
structure Grid.Lists (g : Grid) (w h : Nat) (cells : List (List Piece)) : Prop where
  width : g.width = w
  height : g.height = h
  length : cells.length = w * h
  cell : ∀ p, OnBoard w h p →
    ∃ pieces, cells[p.row.val.toNat * w + p.col.val.toNat]? = some pieces ∧
      (g.cell p).Holds pieces

namespace Grid

variable {g : Grid} {w h : Nat} {cells : List (List Piece)}

/-- What is listed can be a board when its sides can and there are as many lists as cells. -/
theorem exists_ofCells_map_iff :
    (∃ g, ofCells w h (cells.map Cell.ofPieces).toArray = .ok g) ↔
      ((1 ≤ w ∧ w ≤ 256) ∧ (1 ≤ h ∧ h ≤ 256)) ∧ cells.length = w * h := by
  rw [exists_ofCells_eq_ok_iff, List.size_toArray, List.length_map]

/-- The board that is made of the pieces is what is listed. -/
theorem lists_of_ofCells (hg : ofCells w h (cells.map Cell.ofPieces).toArray = .ok g) :
    g.Lists w h cells := by
  obtain ⟨hwidth, hheight, -⟩ := ofCells_eq_ok_iff.1 hg
  refine ⟨hwidth, hheight, (exists_ofCells_map_iff.1 ⟨g, hg⟩).2, fun p hp => ?_⟩
  have hat := getElem?_of_ofCells hg hp
  rw [List.getElem?_toArray, List.getElem?_map, Option.map_eq_some_iff] at hat
  obtain ⟨pieces, hpieces, hcell⟩ := hat
  exact ⟨pieces, hpieces, Cell.holds_iff.2 hcell.symm⟩

theorem Lists.contains_eq_false (hg : g.Lists w h cells) {p : Position} (hp : ¬OnBoard w h p) :
    g.contains p = false := by
  rw [← Bool.not_eq_true, contains_iff_onBoard, hg.width, hg.height]
  exact hp

/-- There is one board at most that is what is listed. -/
theorem Lists.unique {g' : Grid} (hg : g.Lists w h cells) (hg' : g'.Lists w h cells) : g = g' := by
  have hsize : SameSize g g' := ⟨hg.width.trans hg'.width.symm, hg.height.trans hg'.height.symm⟩
  refine ext_cell hsize fun p => ?_
  by_cases hp : OnBoard w h p
  · obtain ⟨pieces, hpieces, hcell⟩ := hg.cell p hp
    obtain ⟨pieces', hpieces', hcell'⟩ := hg'.cell p hp
    cases hpieces.symm.trans hpieces'
    rw [Cell.holds_iff.1 hcell, Cell.holds_iff.1 hcell']
  · -- off the board nothing lies on either of them
    rw [cell_of_not_contains (hg.contains_eq_false hp),
      cell_of_not_contains (hg'.contains_eq_false hp)]

/-- **A board is what is listed just when it is made of the pieces.** -/
theorem lists_iff :
    g.Lists w h cells ↔ ofCells w h (cells.map Cell.ofPieces).toArray = .ok g := by
  refine ⟨fun hg => ?_, lists_of_ofCells⟩
  obtain ⟨made, hmade⟩ := exists_ofCells_map_iff.2
    ⟨⟨hg.width ▸ ⟨g.width_pos, g.width_le⟩, hg.height ▸ ⟨g.height_pos, g.height_le⟩⟩, hg.length⟩
  rw [hmade, hg.unique (lists_of_ofCells hmade)]

end Grid

namespace Record

open Json

/-- A board is read by what is listed. -/
theorem grid_eq (d : Draft) :
    grid d = listing d >>= fun x => makeGrid x.1 x.2.1 (x.2.2.map Cell.ofPieces) := by
  have hcell : list cell = fun d => List.map Cell.ofPieces <$> list (list piece) d := by
    funext d
    rw [← list_map]
    rfl
  unfold grid
  rw [hcell, triple_map, bind_map_left]
  rfl

theorem makeGrid_eq_ok_iff {w h : Nat} {cells : List Cell} {g : Grid} :
    makeGrid w h cells = .ok g ↔ Grid.ofCells w h cells.toArray = .ok g := by
  unfold makeGrid
  split
  · rename_i hmade
    rw [hmade]
    simp
  · rename_i hmade
    rw [hmade]
    simp

/-- **A board is read just when it is what is listed.** -/
theorem grid_eq_ok_iff {d : Draft} {g : Grid} :
    grid d = .ok g ↔ ∃ w h cells, listing d = .ok (w, h, cells) ∧ g.Lists w h cells := by
  rw [grid_eq, bind_eq_ok_iff]
  simp only [Prod.exists, makeGrid_eq_ok_iff, Grid.lists_iff]

/-! ### Pieces and boards in a record -/

/-- A piece as it may stand in a record: its facing may be missing, be nothing, or be given. -/
structure Listed where
  kind : Kind
  facing : Option (Option Direction)
  deriving DecidableEq, Repr

/-- A board as it may stand in a record: two numbers for its sides and a list of pieces for each of
its cells. -/
structure Listing where
  width : Int
  height : Int
  cells : List (List Listed)
  deriving DecidableEq, Repr

/-- A piece that is listed; a facing that is missing is left out. -/
def ofListed (x : Listed) : Json :=
  .object (("kind", ofKind x.kind) ::
    x.facing.elim [] fun facing => [("facing", facing.elim .null ofDirection)])

/-- What is listed of a board. -/
def ofListing (x : Listing) : Json :=
  .object
    [("width", .number x.width), ("height", .number x.height),
     ("cells", .array (x.cells.map fun cell => .array (cell.map ofListed)))]

/-- The piece that is listed. -/
def Listed.piece (x : Listed) : Piece := ⟨x.kind, x.facing.join⟩

/-- The pieces that are listed, cell by cell. -/
def Listing.pieces (x : Listing) : List (List Piece) := x.cells.map (List.map Listed.piece)

/-- The text of what is listed, laid out in some way. -/
def Listing.text (x : Listing) (l : Layout) : String := .ofList ((ofListing x).write l 0)

theorem piece_ofListed (x : Listed) : piece (ofListed x).draft = .ok x.piece := by
  obtain ⟨k, facing⟩ := x
  cases facing with
  | none => exact piece_missing k
  | some facing => exact piece_object k facing

theorem natural_number_eq_ok_iff {bound n : Nat} {i : Int} :
    natural bound (.number i) = .ok n ↔ i = n ∧ n ≤ bound := by
  rw [natural]
  by_cases hi : 0 ≤ i ∧ i ≤ bound
  · rw [if_pos hi, Except.ok.injEq]
    omega
  · rw [if_neg hi]
    simp only [reduceCtorEq, false_iff]
    omega

/-- A record whose three fields stand in their order is read field by field. -/
theorem triple_object_eq_ok_iff {α β γ : Type} {first : Decoder α} {second : Decoder β}
    {third : Decoder γ} {a b c : String} {d₁ d₂ d₃ : Draft} {x : α} {y : β} {z : γ} (hab : b ≠ a)
    (hac : c ≠ a) (hbc : c ≠ b) :
    triple a b c first second third (.object [(some a, d₁), (some b, d₂), (some c, d₃)]) =
        .ok (x, y, z) ↔
      first d₁ = .ok x ∧ second d₂ = .ok y ∧ third d₃ = .ok z := by
  refine ⟨fun htriple => ?_, fun ⟨hx, hy, hz⟩ => triple_object hab hac hbc hx hy hz⟩
  cases hx : first d₁ with
  | error fault =>
      simp [triple, fields, entries, takeField_of_mem, TripleSlots.set, fill, hx, bind,
        Except.bind] at htriple
  | ok x' =>
      cases hy : second d₂ with
      | error fault =>
          simp [triple, fields, entries, takeField_of_mem, TripleSlots.set, hab, fill, hx, hy, bind,
            Except.bind, pure, Except.pure] at htriple
      | ok y' =>
          cases hz : third d₃ with
          | error fault =>
              simp [triple, fields, entries, takeField_of_mem, TripleSlots.set, hab, hac, hbc, fill,
                hx, hy, hz, bind, Except.bind, pure, Except.pure] at htriple
          | ok z' =>
              rw [triple_object hab hac hbc hx hy hz] at htriple
              cases htriple
              exact ⟨rfl, rfl, rfl⟩

/-- **Which listings can be read**: those with sides that are words of the machine. -/
theorem listing_ofListing {x : Listing} {w h : Nat} {cells : List (List Piece)} :
    listing (ofListing x).draft = .ok (w, h, cells) ↔
      (x.width = w ∧ w ≤ maxWord) ∧ (x.height = h ∧ h ≤ maxWord) ∧ cells = x.pieces := by
  have hcells := list_array (list_array piece_ofListed) x.cells
  have hdraft : (ofListing x).draft = .object
      [(some "width", .number x.width), (some "height", .number x.height),
       (some "cells",
         (Json.array (x.cells.map fun cell => .array (cell.map ofListed))).draft)] := rfl
  rw [hdraft, listing, triple_object_eq_ok_iff (by decide) (by decide) (by decide),
    natural_number_eq_ok_iff, natural_number_eq_ok_iff, hcells, Except.ok.injEq, Listing.pieces,
    eq_comm (a := cells)]

/-! ### Texts -/

/-- A text is read when it ends after a value that is read. -/
theorem decode_eq_ok_iff {α : Type} {value : Decoder α} {text : String} {x : α} :
    decode value text = .ok x ↔
      (Json.read text.toList).2 = true ∧ value (Json.read text.toList).1 = .ok x := by
  unfold decode
  generalize Json.read text.toList = r
  obtain ⟨d, ends⟩ := r
  cases ends with
  | true => simp
  | false => simp [bind_eq_ok_iff]

/-- The text of what is listed is read as what is listed, in any layout. -/
theorem decode_listing_text {x : Listing} {l : Layout} (hl : l.IsBlank) {w h : Nat}
    {cells : List (List Piece)} :
    decode listing (x.text l) = .ok (w, h, cells) ↔
      (x.width = w ∧ w ≤ maxWord) ∧ (x.height = h ∧ h ≤ maxWord) ∧ cells = x.pieces := by
  rw [Listing.text, decode_write hl, listing_ofListing]

end Record

/-! ### What is written -/

namespace Cell

/-- A cell as it is listed when it is written: the kinds that lie on it, each with its facing if it
has one. -/
def listed (c : Cell) : List Record.Listed := c.kinds.map fun k => ⟨k, (c.facing k).map some⟩

/-- The kinds that lie on a cell are listed in catalog order, and none of them twice. -/
theorem ascending_listed (c : Cell) :
    c.listed.Pairwise fun x y => x.kind.index < y.kind.index := by
  refine List.pairwise_map.2 (c.contents.keys_ascending.imp fun {k k'} hk => ?_)
  exact Nat.compare_eq_lt.1 hk

/-- No kind is listed that lies on no cell, and no facing that is nothing. -/
theorem isPlaceable_of_mem_listed {c : Cell} {x : Record.Listed} (hx : x ∈ c.listed) :
    x.kind.isPlaceable = true ∧ x.facing ≠ some none := by
  obtain ⟨k, hk, rfl⟩ := List.mem_map.1 hx
  refine ⟨isPlaceable_of_mem_kinds hk, ?_⟩
  cases c.facing k <;> simp

/-- The pieces of a cell are what is listed of it. -/
theorem map_ofPiece_pieces (c : Cell) :
    c.pieces.map Record.ofPiece = c.listed.map Record.ofListed := by
  simp only [pieces, listed, kinds, SortedMap.keys, List.map_map]
  refine List.map_congr_left fun e he => ?_
  have hentry : c.get? e.1 = some e.2 := SortedMap.get?_eq_some_iff.2 he
  have hfacing : c.facing e.1 = e.2 := by
    rw [facing, hentry]
    rfl
  obtain ⟨k, facing⟩ := e
  cases facing <;> simp [Record.ofPiece, Record.ofListed, hfacing]

end Cell

namespace Grid

/-- A board as it is listed when it is written. -/
def listed (g : Grid) : Record.Listing :=
  ⟨g.width, g.height, g.positions.map fun p => (g.cell p).listed⟩

/-- **What is written of a board is its listing.** -/
theorem ofGrid_eq (g : Grid) : Record.ofGrid g = Record.ofListing g.listed := by
  have hcells : g.cells.toList.map Record.ofCell =
      g.listed.cells.map fun cell => .array (cell.map Record.ofListed) := by
    rw [toList_cells, listed, List.map_map, List.map_map]
    refine List.map_congr_left fun p _ => ?_
    rw [Function.comp_apply, Record.ofCell, Cell.map_ofPiece_pieces]
    rfl
  rw [Record.ofGrid, hcells]
  rfl

/-- The text of a board that is read from a text: the same board, put in order. -/
def rewritten (text : String) : Except Error String := (load text).map save

/-- A text is read just when a board is what it lists. -/
theorem load_eq_ok_iff {text : String} {g : Grid} :
    load text = .ok g ↔
      ∃ w h cells, Record.decode Record.listing text = .ok (w, h, cells) ∧ g.Lists w h cells := by
  have hload : load text = .ok g ↔ Record.decode Record.grid text = .ok g := by
    unfold load ofRecord
    cases Record.decode Record.grid text <;> simp
  rw [hload, Record.decode_eq_ok_iff, Record.grid_eq_ok_iff]
  simp only [Record.decode_eq_ok_iff]
  constructor
  · rintro ⟨hends, w, h, cells, hread, hlists⟩
    exact ⟨w, h, cells, ⟨hends, hread⟩, hlists⟩
  · rintro ⟨w, h, cells, ⟨hends, hread⟩, hlists⟩
    exact ⟨hends, w, h, cells, hread, hlists⟩

/-- A board is read from its own text. -/
theorem load_written (g : Grid) : load g.save = .ok g := by
  have hread : Record.decode Record.grid g.save = .ok g :=
    (Record.decode_compact _ _).trans (Record.reads_grid g)
  rw [load, hread]
  rfl

/-- The text of a listing is read when the board is what is listed. -/
theorem load_text_eq_ok_iff {x : Record.Listing} {l : Json.Layout} (hl : l.IsBlank) {g : Grid} :
    load (x.text l) = .ok g ↔
      ∃ w h : Nat, (x.width = w ∧ x.height = h) ∧ g.Lists w h x.pieces := by
  rw [load_eq_ok_iff]
  constructor
  · rintro ⟨w, h, cells, hread, hlists⟩
    obtain ⟨⟨hw, -⟩, ⟨hh, -⟩, rfl⟩ := (Record.decode_listing_text hl).1 hread
    exact ⟨w, h, ⟨hw, hh⟩, hlists⟩
  · rintro ⟨w, h, ⟨hw, hh⟩, hlists⟩
    have hbound : maxDimension ≤ Record.maxWord := by decide
    have hwidth : w ≤ Record.maxWord := hlists.width ▸ Nat.le_trans g.width_le hbound
    have hheight : h ≤ Record.maxWord := hlists.height ▸ Nat.le_trans g.height_le hbound
    exact ⟨w, h, x.pieces, (Record.decode_listing_text hl).2 ⟨⟨hw, hwidth⟩, ⟨hh, hheight⟩, rfl⟩,
      hlists⟩

/-- What is listed can be read when its sides can be those of a board and there is a list for each
cell. -/
theorem exists_load_text_iff {x : Record.Listing} {l : Json.Layout} (hl : l.IsBlank) :
    (∃ g, load (x.text l) = .ok g) ↔
      ((1 ≤ x.width ∧ x.width ≤ 256) ∧ (1 ≤ x.height ∧ x.height ≤ 256)) ∧
        (x.cells.length : Int) = x.width * x.height := by
  have hlength : x.pieces.length = x.cells.length := List.length_map ..
  simp only [load_text_eq_ok_iff hl, lists_iff]
  constructor
  · rintro ⟨g, w, h, ⟨hw, hh⟩, hg⟩
    obtain ⟨hsides, hcells⟩ := exists_ofCells_map_iff.1 ⟨g, hg⟩
    rw [hlength] at hcells
    rw [hw, hh, hcells]
    refine ⟨by omega, by push_cast; rfl⟩
  · rintro ⟨hsides, hcells⟩
    obtain ⟨w, hw⟩ := Int.eq_ofNat_of_zero_le (show 0 ≤ x.width by omega)
    obtain ⟨h, hh⟩ := Int.eq_ofNat_of_zero_le (show 0 ≤ x.height by omega)
    rw [hw, hh] at hsides hcells
    obtain ⟨g, hg⟩ := exists_ofCells_map_iff.2
      (show ((1 ≤ w ∧ w ≤ 256) ∧ (1 ≤ h ∧ h ≤ 256)) ∧ x.pieces.length = w * h by
        rw [hlength]
        exact ⟨by omega, by exact_mod_cast hcells⟩)
    exact ⟨g, w, h, ⟨hw, hh⟩, hg⟩

/-- A text that is written is written again as it is. -/
theorem rewritten_of_rewritten {text tidy : String} (h : rewritten text = .ok tidy) :
    rewritten tidy = .ok tidy := by
  unfold rewritten at h
  cases hload : load text with
  | error fault => rw [hload] at h; cases h
  | ok g =>
      rw [hload] at h
      cases h
      rw [rewritten, load_written]
      rfl

/-- **Reading a board puts it in order.**  What is listed in a record is read just when its sides
can be those of a board and there is a list for each cell, and a text that is read at all is read as
what it lists.  Writing a board lists the kinds on each cell once, in catalog order and with the
facings that they have; this is read as the same board, so a text that was written is written again
as it is. -/
theorem load_normalizes :
    (∀ (x : Record.Listing) (l : Json.Layout), l.IsBlank →
      ((∃ g, load (x.text l) = .ok g) ↔
        ((1 ≤ x.width ∧ x.width ≤ 256) ∧ (1 ≤ x.height ∧ x.height ≤ 256)) ∧
          (x.cells.length : Int) = x.width * x.height) ∧
      ∀ g, load (x.text l) = .ok g ↔
        ∃ w h : Nat, (x.width = w ∧ x.height = h) ∧ g.Lists w h x.pieces) ∧
    (∀ text g, load text = .ok g ↔
      ∃ w h cells, Record.decode Record.listing text = .ok (w, h, cells) ∧ g.Lists w h cells) ∧
    (∀ g : Grid, (g.save = g.listed.text .oneLine ∧ load g.save = .ok g) ∧
      ∀ cell ∈ g.listed.cells,
        cell.Pairwise (fun a b => a.kind.index < b.kind.index) ∧
          ∀ a ∈ cell, a.kind.isPlaceable = true ∧ a.facing ≠ some none) ∧
    ∀ text tidy, rewritten text = .ok tidy → rewritten tidy = .ok tidy := by
  refine ⟨fun x l hl => ⟨exists_load_text_iff hl, fun g => load_text_eq_ok_iff hl⟩,
    fun text g => load_eq_ok_iff, fun g => ⟨⟨?_, g.load_written⟩, ?_⟩,
    fun text tidy => rewritten_of_rewritten⟩
  · rw [save, ofGrid_eq]
    rfl
  · intro cell hcell
    obtain ⟨p, -, rfl⟩ := List.mem_map.1 hcell
    exact ⟨(g.cell p).ascending_listed, fun a => Cell.isPlaceable_of_mem_listed⟩

/-- The last facing that is given to a kind stays, and what lies on no cell is dropped. -/
example :
    (Cell.ofPieces [⟨.icon .rock, some .up⟩, ⟨.icon .empty, some .up⟩, ⟨.icon .baba, none⟩,
        ⟨.icon .rock, some .left⟩, ⟨.icon .rock, none⟩]).listed =
      [⟨.icon .baba, none⟩, ⟨.icon .rock, some (some .left)⟩] := by
  decide

end Grid

end RuleTiles
