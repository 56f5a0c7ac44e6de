/-
**Drawings show boards.**

A drawing is one text.  It can be made in a single pass over the places of a board, which starts a
new line whenever the place is the first of a row, and for each place picks the kind that asks most
to be shown.  Cut at its line feeds, the text falls into the rows of the board, so each cell can be
found again by its row and column.  What stands there is a dot for a cell on which nothing lies, and
otherwise tells the kind that is shown, as glyphs differ from kind to kind.

Main definitions:

* `RuleTiles.Cell.Shows` — **the kind that is shown** for a cell;
* `RuleTiles.Cell.foremost?`, `RuleTiles.Grid.drawByPlaces` — the kind that asks most to be shown,
  and the drawing that is made in a single pass;
* `RuleTiles.Grid.drawUnder`, `RuleTiles.Grid.drawnLines` — a drawing under rules, if there are any,
  and its lines.

Main results:

* `RuleTiles.Cell.shows_iff`, `RuleTiles.Cell.foremost?_eq` — the kind that is shown is the one that
  is drawn, and the one that asks most for it;
* `RuleTiles.Cell.draw_eq_emptyGlyph_iff`, `RuleTiles.Cell.draw_eq_draw_iff` — what the character of
  a cell tells;
* `RuleTiles.Grid.splitOn_drawWith` — the lines of a drawing are its rows;
* `RuleTiles.Grid.drawByPlaces_eq` — a single pass makes the same drawing;
* `RuleTiles.Grid.draw_faithful` — **a drawing shows its board**, and tells which kinds lie where
  when no two objects share a cell.
-/

import Mathlib.Data.List.MinMax
import Mathlib.Data.Prod.Lex
import RuleTiles.Drawing
import RuleTiles.Proofs.Board.Contents
import RuleTiles.Proofs.Board.Places

set_option relaxedAutoImplicit false
set_option autoImplicit false

namespace RuleTiles

/-! ### The kind that is shown -/

/-- Whether rules, if there are any, make a kind YOU. -/
def Kind.isYou (rules : Option RuleSet) (k : Kind) : Bool :=
  rules.any fun r => r.states k .you

/-- How much a kind asks to be shown. -/
def Kind.prominence (rules : Option RuleSet) (k : Kind) : Nat :=
  if k.isText then 2 else if k.isYou rules then 1 else 0

theorem Kind.prominence_le (rules : Option RuleSet) {k : Kind} : k.prominence rules ≤ 2 := by
  unfold prominence
  split
  · exact Nat.le_refl _
  · split <;> omega

/-- Only words ask the most. -/
theorem Kind.two_le_prominence_iff (rules : Option RuleSet) {k : Kind} :
    2 ≤ k.prominence rules ↔ k.isText = true := by
  unfold prominence
  cases k.isText <;> cases k.isYou rules <;> simp

/-- Next to words, only what the rules make YOU asks to be shown. -/
theorem Kind.one_le_prominence_iff (rules : Option RuleSet) {k : Kind} :
    1 ≤ k.prominence rules ↔ k.isText = true ∨ k.isYou rules = true := by
  unfold prominence
  cases k.isText <;> cases k.isYou rules <;> simp

theorem Kind.states_getD (rules : Option RuleSet) (k : Kind) :
    (rules.getD .empty).states k .you = k.isYou rules := by
  cases rules with
  | none => exact decide_eq_false (SortedSet.not_mem_empty _)
  | some r => rfl

namespace Cell

/-- **The kind that is shown for a cell**: the first word on it; without words, the first icon that
the rules make YOU; without these, the first icon. -/
inductive Shows (c : Cell) (rules : Option RuleSet) (k : Kind) : Prop
  | word (hk : k ∈ c.kinds) (hword : k.isText = true)
      (hfirst : ∀ x ∈ c.kinds, x.isText = true → k.index ≤ x.index)
  | player (hk : k ∈ c.kinds) (hwords : ∀ x ∈ c.kinds, x.isText = false)
      (hyou : k.isYou rules = true)
      (hfirst : ∀ x ∈ c.kinds, x.isYou rules = true → k.index ≤ x.index)
  | other (hk : k ∈ c.kinds) (hwords : ∀ x ∈ c.kinds, x.isText = false)
      (hyou : ∀ x ∈ c.kinds, x.isYou rules = false)
      (hfirst : ∀ x ∈ c.kinds, k.index ≤ x.index)

/-- The kind that asks most to be shown, and of several the first in the catalog. -/
def foremost? (c : Cell) (rules : Option RuleSet) : Option Kind :=
  c.kinds.argmin fun k => toLex (OrderDual.toDual (k.prominence rules), k.index)

/-- The first kind with a property is the one with the least place in the catalog. -/
theorem find?_kinds_eq_some_iff {c : Cell} {p : Kind → Bool} {k : Kind} :
    c.kinds.find? p = some k ↔
      (k ∈ c.kinds ∧ p k = true) ∧ ∀ x ∈ c.kinds, p x = true → k.index ≤ x.index := by
  have hascending : c.kinds.Pairwise fun a b => a.index < b.index :=
    c.contents.keys_ascending.imp Nat.compare_eq_lt.1
  generalize c.kinds = l at hascending
  induction l with
  | nil => simp
  | cons a l ih =>
      obtain ⟨hleast, hrest⟩ := List.pairwise_cons.1 hascending
      rw [List.find?_cons]
      cases ha : p a with
      | true =>
          simp only [Option.some.injEq, List.mem_cons]
          constructor
          · rintro rfl
            refine ⟨⟨.inl rfl, ha⟩, fun x hx _ => ?_⟩
            rcases hx with rfl | hx
            · exact Nat.le_refl _
            · exact Nat.le_of_lt (hleast x hx)
          · rintro ⟨⟨rfl | hk, -⟩, hfirst⟩
            · rfl
            · exact absurd (hfirst a (.inl rfl) ha) (Nat.not_le_of_lt (hleast k hk))
      | false =>
          simp only [ih hrest, List.mem_cons]
          constructor
          · rintro ⟨⟨hk, hpk⟩, hfirst⟩
            refine ⟨⟨.inr hk, hpk⟩, fun x hx hpx => ?_⟩
            rcases hx with rfl | hx
            · rw [ha] at hpx; cases hpx
            · exact hfirst x hx hpx
          · rintro ⟨⟨rfl | hk, hpk⟩, hfirst⟩
            · rw [ha] at hpk; cases hpk
            · exact ⟨⟨hk, hpk⟩, fun x hx => hfirst x (.inr hx)⟩

theorem head?_kinds_eq_some_iff {c : Cell} {k : Kind} :
    c.kinds.head? = some k ↔ k ∈ c.kinds ∧ ∀ x ∈ c.kinds, k.index ≤ x.index := by
  have hfind : c.kinds.head? = c.kinds.find? fun _ => true := by
    cases c.kinds <;> rfl
  rw [hfind, find?_kinds_eq_some_iff]
  simp

/-- **The kind that is shown is the one that is drawn.** -/
theorem shows_iff {c : Cell} {rules : Option RuleSet} {k : Kind} :
    c.Shows rules k ↔ c.top? (rules.getD .empty) = some k := by
  have htop : c.top? (rules.getD .empty) = (c.kinds.find? Kind.isText).or
      ((c.kinds.find? fun x => x.isYou rules).or c.kinds.head?) := by
    simp [top?, Kind.states_getD]
  simp only [htop, Option.or_eq_some_iff, find?_kinds_eq_some_iff, head?_kinds_eq_some_iff,
    List.find?_eq_none, Bool.not_eq_true]
  constructor
  · rintro (⟨hk, hword, hfirst⟩ | ⟨hk, hwords, hyou, hfirst⟩ | ⟨hk, hwords, hyou, hfirst⟩)
    · exact .inl ⟨⟨hk, hword⟩, hfirst⟩
    · exact .inr ⟨hwords, .inl ⟨⟨hk, hyou⟩, hfirst⟩⟩
    · exact .inr ⟨hwords, .inr ⟨hyou, hk, hfirst⟩⟩
  · rintro (⟨⟨hk, hword⟩, hfirst⟩ | ⟨hwords, ⟨⟨hk, hyou⟩, hfirst⟩ | ⟨hyou, hk, hfirst⟩⟩)
    · exact .word hk hword hfirst
    · exact .player hk hwords hyou hfirst
    · exact .other hk hwords hyou hfirst

/-- No kind asks more to be shown than the one found, and those that ask as much stand behind it. -/
theorem most_of_foremost? {c : Cell} {rules : Option RuleSet} {k : Kind}
    (h : c.foremost? rules = some k) :
    k ∈ c.kinds ∧ (∀ x ∈ c.kinds, x.prominence rules ≤ k.prominence rules) ∧
      ∀ x ∈ c.kinds, k.prominence rules ≤ x.prominence rules → k.index ≤ x.index := by
  obtain ⟨hk, hleast, -⟩ := List.argmin_eq_some_iff.1 h
  have hcompare : ∀ x ∈ c.kinds, x.prominence rules < k.prominence rules ∨
      x.prominence rules = k.prominence rules ∧ k.index ≤ x.index := by
    intro x hx
    rcases Prod.Lex.toLex_le_toLex.1 (hleast x hx) with hless | ⟨heq, hindex⟩
    · exact .inl (OrderDual.toDual_lt_toDual.1 hless)
    · exact .inr ⟨(OrderDual.toDual_inj.1 heq).symm, hindex⟩
  refine ⟨hk, fun x hx => ?_, fun x hx hle => ?_⟩
  · rcases hcompare x hx with hless | ⟨heq, -⟩
    · exact Nat.le_of_lt hless
    · exact Nat.le_of_eq heq
  · rcases hcompare x hx with hless | ⟨-, hindex⟩
    · exact absurd hle (Nat.not_le_of_lt hless)
    · exact hindex

/-- What asks most to be shown is shown. -/
theorem shows_of_foremost? {c : Cell} {rules : Option RuleSet} {k : Kind}
    (h : c.foremost? rules = some k) : c.Shows rules k := by
  obtain ⟨hk, hmost, hfirst⟩ := most_of_foremost? h
  cases hword : k.isText with
  | true =>
      refine .word hk hword fun x hx hxword => hfirst x hx ?_
      exact Nat.le_trans (Kind.prominence_le rules) ((Kind.two_le_prominence_iff rules).2 hxword)
  | false =>
      have hlow : k.prominence rules < 2 := by
        rw [← Nat.not_le, Kind.two_le_prominence_iff, hword]
        exact Bool.false_ne_true
      have hwords : ∀ x ∈ c.kinds, x.isText = false := by
        intro x hx
        rw [← Bool.not_eq_true, ← Kind.two_le_prominence_iff rules, Nat.not_le]
        exact Nat.lt_of_le_of_lt (hmost x hx) hlow
      cases hyou : k.isYou rules with
      | true =>
          refine .player hk hwords hyou fun x hx hxyou => hfirst x hx ?_
          have hless : 1 ≤ x.prominence rules := (Kind.one_le_prominence_iff rules).2 (.inr hxyou)
          exact Nat.le_trans (Nat.le_of_lt_succ hlow) hless
      | false =>
          have hnone : k.prominence rules < 1 := by
            rw [← Nat.not_le, Kind.one_le_prominence_iff, hword, hyou]
            simp
          refine .other hk hwords (fun x hx => ?_) fun x hx => hfirst x hx (by omega)
          rw [← Bool.not_eq_true]
          intro hxyou
          have := (Kind.one_le_prominence_iff rules).2 (.inr hxyou)
          have := hmost x hx
          omega

/-- **The kind that is drawn is the one that asks most to be shown.** -/
theorem foremost?_eq (c : Cell) (rules : Option RuleSet) :
    c.foremost? rules = c.top? (rules.getD .empty) := by
  cases h : c.foremost? rules with
  | none =>
      have hnone : c.kinds = [] := List.argmin_eq_none.1 h
      simp [top?, hnone]
  | some k => exact (shows_iff.1 (shows_of_foremost? h)).symm

/-- The glyph of the kind that asks most to be shown is the character that is drawn. -/
theorem elim_foremost? (c : Cell) (rules : Option RuleSet) :
    (c.foremost? rules).elim emptyGlyph Kind.glyph = c.draw (rules.getD .empty) := by
  rw [foremost?_eq, draw]
  cases c.top? (rules.getD .empty) <;> rfl

/-! ### The character of a cell -/

theorem kinds_eq_nil_iff {c : Cell} : c.kinds = [] ↔ c.isEmpty = true := by
  simp [kinds, isEmpty, SortedMap.keys, SortedMap.isEmpty]

/-- A cell is drawn as the kind that is shown. -/
theorem draw_of_shows {c : Cell} {rules : Option RuleSet} {k : Kind} (h : c.Shows rules k) :
    c.draw (rules.getD .empty) = k.glyph := by
  rw [draw, shows_iff.1 h]

theorem Shows.mem {c : Cell} {rules : Option RuleSet} {k : Kind} (h : c.Shows rules k) :
    k ∈ c.kinds := by
  rcases h with ⟨hk, -, -⟩ | ⟨hk, -, -, -⟩ | ⟨hk, -, -, -⟩ <;> exact hk

/-- On every cell on which something lies a kind is shown. -/
theorem exists_shows {c : Cell} (rules : Option RuleSet) (h : c.isEmpty = false) :
    ∃ k, c.Shows rules k := by
  cases hk : c.foremost? rules with
  | none =>
      have hnone := kinds_eq_nil_iff.1 (List.argmin_eq_none.1 hk)
      rw [h] at hnone
      cases hnone
  | some k => exact ⟨k, shows_of_foremost? hk⟩

theorem draw_of_isEmpty {c : Cell} (rules : RuleSet) (h : c.isEmpty = true) :
    c.draw rules = emptyGlyph := by
  simp [draw, top?, kinds_eq_nil_iff.2 h]

/-- No kind that may lie on a cell is drawn as a dot. -/
theorem glyph_ne_emptyGlyph {c : Cell} {k : Kind} (h : k ∈ c.kinds) : k.glyph ≠ emptyGlyph := by
  intro hdot
  have hempty : k = .icon .empty := Kind.glyph_injective (hdot.trans (by rfl))
  have hplaceable := isPlaceable_of_mem_kinds h
  rw [hempty] at hplaceable
  cases hplaceable

/-- A dot stands for a cell on which nothing lies. -/
theorem draw_eq_emptyGlyph_iff {c : Cell} {rules : RuleSet} :
    c.draw rules = emptyGlyph ↔ c.isEmpty = true := by
  constructor
  · intro hdot
    rw [← Bool.not_eq_false]
    intro hsome
    obtain ⟨k, hk⟩ := exists_shows (some rules) hsome
    exact glyph_ne_emptyGlyph hk.mem ((draw_of_shows hk).symm.trans hdot)
  · exact draw_of_isEmpty rules

/-- A single object on a cell is the one that is drawn, whatever the rules. -/
theorem draw_of_kinds_eq_singleton {c : Cell} {k : Kind} (rules : RuleSet) (h : c.kinds = [k]) :
    c.draw rules = k.glyph := by
  have hsome : c.isEmpty = false := by
    rw [← Bool.not_eq_true, ← kinds_eq_nil_iff, h]
    exact List.cons_ne_nil k []
  obtain ⟨x, hx⟩ := exists_shows (some rules) hsome
  have hmem := hx.mem
  rw [h, List.mem_singleton] at hmem
  rw [← hmem]
  exact draw_of_shows hx

/-- When no two objects share a cell, its character tells what lies there. -/
theorem draw_eq_draw_iff {c d : Cell} {rules rules' : RuleSet} (hc : c.size ≤ 1)
    (hd : d.size ≤ 1) : c.draw rules = d.draw rules' ↔ c.kinds = d.kinds := by
  have hsingle : ∀ c : Cell, c.size ≤ 1 → c.isEmpty = false → ∃ k, c.kinds = [k] := by
    intro c hc hsome
    rw [← Bool.not_eq_true, ← kinds_eq_nil_iff, ← List.length_eq_zero_iff] at hsome
    have hlength : c.kinds.length = c.size := List.length_map _
    exact List.length_eq_one_iff.1 (by omega)
  cases hcempty : c.isEmpty with
  | true =>
      rw [kinds_eq_nil_iff.2 hcempty, draw_of_isEmpty rules hcempty, eq_comm,
        draw_eq_emptyGlyph_iff, ← kinds_eq_nil_iff, eq_comm]
  | false =>
      obtain ⟨k, hk⟩ := hsingle c hc hcempty
      cases hdempty : d.isEmpty with
      | true =>
          rw [kinds_eq_nil_iff.2 hdempty, draw_of_isEmpty rules' hdempty, draw_eq_emptyGlyph_iff,
            ← kinds_eq_nil_iff]
      | false =>
          obtain ⟨x, hx⟩ := hsingle d hd hdempty
          rw [draw_of_kinds_eq_singleton rules hk, draw_of_kinds_eq_singleton rules' hx, hk, hx,
            List.singleton_inj]
          exact ⟨Kind.glyph_injective, congrArg Kind.glyph⟩

-- of two objects on a cell only one is drawn
example : ((Cell.empty.put (.icon .baba) none).put (.icon .rock) none).draw .empty =
    (Cell.empty.put (.icon .baba) none).draw .empty := by decide

end Cell

/-! ### The lines of a drawing -/

theorem Kind.glyph_ne_newline (k : Kind) : k.glyph ≠ '\n' := by
  have key : ∀ k ∈ Kind.all, k.glyph ≠ '\n' := by decide +kernel
  exact key k (mem_all k)

theorem Cell.draw_ne_newline (c : Cell) (rules : RuleSet) : c.draw rules ≠ '\n' := by
  unfold draw
  split
  · exact Kind.glyph_ne_newline _
  · decide

namespace Grid

/-- A drawing under rules, if there are any. -/
def drawUnder (g : Grid) (rules : Option RuleSet) : String :=
  rules.elim g.draw g.drawWith

theorem drawUnder_eq (g : Grid) (rules : Option RuleSet) :
    g.drawUnder rules = g.drawWith (rules.getD .empty) := by
  cases rules <;> rfl

/-- **The lines of a drawing are its rows.** -/
theorem splitOn_drawWith (g : Grid) (rules : RuleSet) :
    (g.drawWith rules).toList.splitOn '\n' = g.drawRows rules := by
  rw [drawWith, String.toList_ofList]
  refine List.splitOn_intercalate '\n' (fun line hline => ?_) ?_
  · obtain ⟨row, -, rfl⟩ := List.mem_map.1 hline
    simp [Cell.draw_ne_newline]
  · have := g.height_pos
    simp [drawRows]
    omega

/-- The lines of a drawing under rules, if there are any. -/
def drawnLines (g : Grid) (rules : Option RuleSet) : List (List Char) :=
  (g.drawUnder rules).toList.splitOn '\n'

theorem drawnLines_eq (g : Grid) (rules : Option RuleSet) :
    g.drawnLines rules = g.drawRows (rules.getD .empty) := by
  rw [drawnLines, drawUnder_eq, splitOn_drawWith]

theorem length_drawRows (g : Grid) (rules : RuleSet) : (g.drawRows rules).length = g.height := by
  simp [drawRows]

theorem length_of_mem_drawRows {g : Grid} {rules : RuleSet} {l : List Char}
    (h : l ∈ g.drawRows rules) : l.length = g.width := by
  obtain ⟨row, -, rfl⟩ := List.mem_map.1 h
  simp

/-- Each cell is found again by its row and column. -/
theorem getElem?_drawRows {g : Grid} (rules : RuleSet) {row col : Nat} (hrow : row < g.height)
    (hcol : col < g.width) :
    ∃ l, (g.drawRows rules)[row]? = some l ∧
      l[col]? = some ((g.cell (.clamp row col)).draw rules) := by
  refine ⟨_, by rw [drawRows, List.getElem?_map, List.getElem?_range hrow]; rfl, ?_⟩
  rw [List.getElem?_map, List.getElem?_range hcol]
  rfl

/-! ### Drawing in a single pass -/

/-- What is written for the cell at a place: a line feed if the place is the first of a row other
than the top one, and the glyph of the kind that asks most to be shown. -/
def stroke (g : Grid) (rules : Option RuleSet) (place : Nat) (p : Position) : List Char :=
  (if 0 < place ∧ place % g.width = 0 then ['\n'] else []) ++
    [((g.cell p).foremost? rules).elim emptyGlyph Kind.glyph]

/-- A drawing that is made in a single pass over the positions of a board. -/
def drawByPlaces (g : Grid) (rules : Option RuleSet) : String :=
  .ofList (g.positions.mapIdx (g.stroke rules)).flatten

/-- Something written before the first of several characters is written before them all. -/
theorem flatMap_range_first {α : Type} (before : List α) (ch : Nat → α) {n : Nat} (hn : 0 < n) :
    ((List.range n).flatMap fun i => (if i = 0 then before else []) ++ [ch i]) =
      before ++ (List.range n).map ch := by
  obtain ⟨n, rfl⟩ := Nat.exists_eq_succ_of_ne_zero (Nat.ne_of_gt hn)
  rw [List.range_succ_eq_map, List.flatMap_cons, List.flatMap_map, List.map_cons, List.map_map,
    List.map_eq_flatMap]
  simp

/-- Lists with something between them: the first, and each later one with it before. -/
theorem intercalate_cons_eq_flatMap {α : Type} (between l : List α) (ls : List (List α)) :
    between.intercalate (l :: ls) = l ++ ls.flatMap fun l => between ++ l := by
  induction ls generalizing l with
  | nil => simp [List.intercalate_singleton]
  | cons x ls ih =>
      rw [List.intercalate_cons_cons, ih, List.flatMap_cons, List.append_assoc, List.append_assoc]

/-- Something written before all lines but the first is written between the lines. -/
theorem flatMap_range_between {α : Type} (between : List α) (line : Nat → List α) {n : Nat}
    (hn : 0 < n) :
    ((List.range n).flatMap fun i => (if 0 < i then between else []) ++ line i) =
      between.intercalate ((List.range n).map line) := by
  obtain ⟨n, rfl⟩ := Nat.exists_eq_succ_of_ne_zero (Nat.ne_of_gt hn)
  rw [List.range_succ_eq_map, List.map_cons, intercalate_cons_eq_flatMap]
  simp [List.flatMap_map]

/-- What is written at a place, told from its row and column. -/
def strokeAt (g : Grid) (rules : RuleSet) (row col : Nat) : List Char :=
  (if col = 0 then if 0 < row then ['\n'] else [] else []) ++
    [(g.cell (.clamp row col)).draw rules]

/-- The first place of a row comes after other places just when the row is not the top one. -/
theorem stroke_eq (g : Grid) (rules : Option RuleSet) (place : Nat) (p : Position) :
    g.stroke rules place p =
      (if place % g.width = 0 then if 0 < place / g.width then ['\n'] else [] else []) ++
        [(g.cell p).draw (rules.getD .empty)] := by
  rw [stroke, Cell.elim_foremost?]
  congr 1
  by_cases hfirst : place % g.width = 0
  · have hrow : 0 < place / g.width ↔ 0 < place := by
      rw [Nat.div_pos_iff]
      constructor
      · rintro ⟨hwidth, hle⟩
        omega
      · intro hplace
        exact ⟨g.width_pos, Nat.le_of_dvd hplace (Nat.dvd_of_mod_eq_zero hfirst)⟩
    simp only [hfirst, hrow, and_true, if_true]
  · rw [if_neg hfirst, if_neg fun h => hfirst h.2]

theorem mapIdx_stroke (g : Grid) (rules : Option RuleSet) :
    g.positions.mapIdx (g.stroke rules) =
      (List.range g.height).flatMap fun row =>
        (List.range g.width).map (g.strokeAt (rules.getD .empty) row) := by
  rw [← map_range_mul (g.strokeAt (rules.getD .empty)) g.width_pos, positions_eq_map_range]
  refine List.ext_getElem (by simp) fun i _ _ => ?_
  rw [List.getElem_mapIdx, List.getElem_map, List.getElem_map, List.getElem_range, stroke_eq,
    strokeAt]

/-- **A single pass makes the same drawing.** -/
theorem drawByPlaces_eq (g : Grid) (rules : Option RuleSet) :
    g.drawByPlaces rules = g.drawUnder rules := by
  have hline : ∀ row, ((List.range g.width).flatMap (g.strokeAt (rules.getD .empty) row)) =
      (if 0 < row then ['\n'] else []) ++
        (List.range g.width).map fun (col : Nat) =>
          (g.cell (.clamp row col)).draw (rules.getD .empty) :=
    fun row => flatMap_range_first _ _ g.width_pos
  rw [drawUnder_eq, drawWith, drawByPlaces, mapIdx_stroke, ← List.flatMap_id, List.flatMap_assoc]
  simp only [List.flatMap_map, id, hline, flatMap_range_between _ _ g.height_pos, drawRows]

/-! ### Drawings and boards -/

/-- Two boards are drawn alike just when their cells are. -/
theorem drawWith_eq_iff {g h : Grid} (hsize : SameSize g h) {rules rules' : RuleSet} :
    g.drawWith rules = h.drawWith rules' ↔
      ∀ p ∈ g.positions, (g.cell p).draw rules = (h.cell p).draw rules' := by
  have hrows : g.drawWith rules = h.drawWith rules' ↔ g.drawRows rules = h.drawRows rules' := by
    constructor
    · intro hdraw
      rw [← splitOn_drawWith, hdraw, splitOn_drawWith]
    · intro hdraw
      rw [drawWith, drawWith, hdraw]
  rw [hrows, drawRows, drawRows, ← hsize.width, ← hsize.height]
  simp only [List.map_inj_left, positions, List.forall_mem_flatMap, List.forall_mem_map]

/-- **A drawing tells which kinds lie where** when no two objects share a cell. -/
theorem drawUnder_eq_iff {g h : Grid} (hsize : SameSize g h) {rules rules' : Option RuleSet}
    (hg : ∀ p, (g.cell p).size ≤ 1) (hh : ∀ p, (h.cell p).size ≤ 1) :
    g.drawUnder rules = h.drawUnder rules' ↔
      ∀ p k, k ∈ (g.cell p).kinds ↔ k ∈ (h.cell p).kinds := by
  rw [drawUnder_eq, drawUnder_eq, drawWith_eq_iff hsize]
  simp only [Cell.draw_eq_draw_iff (hg _) (hh _)]
  constructor
  · intro hkinds p k
    cases hp : g.contains p with
    | true => rw [hkinds p (mem_positions.2 hp)]
    | false =>
        have hp' : h.contains p = false := by
          rwa [contains, ← hsize.width, ← hsize.height]
        rw [cell_of_not_contains hp, cell_of_not_contains hp']
  · intro hkinds p _
    exact Cell.kinds_ext (hkinds p)

/-- **A drawing shows its board.**  The drawing made in a single pass has a line for each row and a
character for each column.  There a dot stands for a cell on which nothing lies, and for any other
the glyph of the kind that is shown.  When no two objects share a cell, only boards with the same
kinds on every cell are drawn alike, whatever the rules. -/
theorem draw_faithful (g : Grid) (rules : Option RuleSet) :
    g.drawUnder rules = g.drawByPlaces rules ∧
      ((g.drawnLines rules).length = g.height ∧
        (∀ l ∈ g.drawnLines rules, l.length = g.width) ∧
        ∀ row < g.height, ∀ col < g.width, ∃ l ch,
          (g.drawnLines rules)[row]? = some l ∧ l[col]? = some ch ∧
          (ch = '.' ↔ (g.cell (.clamp row col)).isEmpty = true) ∧
          ((g.cell (.clamp row col)).isEmpty = false →
            ∃ k, (g.cell (.clamp row col)).Shows rules k ∧ ch = k.glyph)) ∧
      ∀ (h : Grid) (rules' : Option RuleSet), SameSize g h →
        (∀ p, (g.cell p).size ≤ 1) → (∀ p, (h.cell p).size ≤ 1) →
        (g.drawUnder rules = h.drawUnder rules' ↔
          ∀ p k, k ∈ (g.cell p).kinds ↔ k ∈ (h.cell p).kinds) := by
  refine ⟨(g.drawByPlaces_eq rules).symm, ⟨?_, ?_, ?_⟩, ?_⟩
  · rw [drawnLines_eq, length_drawRows]
  · intro l hl
    rw [drawnLines_eq] at hl
    exact length_of_mem_drawRows hl
  · intro row hrow col hcol
    obtain ⟨l, hl, hch⟩ := getElem?_drawRows (rules.getD .empty) hrow hcol
    rw [drawnLines_eq]
    refine ⟨l, _, hl, hch, Cell.draw_eq_emptyGlyph_iff, fun hsome => ?_⟩
    obtain ⟨k, hk⟩ := Cell.exists_shows rules hsome
    exact ⟨k, hk, Cell.draw_of_shows hk⟩
  · intro h rules' hsize hg hh
    exact drawUnder_eq_iff hsize hg hh

end Grid

end RuleTiles
