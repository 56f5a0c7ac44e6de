/-
**The sentences of a board.**

A rule is in force when three neighbouring cells spell it, read from left to right or from top to
bottom: the word for its subject, the linking word, and the word for what it says of the subject.
The rules of a board are gathered around its linking words.  They can be gathered as well by a scan
that tries a window of three cells from every position, to the right and downwards, and drops a
window that leaves the board.  This module describes the rules by the cells that spell them, without
a step over the edge, and shows that both ways of reading come to them.

Main definitions:

* `RuleTiles.Predicate.word?` — the word with which a predicate is spelled;
* `RuleTiles.Position.InRow`, `RuleTiles.Position.InColumn` — three neighbours in reading order;
* `RuleTiles.Grid.Spells` — **three cells of the board spell a rule**;
* `RuleTiles.Grid.window`, `RuleTiles.Grid.scan` — the scan over windows.

Main results:

* `RuleTiles.Rule.ofWords?_is_eq_some_iff` — a rule is spelled by the words for its parts;
* `RuleTiles.Grid.mem_rules_iff_step`, `RuleTiles.Grid.mem_scan_iff_step` — both ways of reading, by
  the first of three cells and a direction;
* `RuleTiles.Grid.rules_spelled` — **the rules of a board are those that it spells**.
-/

import RuleTiles.Proofs.Board.Contents
import RuleTiles.Proofs.Board.Lines
import RuleTiles.Rule.Reading

set_option relaxedAutoImplicit false
set_option autoImplicit false

namespace RuleTiles

/-! ### Words -/

/-- The word with which a predicate is spelled: a property by its own word, a target by the word
that names it. -/
def Predicate.word? : Predicate → Option Kind
  | property p => some (.property p)
  | becomes target => target.toWord?

theorem Kind.toWord?_eq_some_iff {k w : Kind} :
    k.toWord? = some w ↔ ∃ n, k = .icon n ∧ w = .word n := by
  cases k with
  | icon n => simp [toWord?, eq_comm]
  | word n => simp [toWord?]
  | is => simp [toWord?]
  | property p => simp [toWord?]

/-- **A rule is spelled by the words for its subject and its predicate**, joined by the linking
word. -/
theorem Rule.ofWords?_is_eq_some_iff {subject object : Kind} {r : Rule} :
    ofWords? subject .is object = some r ↔
      r.subject.toWord? = some subject ∧ r.predicate.word? = some object := by
  rw [ofWords?_eq_some_iff, Kind.toWord?_eq_some_iff]
  constructor
  · rintro ⟨n, rfl, _, hsubject, ⟨p, rfl, hp⟩ | ⟨m, rfl, hm⟩⟩
    · exact ⟨⟨n, hsubject, rfl⟩, by rw [hp]; rfl⟩
    · exact ⟨⟨n, hsubject, rfl⟩, by rw [hm]; rfl⟩
  · rintro ⟨⟨n, hsubject, rfl⟩, hobject⟩
    refine ⟨n, rfl, rfl, hsubject, ?_⟩
    cases hr : r.predicate with
    | property p =>
        rw [hr] at hobject
        cases hobject
        exact .inl ⟨p, rfl, rfl⟩
    | becomes target =>
        rw [hr, Predicate.word?, Kind.toWord?_eq_some_iff] at hobject
        obtain ⟨m, rfl, rfl⟩ := hobject
        exact .inr ⟨m, rfl, rfl⟩

/-! ### Three neighbours -/

namespace Position

/-- Three neighbouring positions of a row, from left to right. -/
def InRow (p q s : Position) : Prop :=
  q.row = p.row ∧ s.row = p.row ∧ q.col.val = p.col.val + 1 ∧ s.col.val = p.col.val + 2

/-- Three neighbouring positions of a column, from top to bottom. -/
def InColumn (p q s : Position) : Prop :=
  q.col = p.col ∧ s.col = p.col ∧ q.row.val = p.row.val + 1 ∧ s.row.val = p.row.val + 2

end Position

namespace Grid

variable {g : Grid} {p q s : Position} {d : Direction} {r : Rule}

/-- On the board three neighbours of a row are two steps to the right. -/
theorem inRow_iff (hp : g.contains p = true) (hq : g.contains q = true) :
    Position.InRow p q s ↔ q = p.step .right ∧ s = q.step .right := by
  obtain ⟨hrow, hcol⟩ := val_step hp .right
  obtain ⟨hrow', hcol'⟩ := val_step hq .right
  simp only [Position.InRow, Position.ext_iff, Coord.ext_iff]
  simp only [Direction.offset] at hrow hcol hrow' hcol'
  omega

/-- On the board three neighbours of a column are two steps downwards. -/
theorem inColumn_iff (hp : g.contains p = true) (hq : g.contains q = true) :
    Position.InColumn p q s ↔ q = p.step .down ∧ s = q.step .down := by
  obtain ⟨hrow, hcol⟩ := val_step hp .down
  obtain ⟨hrow', hcol'⟩ := val_step hq .down
  simp only [Position.InColumn, Position.ext_iff, Coord.ext_iff]
  simp only [Direction.offset] at hrow hcol hrow' hcol'
  omega

/-- **Three cells of the board spell a rule**: the first holds the word for its subject, the second
the linking word, and the third the word for what the rule says of the subject.  Whatever else lies
on them does not matter. -/
structure Spells (g : Grid) (p q s : Position) (r : Rule) : Prop where
  onBoard : g.contains p = true ∧ g.contains q = true ∧ g.contains s = true
  subject : ∃ w, r.subject.toWord? = some w ∧ w ∈ (g.cell p).kinds
  link : Kind.is ∈ (g.cell q).kinds
  object : ∃ w, r.predicate.word? = some w ∧ w ∈ (g.cell s).kinds

/-- What two cells spell around a linking word. -/
theorem mem_sentences_iff {first third : Cell} :
    r ∈ sentences first third ↔
      (∃ w, r.subject.toWord? = some w ∧ w ∈ first.kinds) ∧
        ∃ w, r.predicate.word? = some w ∧ w ∈ third.kinds := by
  simp only [mem_sentences, Rule.ofWords?_is_eq_some_iff]
  constructor
  · rintro ⟨subject, hsubject, object, hobject, hs, ho⟩
    exact ⟨⟨subject, hs, hsubject⟩, object, ho, hobject⟩
  · rintro ⟨⟨subject, hs, hsubject⟩, object, ho, hobject⟩
    exact ⟨subject, hsubject, object, hobject, hs, ho⟩

/-- Three cells spell a rule when they hold its words: then they are on the board. -/
theorem spells_iff :
    g.Spells p q s r ↔
      Kind.is ∈ (g.cell q).kinds ∧ r ∈ sentences (g.cell p) (g.cell s) := by
  rw [mem_sentences_iff]
  constructor
  · intro h
    exact ⟨h.link, h.subject, h.object⟩
  · rintro ⟨hlink, ⟨w, hw, hsubject⟩, v, hv, hobject⟩
    refine ⟨⟨?_, ?_, ?_⟩, ⟨w, hw, hsubject⟩, hlink, v, hv, hobject⟩
    · exact contains_of_mem_kinds hsubject
    · exact contains_of_mem_kinds hlink
    · exact contains_of_mem_kinds hobject

/-- Three neighbours that spell a rule are two steps in a direction of reading. -/
theorem exists_line_iff :
    (∃ p q s, (Position.InRow p q s ∨ Position.InColumn p q s) ∧ g.Spells p q s r) ↔
      ∃ p, ∃ d ∈ readingDirections, g.Spells p (p.step d) ((p.step d).step d) r := by
  constructor
  · rintro ⟨p, q, s, hline, hspells⟩
    obtain ⟨hp, hq, _⟩ := hspells.onBoard
    rw [inRow_iff hp hq, inColumn_iff hp hq] at hline
    rcases hline with ⟨rfl, rfl⟩ | ⟨rfl, rfl⟩
    · exact ⟨p, .right, by simp [readingDirections], hspells⟩
    · exact ⟨p, .down, by simp [readingDirections], hspells⟩
  · rintro ⟨p, d, hd, hspells⟩
    obtain ⟨hp, hq, _⟩ := hspells.onBoard
    refine ⟨p, _, _, ?_, hspells⟩
    rw [inRow_iff hp hq, inColumn_iff hp hq]
    simp only [readingDirections, List.mem_cons, List.not_mem_nil, or_false] at hd
    rcases hd with rfl | rfl
    · exact .inl ⟨rfl, rfl⟩
    · exact .inr ⟨rfl, rfl⟩

/-! ### Reading around the linking words -/

/-- The rules of a board, by the first of the three cells that spell them. -/
theorem mem_rules_iff_step :
    r ∈ g.rules ↔ ∃ p, ∃ d ∈ readingDirections, g.Spells p (p.step d) ((p.step d).step d) r := by
  rw [mem_rules]
  constructor
  · rintro ⟨q, hq⟩
    obtain ⟨hlink, d, hd, hwords⟩ := mem_sentencesAt.1 hq
    refine ⟨q.step d.reverse, d, hd, ?_⟩
    -- the linking word is on the board, so the step back from it can be taken back
    have hback : (q.step d.reverse).step d = q := by
      simpa using step_step_reverse (contains_of_mem_kinds hlink) d.reverse
    rw [hback]
    exact spells_iff.2 ⟨hlink, hwords⟩
  · rintro ⟨p, d, hd, hspells⟩
    obtain ⟨hlink, hwords⟩ := spells_iff.1 hspells
    refine ⟨p.step d, mem_sentencesAt.2 ⟨hlink, d, hd, ?_⟩⟩
    rwa [step_step_reverse hspells.onBoard.1]

/-! ### Reading window by window -/

/-- The rules spelled by the three cells from a position on.  A window that leaves the board spells
none. -/
def window (g : Grid) (start : Position) (d : Direction) : List Rule :=
  match g.at? start, g.at? (start.step d), g.at? ((start.step d).step d) with
  | some first, some second, some third =>
    if second.has .is then
      (first.texts.filter fun subject => subject.noun?.isSome).flatMap fun subject =>
        third.texts.filterMap fun object => Rule.ofWords? subject .is object
    else []
  | _, _, _ => []

/-- The rules spelled by some window that starts on the board. -/
def scan (g : Grid) : RuleSet :=
  .ofList (g.positions.flatMap fun start => readingDirections.flatMap fun d => g.window start d)

/-- Only words spell rules, and the first of them is a noun. -/
theorem mem_windowWords_iff {first third : Cell} :
    r ∈ ((first.texts.filter fun subject => subject.noun?.isSome).flatMap fun subject =>
        third.texts.filterMap fun object => Rule.ofWords? subject .is object) ↔
      r ∈ sentences first third := by
  simp only [mem_sentences, Cell.texts, List.mem_flatMap, List.mem_filterMap, List.mem_filter]
  constructor
  · rintro ⟨subject, ⟨⟨hsubject, _⟩, _⟩, object, ⟨hobject, _⟩, hr⟩
    exact ⟨subject, hsubject, object, hobject, hr⟩
  · rintro ⟨subject, hsubject, object, hobject, hr⟩
    obtain ⟨n, rfl, _, _, ⟨p, rfl, _⟩ | ⟨m, rfl, _⟩⟩ := Rule.ofWords?_eq_some_iff.1 hr
    · exact ⟨_, ⟨⟨hsubject, rfl⟩, rfl⟩, _, ⟨hobject, rfl⟩, hr⟩
    · exact ⟨_, ⟨⟨hsubject, rfl⟩, rfl⟩, _, ⟨hobject, rfl⟩, hr⟩

theorem cell_of_at? {c : Cell} (h : g.at? p = some c) : g.cell p = c := by
  rw [cell, h, Option.getD_some]

/-- A window spells what its three cells spell. -/
theorem mem_window_iff :
    r ∈ g.window p d ↔ g.Spells p (p.step d) ((p.step d).step d) r := by
  rw [spells_iff]
  unfold window
  split
  · rename_i first second third hfirst hsecond hthird
    rw [cell_of_at? hfirst, cell_of_at? hsecond, cell_of_at? hthird]
    have hlink : second.has .is = true ↔ Kind.is ∈ second.kinds :=
      Cell.has_iff_mem_kinds (by decide)
    split
    · rename_i h
      rw [mem_windowWords_iff]
      simp [hlink.1 h]
    · rename_i h
      simp [mt hlink.2 h]
  · rename_i hleaves
    -- three cells that spell a rule are on the board
    refine iff_of_false List.not_mem_nil fun hspells => ?_
    obtain ⟨hp, hq, hs⟩ := (spells_iff.2 hspells).onBoard
    exact hleaves _ _ _ (at?_eq_some_cell hp) (at?_eq_some_cell hq) (at?_eq_some_cell hs)

/-- The rules that the scan finds, by the first of the three cells that spell them. -/
theorem mem_scan_iff_step :
    r ∈ g.scan ↔ ∃ p, ∃ d ∈ readingDirections, g.Spells p (p.step d) ((p.step d).step d) r := by
  simp only [scan, SortedSet.mem_ofList, List.mem_flatMap, mem_positions, mem_window_iff]
  constructor
  · rintro ⟨p, _, hspelled⟩
    exact ⟨p, hspelled⟩
  · rintro ⟨p, d, hd, hspells⟩
    exact ⟨p, hspells.onBoard.1, d, hd, hspells⟩

/-- **The rules of a board are those that it spells.**  A rule is in force just when three cells of
the board, next to each other in a row from left to right or in a column from top to bottom, hold
the word for its subject, the linking word, and the word for its property or its target.  The scan
over windows of three cells finds the same rules. -/
theorem rules_spelled (g : Grid) :
    g.scan = g.rules ∧
      ∀ r, r ∈ g.rules ↔
        ∃ p q s, (Position.InRow p q s ∨ Position.InColumn p q s) ∧ g.Spells p q s r := by
  refine ⟨SortedSet.ext_mem fun r => ?_, fun r => ?_⟩
  · rw [mem_scan_iff_step, mem_rules_iff_step]
  · rw [mem_rules_iff_step, exists_line_iff]

end Grid

end RuleTiles
