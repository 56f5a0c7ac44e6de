/-
**The rules written on the board.**

A rule is in force when it is spelled by word tiles on three neighbouring cells, read from left to
right or from top to bottom.  Words that share a cell take part in every sentence through it.

Main definitions:

* `RuleTiles.sentences`, `RuleTiles.Grid.sentencesAt` — the rules spelled around a linking word;
* `RuleTiles.Grid.rules` — **the rules spelled anywhere on the board**.

Main results:

* `RuleTiles.mem_sentences`, `RuleTiles.Grid.mem_sentencesAt`, `RuleTiles.Grid.mem_rules` — what
  it takes to be spelled.
-/

import RuleTiles.Grid
import RuleTiles.Rule

set_option relaxedAutoImplicit false
set_option autoImplicit false

namespace RuleTiles

/-- The rules spelled around the linking word by one word on each of two cells. -/
def sentences (first third : Cell) : List Rule :=
  first.kinds.flatMap fun subject =>
    third.kinds.filterMap fun object => Rule.ofWords? subject .is object

theorem mem_sentences {first third : Cell} {r : Rule} :
    r ∈ sentences first third ↔
      ∃ subject ∈ first.kinds, ∃ object ∈ third.kinds,
        Rule.ofWords? subject .is object = some r := by
  simp [sentences, List.mem_flatMap, List.mem_filterMap]

namespace Grid

/-- The directions in which sentences run. -/
def readingDirections : List Direction := [.right, .down]

/-- The rules spelled by a cell with the linking word and its two neighbours. -/
def sentencesAt (g : Grid) (p : Position) : List Rule :=
  if (g.cell p).has .is then
    readingDirections.flatMap fun d =>
      sentences (g.cell (p.step d.reverse)) (g.cell (p.step d))
  else []

/-- **The rules spelled on the board.** -/
def rules (g : Grid) : RuleSet := .ofList (g.positions.flatMap g.sentencesAt)

theorem mem_sentencesAt {g : Grid} {p : Position} {r : Rule} :
    r ∈ g.sentencesAt p ↔
      Kind.is ∈ (g.cell p).kinds ∧
        ∃ d ∈ readingDirections,
          r ∈ sentences (g.cell (p.step d.reverse)) (g.cell (p.step d)) := by
  have his : (g.cell p).has .is = true ↔ Kind.is ∈ (g.cell p).kinds := by
    rw [Cell.mem_kinds]; rfl
  unfold sentencesAt
  split
  · rename_i h
    simp [his.1 h]
  · rename_i h
    simp [mt his.2 h]

/-- A rule is spelled around some cell of the board. -/
theorem mem_rules {g : Grid} {r : Rule} : r ∈ g.rules ↔ ∃ p, r ∈ g.sentencesAt p := by
  simp only [rules, SortedSet.mem_ofList, List.mem_flatMap, mem_positions]
  constructor
  · rintro ⟨p, _, h⟩
    exact ⟨p, h⟩
  · rintro ⟨p, h⟩
    refine ⟨p, ?_, h⟩
    cases hc : g.contains p with
    | true => rfl
    | false =>
      have := (mem_sentencesAt.1 h).1
      rw [cell_of_not_contains hc] at this
      cases this

end Grid

end RuleTiles
