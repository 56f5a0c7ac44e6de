/-
**What a transformation enters.**

The changes of a transformation are made rule by rule, and for each rule row by row.  At one
position a rule makes at most one change, so of the order only that of the rules is seen there:
sources are lifted first, and then the targets are entered in the order of the rules, each with the
facing its source had before.

Main definitions:

* `RuleTiles.Grid.changesAt` — the changes at one position.

Main results:

* `RuleTiles.Grid.filter_changes` — of all changes those at one position come rule by rule;
* `RuleTiles.Grid.get?_transform` — **an entry of the board after the transformation**.
-/

import RuleTiles.Proofs.Board.Numbers
import RuleTiles.Proofs.Turn.Words

set_option relaxedAutoImplicit false
set_option autoImplicit false

namespace RuleTiles.Grid

variable {g : Grid} {rules : RuleSet}

/-- The changes at one position, rule by rule. -/
def changesAt (g : Grid) (rules : RuleSet) (q : Position) : List Change :=
  (rules.effective.filter fun t => (g.cell q).has t.1).map fun t =>
    ⟨q, t.1, t.2, (g.cell q).facing t.1⟩

/-- A position where a kind lies is listed once among those. -/
theorem filter_positionsOf {q : Position} (hq : g.contains q = true) (k : Kind) :
    (g.positionsOf k).filter (fun p => p = q) = if (g.cell q).has k then [q] else [] := by
  have hnodup : (g.positionsOf k).Nodup := g.nodup_positions.filter _
  rw [List.filter_eq, hnodup.count]
  simp only [positionsOf, List.mem_filter, mem_positions, hq, true_and]
  split
  · rfl
  · rfl

/-- Of all changes those at one position come rule by rule. -/
theorem filter_changes {q : Position} (hq : g.contains q = true) (rules : RuleSet) :
    (g.changes rules).filter (fun c => c.pos = q) = g.changesAt rules q := by
  rw [changes, changesAt]
  induction rules.effective with
  | nil => rfl
  | cons t l ih =>
      rw [List.flatMap_cons, List.filter_append, ih, List.filter_map, Function.comp_def]
      dsimp only
      rw [filter_positionsOf hq, List.filter_cons]
      split
      · rfl
      · rfl

/-- What a change enters at its place. -/
def enter (entry : Option (Option Direction)) (c : Change) : Option (Option Direction) :=
  some (c.facing.or entry.join)

/-- **An entry after the transformation** depends on the changes at its place, in their order. -/
theorem get?_transform {q : Position} {k : Kind} (hq : g.contains q = true)
    (hk : k.isPlaceable = true) :
    ((g.transform rules).1.cell q).get? k =
      ((g.changesAt rules q).filter fun c => c.target = k).foldl enter
        (if k ∈ (g.changesAt rules q).map Change.source then none else (g.cell q).get? k) := by
  have hsource : (⟨q, k⟩ : Object) ∈ (g.changes rules).map (fun c => ⟨c.pos, c.source⟩) ↔
      k ∈ (g.changesAt rules q).map Change.source := by
    rw [← filter_changes hq]
    simp [List.mem_map, List.mem_filter, and_assoc]
  have hentered : (g.changes rules).filter (fun c => c.pos = q ∧ c.target = k) =
      (g.changesAt rules q).filter fun c => c.target = k := by
    rw [← filter_changes hq, List.filter_filter]
    exact List.filter_congr fun c _ => by simp [Bool.and_comm]
  have hset := get?_putAll (g := g.takeAll ((g.changes rules).map fun c => ⟨c.pos, c.source⟩))
    (g.changes rules) Change.pos Change.target Change.facing (by rw [contains_takeAll]; exact hq) hk
  rw [get?_takeAll, hentered] at hset
  simp only [hsource] at hset
  exact hset

end RuleTiles.Grid
