/-
**Where properties are found on the board.**

The rules in force say which kinds have a property.  This module finds the objects of the board
that have one, and those that share a cell with an object that has another.

Main definitions:

* `RuleTiles.Grid.having` — the objects that have a property;
* `RuleTiles.Grid.holds` — a cell has an object with a property;
* `RuleTiles.Grid.meeting` — the objects with one property that share a cell with another;
* `RuleTiles.Grid.controllable` — something on the board is YOU.

Main results:

* `RuleTiles.Grid.having_eq`, `RuleTiles.Grid.meeting_eq` — each is a selection of the objects of
  the board;
* `RuleTiles.Grid.controllable_eq_true` — the board is controllable when some object is YOU.
-/

import RuleTiles.Grid
import RuleTiles.Rule

set_option relaxedAutoImplicit false
set_option autoImplicit false

namespace RuleTiles.Grid

/-- The objects of the board that behave as having a property, in reading order.  The board is not
searched for a property that nothing has. -/
def having (g : Grid) (rules : RuleSet) (p : Property) : List Object :=
  if rules.mentions p then g.objects.filter fun o => rules.grants o.kind p else []

/-- The objects that have a property are just those whose kind is granted it. -/
theorem having_eq (g : Grid) (rules : RuleSet) (p : Property) :
    g.having rules p = g.objects.filter fun o => rules.grants o.kind p := by
  unfold having
  split
  · rfl
  · rename_i h
    rw [Bool.not_eq_true] at h
    simp [RuleSet.grants_of_not_mentions h]

/-- Whether some object at a position behaves as having a property. -/
def holds (g : Grid) (rules : RuleSet) (pos : Position) (p : Property) : Bool :=
  (g.cell pos).kinds.any fun k => rules.grants k p

/-- The objects that have one property and share a cell, maybe with themselves, with one that has
another. -/
def meeting (g : Grid) (rules : RuleSet) (p q : Property) : List Object :=
  if rules.mentions q then (g.having rules p).filter fun o => g.holds rules o.pos q else []

theorem meeting_eq (g : Grid) (rules : RuleSet) (p q : Property) :
    g.meeting rules p q = (g.having rules p).filter fun o => g.holds rules o.pos q := by
  unfold meeting
  split
  · rfl
  · rename_i h
    rw [Bool.not_eq_true] at h
    simp [holds, RuleSet.grants_of_not_mentions h]

/-- Whether some object of the board is YOU. -/
def controllable (g : Grid) (rules : RuleSet) : Bool :=
  g.cells.any fun c => c.kinds.any fun k => rules.grants k .you

theorem mem_having {g : Grid} {rules : RuleSet} {p : Property} {o : Object} :
    o ∈ g.having rules p ↔ o ∈ g.objects ∧ rules.grants o.kind p = true := by
  rw [having_eq, List.mem_filter]

theorem holds_eq_true {g : Grid} {rules : RuleSet} {pos : Position} {p : Property} :
    g.holds rules pos p = true ↔ ∃ k ∈ (g.cell pos).kinds, rules.grants k p = true :=
  List.any_eq_true

theorem mem_meeting {g : Grid} {rules : RuleSet} {p q : Property} {o : Object} :
    o ∈ g.meeting rules p q ↔ o ∈ g.having rules p ∧ g.holds rules o.pos q = true := by
  rw [meeting_eq, List.mem_filter]

theorem controllable_eq_true {g : Grid} {rules : RuleSet} :
    g.controllable rules = true ↔ ∃ o ∈ g.objects, rules.grants o.kind .you = true := by
  simp only [controllable, Array.any_eq_true', List.any_eq_true, mem_cells]
  constructor
  · rintro ⟨c, ⟨p, _, rfl⟩, k, hk, hy⟩
    exact ⟨⟨p, k⟩, mem_objects.2 hk, hy⟩
  · rintro ⟨o, ho, hy⟩
    have hk := mem_objects.1 ho
    exact ⟨_, ⟨o.pos, contains_of_mem_kinds hk, rfl⟩, o.kind, hk, hy⟩

end RuleTiles.Grid
