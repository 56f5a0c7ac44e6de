/-
**One turn.**

A turn runs in a fixed order.  The YOU objects move, then the MOVE objects, under the rules in
force before the turn.  The rules are read again from the board and kinds turn into others.  A
win is looked for, and objects are destroyed by DEFEAT, by SINK and by HOT and MELT.  The rules
are read once more and the state of play is decided.  An object on both a WIN and a DEFEAT object
therefore wins.

Main definitions:

* `RuleTiles.Turn` — the board, the rules, the report and the generator after a turn;
* `RuleTiles.Grid.afterMovement` — the board when everything has moved;
* `RuleTiles.Grid.afterEffects` — the board when the rules have had their effect;
* `RuleTiles.Grid.resolve` — **the whole turn**.

Main results:

* `RuleTiles.Grid.grid_resolve`, `RuleTiles.Grid.rules_resolve`, `RuleTiles.Grid.report_resolve`,
  `RuleTiles.Grid.generator_resolve` — what a turn leaves behind, by its phases.
-/

import RuleTiles.Rule.Reading
import RuleTiles.Turn.Effect
import RuleTiles.Turn.Movement

set_option relaxedAutoImplicit false
set_option autoImplicit false

namespace RuleTiles

/-- What a turn leaves behind. -/
structure Turn where
  grid : Grid
  rules : RuleSet
  report : Report
  generator : Generator

/-- The event that the rules changed, when they did. -/
def ruleEvents (before after : RuleSet) : List Event :=
  if before = after then []
  else [.rulesChanged (after.diff before).toList (before.diff after).toList]

/-- The state of play after a turn: a win counts before anything else, and a board on which
nothing is YOU is lost. -/
def PlayState.decide (won controllable : Bool) : PlayState :=
  if won then .won else if controllable then .playing else .lost

namespace Grid

/-- The board when the YOU objects and then the MOVE objects have moved. -/
def afterMovement (g : Grid) (rules : RuleSet) (d : Direction) (gen : Generator) :
    Grid × List Event × Generator :=
  let (g, you) := g.moveYou rules d
  let (g, walkers, gen) := g.moveWalkers rules gen
  (g, you ++ walkers, gen)

/-- The board when kinds have turned into others and objects have been destroyed, and whether a
win was seen in between. -/
def afterEffects (g : Grid) (rules : RuleSet) : Grid × List Event × Bool :=
  let (g, transformed) := g.transform rules
  let won := g.touchesWin rules
  let (g, defeated) := g.destroy .defeat (g.defeated rules)
  let (g, sunk) := g.destroy .sink (g.sunk rules)
  let (g, melted) := g.destroy .hot (g.melted rules)
  (g, transformed ++ defeated ++ sunk ++ melted, won)

/-- **One turn**: a move in a direction under the rules in force, and all that follows from it. -/
def resolve (g : Grid) (rules : RuleSet) (d : Direction) (gen : Generator) : Turn :=
  let (moved, movement, gen) := g.afterMovement rules d gen
  let (settled, effects, won) := moved.afterEffects moved.rules
  let after := settled.rules
  { grid := settled
    rules := after
    report := ⟨d, movement ++ effects ++ ruleEvents rules after,
      .decide won (settled.controllable after)⟩
    generator := gen }

/-! ### What a turn leaves behind -/

section

variable (g : Grid) (rules : RuleSet) (d : Direction) (gen : Generator)

/-- The board when the effects of the rules, read again after movement, are over, with their account
and whether a win was seen. -/
def settled : Grid × List Event × Bool :=
  (g.afterMovement rules d gen).1.afterEffects (g.afterMovement rules d gen).1.rules

theorem grid_resolve : (g.resolve rules d gen).grid = (g.settled rules d gen).1 := by
  unfold resolve settled
  generalize g.afterMovement rules d gen = moved
  rfl

/-- After a turn the rules are those read off the board. -/
theorem rules_resolve :
    (g.resolve rules d gen).rules = (g.resolve rules d gen).grid.rules := by
  unfold resolve
  generalize g.afterMovement rules d gen = moved
  rfl

theorem report_resolve :
    (g.resolve rules d gen).report =
      ⟨d, (g.afterMovement rules d gen).2.1 ++ (g.settled rules d gen).2.1 ++
          ruleEvents rules (g.settled rules d gen).1.rules,
        .decide (g.settled rules d gen).2.2
          ((g.settled rules d gen).1.controllable (g.settled rules d gen).1.rules)⟩ := by
  unfold resolve settled
  generalize g.afterMovement rules d gen = moved
  rfl

theorem generator_resolve :
    (g.resolve rules d gen).generator = (g.afterMovement rules d gen).2.2 := by
  unfold resolve
  generalize g.afterMovement rules d gen = moved
  rfl

end

end Grid

end RuleTiles
