/-
**The two phases of movement.**

In the first phase every YOU object turns to face the direction of the move and steps if it can.
In the second every MOVE object steps the way it faces.  A MOVE object that has never faced
anywhere is given a random facing, and one that cannot step turns around and steps back if it can.

Main definitions:

* `RuleTiles.Grid.moveYou` — the first phase;
* `RuleTiles.Heading`, `RuleTiles.Grid.heading` — which way a MOVE object turns, and whether it
  steps;
* `RuleTiles.Grid.moveWalkers` — the second phase.
-/

import RuleTiles.Random
import RuleTiles.Turn.Push

set_option relaxedAutoImplicit false
set_option autoImplicit false

namespace RuleTiles

namespace Grid

/-! ### The player's objects -/

/-- The board after objects have turned to face a direction. -/
def turnAll (g : Grid) (objects : List Object) (d : Direction) : Grid :=
  objects.foldl (fun g o => g.turn o d) g

/-- The plan of the first phase: those of the YOU objects that can step, and what they push. -/
def planYou (g : Grid) (rules : RuleSet) (you : List Object) (d : Direction) : Plan :=
  g.plan rules ((you.filter fun o => g.canStep rules o.pos d).map (·, d))

/-- The first phase: the YOU objects turn and step. -/
def moveYou (g : Grid) (rules : RuleSet) (d : Direction) : Grid × List Event :=
  let you := g.having rules .you
  let plan := g.planYou rules you d
  ((g.turnAll you d).carryOut plan, plan.events)

end Grid

/-! ### The walkers -/

/-- Where a MOVE object ends up facing, and whether it steps that way. -/
structure Heading where
  object : Object
  direction : Direction
  steps : Bool
  deriving DecidableEq

namespace Grid

/-- The heading of one MOVE object: its facing, a random one if it has none, or the opposite when
the way is barred. -/
def heading (g : Grid) (rules : RuleSet) (o : Object) (gen : Generator) : Heading × Generator :=
  let (d, gen) :=
    match (g.cell o.pos).facing o.kind with
    | some d => (d, gen)
    | none => gen.facing
  if g.canStep rules o.pos d then (⟨o, d, true⟩, gen)
  else (⟨o, d.reverse, g.canStep rules o.pos d.reverse⟩, gen)

/-- The headings of the MOVE objects; random facings are drawn in their order. -/
def headings (g : Grid) (rules : RuleSet) : List Object → Generator → List Heading × Generator
  | [], gen => ([], gen)
  | o :: rest, gen =>
    let (first, gen) := g.heading rules o gen
    let (others, gen) := g.headings rules rest gen
    (first :: others, gen)

/-- The second phase: the MOVE objects turn and step. -/
def moveWalkers (g : Grid) (rules : RuleSet) (gen : Generator) :
    Grid × List Event × Generator :=
  let (headings, gen) := g.headings rules (g.having rules .move) gen
  let plan := g.plan rules ((headings.filter Heading.steps).map fun h => (h.object, h.direction))
  let turned := headings.foldl (fun g h => g.turn h.object h.direction) g
  (turned.carryOut plan, plan.events, gen)

end Grid

end RuleTiles
