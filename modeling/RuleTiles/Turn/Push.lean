/-
**Stepping and pushing.**

An object that steps pushes what can be pushed ahead of it.  Whether it can step is seen by
looking along the cells ahead: the way is barred by the edge and by an object that is STOP and not
PUSH, and it is open at the first cell on which nothing has to be pushed.

All objects that step in one phase do so at once.  They are gathered in a plan, which says in
which direction each object goes, and the plan is then carried out: first every object is lifted,
then each is set down one cell further on.

Main definitions:

* `RuleTiles.Grid.ray` — the cells ahead of a position up to the edge;
* `RuleTiles.RuleSet.isOpen`, `RuleTiles.Grid.canStep` — whether an object can step;
* `RuleTiles.Plan`, `RuleTiles.Grid.plan` — the steppers and what they push;
* `RuleTiles.Grid.carryOut`, `RuleTiles.Plan.events` — the board after the steps, and their
  account.
-/

import RuleTiles.Grid.Bearing
import RuleTiles.Turn.Report

set_option relaxedAutoImplicit false
set_option autoImplicit false

namespace RuleTiles

/-! ### Looking ahead -/

namespace Grid

/-- The first `n` cells ahead of a position, or fewer when the edge is nearer. -/
def rayWithin (g : Grid) (d : Direction) : Nat → Position → List (Position × Cell)
  | 0, _ => []
  | n + 1, p =>
    match g.at? (p.step d) with
    | none => []
    | some c => (p.step d, c) :: g.rayWithin d n (p.step d)

/-- The cells ahead of a position up to the edge, the nearest first. -/
def ray (g : Grid) (p : Position) (d : Direction) : List (Position × Cell) :=
  g.rayWithin d (max g.width g.height) p

end Grid

namespace RuleSet

/-- Whether an object of a kind bars the way: it is STOP and cannot be pushed. -/
def bars (rules : RuleSet) (k : Kind) : Bool := rules.grants k .stop && !rules.grants k .push

/-- Whether something on a cell can be pushed. -/
def pushable (rules : RuleSet) (c : Cell) : Bool := c.kinds.any fun k => rules.grants k .push

/-- Whether the way is open along the cells ahead: some cell has nothing to push, and no object
bars the way up to it. -/
def isOpen (rules : RuleSet) : List (Position × Cell) → Bool
  | [] => false
  | (_, c) :: rest =>
    if c.kinds.any rules.bars then false
    else if rules.pushable c then rules.isOpen rest
    else true

end RuleSet

namespace Grid

/-- Whether an object at a position can step in a direction. -/
def canStep (g : Grid) (rules : RuleSet) (p : Position) (d : Direction) : Bool :=
  rules.isOpen (g.ray p d)

end Grid

/-! ### Plans -/

/-- The objects that step, each with its direction. -/
abbrev Plan := SortedMap Object Direction

namespace Plan

/-- Adds the chain pushed along the cells ahead: every object that can be pushed and has no
direction yet, up to the first cell without one. -/
def push (rules : RuleSet) (d : Direction) : List (Position × Cell) → Plan → Plan
  | [], plan => plan
  | (q, c) :: rest, plan =>
    let pushed := c.kinds.filter fun k => rules.grants k .push && !plan.contains ⟨q, k⟩
    if pushed.isEmpty then plan
    else push rules d rest (pushed.foldl (fun plan k => plan.insert ⟨q, k⟩ d) plan)

/-- The plan in which each of the steppers goes its own way. -/
def ofSteppers (steppers : List (Object × Direction)) : Plan :=
  steppers.foldl (fun plan s => plan.insert s.1 s.2) .empty

/-- The account of a plan that is carried out. -/
def events (plan : Plan) : List Event :=
  plan.entries.map fun e => .moved e.1.kind e.1.pos (e.1.pos.step e.2)

end Plan

namespace Grid

/-- The steppers, and the chains that they push one after another.  An object keeps the first
direction it is given. -/
def plan (g : Grid) (rules : RuleSet) (steppers : List (Object × Direction)) : Plan :=
  steppers.foldl (fun plan s => .push rules s.2 (g.ray s.1.pos s.2) plan)
    (Plan.ofSteppers steppers)

/-- The board after every planned object has gone one cell, facing the way it went. -/
def carryOut (g : Grid) (plan : Plan) : Grid :=
  plan.entries.foldl (fun g e => g.put (e.1.pos.step e.2) e.1.kind (some e.2))
    (g.takeAll plan.keys)

end Grid

end RuleTiles
