/-
**What the rules do to a settled board.**

Once the objects have moved, kinds turn into others and objects are destroyed.  A kind that a rule
turns into itself is protected.  A kind that is to become `text` becomes the word for itself.  Two
rules about one kind turn each of its objects into both targets.

Three properties destroy: a YOU object on a DEFEAT object, everything on a cell with a SINK object
that is not alone, and a MELT object on a HOT object.

Main definitions:

* `RuleTiles.Grid.changes`, `RuleTiles.Grid.transform` — turning kinds into others;
* `RuleTiles.Grid.touchesWin` — a YOU object lies on a WIN object;
* `RuleTiles.Grid.defeated`, `RuleTiles.Grid.sunk`, `RuleTiles.Grid.melted` — what is destroyed;
* `RuleTiles.Grid.destroy` — the board without it.
-/

import RuleTiles.Grid.Bearing
import RuleTiles.Turn.Report

set_option relaxedAutoImplicit false
set_option autoImplicit false

namespace RuleTiles

/-! ### Transformation -/

/-- An object that turns into another kind, with the facing it keeps. -/
structure Change where
  pos : Position
  source : Kind
  target : Kind
  facing : Option Direction
  deriving DecidableEq

/-- What a kind becomes under a rule that names a target: `text` stands for the word for the kind,
and for nothing when there is no such word. -/
def Kind.resolve (source target : Kind) : Kind :=
  match target with
  | .icon .text => source.toWord?.getD (.icon .empty)
  | target => target

namespace RuleSet

/-- Whether a rule turns a kind into itself, which keeps it from turning into anything else. -/
def protects (rules : RuleSet) (k : Kind) : Bool := decide (⟨k, .becomes k⟩ ∈ rules)

/-- The transformations that have an effect, each with what the kind becomes. -/
def effective (rules : RuleSet) : List (Kind × Kind) :=
  (rules.transformations.filter fun t => t.1.isPlaceable && !rules.protects t.1).map fun t =>
    (t.1, t.1.resolve t.2)

end RuleSet

namespace Grid

/-- The objects that turn into others, rule by rule and row by row. -/
def changes (g : Grid) (rules : RuleSet) : List Change :=
  rules.effective.flatMap fun t =>
    (g.positionsOf t.1).map fun p => ⟨p, t.1, t.2, (g.cell p).facing t.1⟩

/-- The board after changes: every source is lifted, then every target is set down. -/
def applyChanges (g : Grid) (changes : List Change) : Grid :=
  changes.foldl (fun g c => g.put c.pos c.target c.facing)
    (g.takeAll (changes.map fun c => ⟨c.pos, c.source⟩))

/-- Turns kinds into others as the rules say. -/
def transform (g : Grid) (rules : RuleSet) : Grid × List Event :=
  let changes := g.changes rules
  (g.applyChanges changes, changes.map fun c => .transformed c.pos c.source c.target)

/-! ### Winning and destruction -/

/-- Whether a YOU object shares a cell with a WIN object. -/
def touchesWin (g : Grid) (rules : RuleSet) : Bool :=
  !(g.meeting rules .you .win).isEmpty

/-- The YOU objects on a cell with a DEFEAT object. -/
def defeated (g : Grid) (rules : RuleSet) : List Object := g.meeting rules .you .defeat

/-- The objects on a cell with a SINK object and another. -/
def sunk (g : Grid) (rules : RuleSet) : List Object :=
  if rules.mentions .sink then
    g.objects.filter fun o => 1 < (g.cell o.pos).size && g.holds rules o.pos .sink
  else []

theorem sunk_eq (g : Grid) (rules : RuleSet) :
    g.sunk rules =
      g.objects.filter fun o => 1 < (g.cell o.pos).size && g.holds rules o.pos .sink := by
  unfold sunk
  split
  · rfl
  · rename_i h
    rw [Bool.not_eq_true] at h
    simp [holds, RuleSet.grants_of_not_mentions h]

/-- The MELT objects on a cell with a HOT object. -/
def melted (g : Grid) (rules : RuleSet) : List Object := g.meeting rules .melt .hot

/-- Takes doomed objects off the board, for one cause. -/
def destroy (g : Grid) (cause : Property) (doomed : List Object) : Grid × List Event :=
  (g.takeAll doomed, doomed.map fun o => .destroyed o.pos o.kind cause)

end Grid

end RuleTiles
