/-
**Turns under checks.**

A turn is taken here on a machine that stops when something goes wrong.  Nothing does, on any board
and under any rules.  What a plan of movement names lies on the board when it is lifted, whatever
turned before, and so do the sources of all changes of kind, each of which is lifted once even when
it has several targets.

Main definitions:

* `RuleTiles.Checked.moveYou`, `RuleTiles.Checked.moveWalkers`, `RuleTiles.Checked.transform`,
  `RuleTiles.Checked.destroy` — the phases of a turn;
* `RuleTiles.Checked.resolve` — the turn.

Main results:

* `RuleTiles.Checked.carryOut_eq`, `RuleTiles.Checked.applyChanges_eq` — everything that is lifted
  is there;
* `RuleTiles.Checked.resolve_eq` — **no turn is stopped**.
-/

import RuleTiles.Proofs.Checked.Board
import RuleTiles.Proofs.Turn.Words

set_option relaxedAutoImplicit false
set_option autoImplicit false

namespace RuleTiles

namespace Checked

/-! ### Stepping and pushing -/

/-- The first `n` cells ahead of a position, or fewer when the edge is nearer. -/
def rayWithin (g : Grid) (d : Direction) : Nat → Position → Except Halt (List (Position × Cell))
  | 0, _ => return []
  | n + 1, p => do
    match ← fetch g (p.step d) with
    | none => return []
    | some c =>
      let rest ← rayWithin g d n (p.step d)
      return (p.step d, c) :: rest

/-- The cells ahead of a position up to the edge. -/
def ray (g : Grid) (p : Position) (d : Direction) : Except Halt (List (Position × Cell)) :=
  rayWithin g d (max g.width g.height) p

/-- Whether an object at a position can step in a direction. -/
def canStep (g : Grid) (rules : RuleSet) (p : Position) (d : Direction) : Except Halt Bool := do
  let ahead ← ray g p d
  return rules.isOpen ahead

/-- The steppers and the chains that they push. -/
def plan (g : Grid) (rules : RuleSet) (steppers : List (Object × Direction)) :
    Except Halt Plan :=
  steppers.foldlM (fun plan s => do
      let ahead ← ray g s.1.pos s.2
      return .push rules s.2 ahead plan)
    (Plan.ofSteppers steppers)

/-- The board after every planned object was lifted and set down one cell further on. -/
def carryOut (g : Grid) (plan : Plan) : Except Halt Grid := do
  let lifted ← liftAll g plan.keys
  plan.entries.foldlM (fun g e => put g (e.1.pos.step e.2) e.1.kind (some e.2)) lifted

@[simp] theorem rayWithin_eq (g : Grid) (d : Direction) (n : Nat) (p : Position) :
    rayWithin g d n p = pure (g.rayWithin d n p) := by
  induction n generalizing p with
  | zero => rfl
  | succ n ih =>
      rw [rayWithin, fetch_eq, pure_bind, Grid.rayWithin]
      cases g.at? (p.step d) with
      | none => rfl
      | some c =>
          simp only [ih, pure_bind]

@[simp] theorem ray_eq (g : Grid) (p : Position) (d : Direction) :
    ray g p d = pure (g.ray p d) :=
  rayWithin_eq g d _ p

@[simp] theorem canStep_eq (g : Grid) (rules : RuleSet) (p : Position) (d : Direction) :
    canStep g rules p d = pure (g.canStep rules p d) := by
  rw [canStep, ray_eq, pure_bind, Grid.canStep]

@[simp] theorem plan_eq (g : Grid) (rules : RuleSet) (steppers : List (Object × Direction)) :
    plan g rules steppers = pure (g.plan rules steppers) := by
  simp only [plan, ray_eq, pure_bind, List.foldlM_pure]
  rfl

/-- **Everything that is planned is lifted** when it lies on the board. -/
theorem carryOut_eq {g : Grid} {plan : Plan} (h : ∀ e ∈ plan.entries, e.1 ∈ g.objects) :
    carryOut g plan = pure (g.carryOut plan) := by
  have hkeys : ∀ o ∈ plan.keys, o ∈ g.objects := by
    intro o ho
    obtain ⟨e, he, rfl⟩ := List.mem_map.1 ho
    exact h e he
  rw [carryOut, liftAll_eq plan.nodup_keys hkeys, pure_bind]
  simp only [put_eq, List.foldlM_pure]
  rfl

/-- A plan made for a board is carried out on any board with the same kinds on its cells. -/
theorem carryOut_plan_eq {g turned : Grid} {rules : RuleSet}
    {steppers : List (Object × Direction)}
    (hkinds : ∀ q, (turned.cell q).kinds = (g.cell q).kinds)
    (hs : ∀ s ∈ steppers, s.1 ∈ g.objects) :
    carryOut turned (g.plan rules steppers) = pure (turned.carryOut (g.plan rules steppers)) := by
  refine carryOut_eq fun e he => ?_
  have hobject := Grid.mem_objects.1 (Grid.mem_objects_of_mem_plan hs he)
  rw [← hkinds] at hobject
  exact Grid.mem_objects.2 hobject

/-! ### The two phases of movement -/

/-- The first phase: the YOU objects turn and step. -/
def moveYou (g : Grid) (rules : RuleSet) (d : Direction) : Except Halt (Grid × List Event) := do
  let you ← having g rules .you
  let turned ← you.foldlM (fun g o => turn g o d) g
  let free ← select (fun o => canStep g rules o.pos d) you
  let plan ← plan g rules (free.map (·, d))
  let moved ← carryOut turned plan
  return (moved, plan.events)

@[simp] theorem moveYou_eq (g : Grid) (rules : RuleSet) (d : Direction) :
    moveYou g rules d = pure (g.moveYou rules d) := by
  have hkinds : ∀ q, ((g.turnAll (g.having rules .you) d).cell q).kinds = (g.cell q).kinds :=
    fun q => Grid.kinds_turnEach g q _ (fun o => o) fun _ => d
  have hcarried : carryOut (g.turnAll (g.having rules .you) d)
      (g.planYou rules (g.having rules .you) d) =
        pure ((g.turnAll (g.having rules .you) d).carryOut
          (g.planYou rules (g.having rules .you) d)) :=
    carryOut_plan_eq hkinds fun _ hs => Grid.stepper_mem_objects hs
  rw [Grid.turnAll, Grid.planYou] at hcarried
  simp only [moveYou, having_eq, turn_eq, canStep_eq, plan_eq, pure_bind, List.foldlM_pure,
    select_pure]
  rw [hcarried, pure_bind]
  rfl

/-- The number that a random facing is drawn as. -/
def drawWithin : Nat → Generator → Nat × Generator
  | 0, gen => (0, gen)
  | n + 1, gen =>
    let (w, gen) := gen.next64
    if w <<< 2 < 0x8000000000000000 then ((w >>> 62).toNat, gen) else drawWithin n gen

/-- A random facing, looked up by its number. -/
def facing (gen : Generator) : Except Halt (Direction × Generator) := do
  let (i, gen) := drawWithin Generator.maxRefusals gen
  let d ← item Direction.all.toArray i
  return (d, gen)

/-- There is a direction for each of the numbers that are drawn. -/
theorem item_all {n : Nat} (h : n < 4) :
    item Direction.all.toArray n = pure (.ofFin (.ofNat 4 n)) := by
  have hcases : n = 0 ∨ n = 1 ∨ n = 2 ∨ n = 3 := by omega
  rcases hcases with rfl | rfl | rfl | rfl
  · rfl
  · rfl
  · rfl
  · rfl

theorem item_drawWithin (n : Nat) (gen : Generator) :
    item Direction.all.toArray (drawWithin n gen).1 = pure (Generator.facingWithin n gen).1 ∧
      (drawWithin n gen).2 = (Generator.facingWithin n gen).2 := by
  induction n generalizing gen with
  | zero => exact ⟨rfl, rfl⟩
  | succ n ih =>
      unfold drawWithin Generator.facingWithin
      generalize gen.next64 = drawn
      obtain ⟨w, gen⟩ := drawn
      dsimp only
      split
      · -- the number is made of the topmost two bits
        have hlt : (w >>> 62).toNat < 4 := by
          have hw := w.toNat_lt
          have hshift : (w >>> 62).toNat = w.toNat / 2 ^ 62 := by
            rw [UInt64.toNat_shiftRight, Nat.shiftRight_eq_div_pow]
            rfl
          omega
        exact ⟨item_all hlt, rfl⟩
      · exact ih gen

@[simp] theorem facing_eq (gen : Generator) : facing gen = pure gen.facing := by
  obtain ⟨hitem, hrest⟩ := item_drawWithin Generator.maxRefusals gen
  rw [facing, Generator.facing]
  generalize drawWithin Generator.maxRefusals gen = drawn at hitem hrest
  generalize Generator.facingWithin Generator.maxRefusals gen = result at hitem hrest
  obtain ⟨i, gen⟩ := drawn
  obtain ⟨d, gen⟩ := result
  cases hrest
  dsimp only at hitem ⊢
  rw [hitem, pure_bind]

/-- The heading of one MOVE object. -/
def heading (g : Grid) (rules : RuleSet) (o : Object) (gen : Generator) :
    Except Halt (Heading × Generator) := do
  let c ← fetch g o.pos
  let (d, gen) ←
    match (c.getD .empty).facing o.kind with
    | some d => pure (d, gen)
    | none => facing gen
  if ← canStep g rules o.pos d then return (⟨o, d, true⟩, gen)
  else
    let back ← canStep g rules o.pos d.reverse
    return (⟨o, d.reverse, back⟩, gen)

/-- The headings of the MOVE objects. -/
def headings (g : Grid) (rules : RuleSet) :
    List Object → Generator → Except Halt (List Heading × Generator)
  | [], gen => return ([], gen)
  | o :: rest, gen => do
    let (first, gen) ← heading g rules o gen
    let (others, gen) ← headings g rules rest gen
    return (first :: others, gen)

/-- The second phase: the MOVE objects turn and step. -/
def moveWalkers (g : Grid) (rules : RuleSet) (gen : Generator) :
    Except Halt (Grid × List Event × Generator) := do
  let walkers ← having g rules .move
  let (headings, gen) ← headings g rules walkers gen
  let plan ← plan g rules ((headings.filter Heading.steps).map fun h => (h.object, h.direction))
  let turned ← headings.foldlM (fun g h => turn g h.object h.direction) g
  let moved ← carryOut turned plan
  return (moved, plan.events, gen)

@[simp] theorem heading_eq (g : Grid) (rules : RuleSet) (o : Object) (gen : Generator) :
    heading g rules o gen = pure (g.heading rules o gen) := by
  simp only [heading, fetch_eq, facing_eq, canStep_eq, pure_bind]
  rw [Grid.heading, Grid.cell]
  cases ((g.at? o.pos).getD .empty).facing o.kind with
  | none =>
      dsimp only
      split
      · rfl
      · rfl
  | some d =>
      dsimp only
      split
      · rfl
      · rfl

@[simp] theorem headings_eq (g : Grid) (rules : RuleSet) (objects : List Object)
    (gen : Generator) : headings g rules objects gen = pure (g.headings rules objects gen) := by
  induction objects generalizing gen with
  | nil => rfl
  | cons o rest ih =>
      rw [headings, heading_eq, pure_bind]
      dsimp only
      rw [ih, pure_bind, Grid.headings_cons]

@[simp] theorem moveWalkers_eq (g : Grid) (rules : RuleSet) (gen : Generator) :
    moveWalkers g rules gen = pure (g.moveWalkers rules gen) := by
  have hs : ∀ s ∈ ((g.headings rules (g.having rules .move) gen).1.filter Heading.steps).map
      (fun h => (h.object, h.direction)), s.1 ∈ g.objects :=
    fun _ hs => Grid.walker_mem_objects hs
  rw [moveWalkers, having_eq, pure_bind, headings_eq, pure_bind, Grid.moveWalkers]
  generalize g.headings rules (g.having rules .move) gen = headings at hs ⊢
  obtain ⟨headings, gen⟩ := headings
  dsimp only at hs ⊢
  have hkinds : ∀ q, ((headings.foldl (fun g h => g.turn h.object h.direction) g).cell q).kinds =
      (g.cell q).kinds :=
    fun q => Grid.kinds_turnEach g q headings Heading.object Heading.direction
  simp only [plan_eq, turn_eq, pure_bind, List.foldlM_pure]
  rw [carryOut_plan_eq hkinds hs, pure_bind]

/-! ### What the rules do -/

/-- The objects that turn into others. -/
def changes (g : Grid) (rules : RuleSet) : Except Halt (List Change) := do
  let found ← rules.effective.mapM fun t => do
    let ps ← positionsOf g t.1
    ps.mapM fun p => do
      let c ← fetch g p
      return (⟨p, t.1, t.2, (c.getD .empty).facing t.1⟩ : Change)
  return found.flatten

/-- The objects that are replaced, each once. -/
def sources (changes : List Change) : SortedSet Object :=
  .ofList (changes.map fun c => ⟨c.pos, c.source⟩)

/-- The board after every source was lifted and every target set down. -/
def applyChanges (g : Grid) (changes : List Change) : Except Halt Grid := do
  let lifted ← liftAll g (sources changes).toList
  changes.foldlM (fun g c => put g c.pos c.target c.facing) lifted

/-- Turns kinds into others as the rules say. -/
def transform (g : Grid) (rules : RuleSet) : Except Halt (Grid × List Event) := do
  let changes ← changes g rules
  let changed ← applyChanges g changes
  return (changed, changes.map fun c => .transformed c.pos c.source c.target)

/-- The objects on a cell with a SINK object and another. -/
def sunk (g : Grid) (rules : RuleSet) : Except Halt (List Object) := do
  let os ← objects g
  select (fun o => do
    let c ← fetch g o.pos
    let sinks ← holds g rules o.pos .sink
    return 1 < (c.getD .empty).size && sinks) os

/-- Takes doomed objects off the board, for one cause. -/
def destroy (g : Grid) (cause : Property) (doomed : List Object) :
    Except Halt (Grid × List Event) := do
  let left ← doomed.foldlM take g
  return (left, doomed.map fun o => .destroyed o.pos o.kind cause)

@[simp] theorem changes_eq (g : Grid) (rules : RuleSet) :
    changes g rules = pure (g.changes rules) := by
  simp only [changes, positionsOf_eq, fetch_eq, pure_bind, List.mapM_pure]
  rw [Grid.changes, List.flatMap_def]
  rfl

/-- **Everything that is replaced is lifted** when it lies on the board. -/
theorem applyChanges_eq {g : Grid} {changes : List Change}
    (h : ∀ c ∈ changes, (⟨c.pos, c.source⟩ : Object) ∈ g.objects) :
    applyChanges g changes = pure (g.applyChanges changes) := by
  have hmem : ∀ o, o ∈ (sources changes).toList ↔
      o ∈ changes.map fun c => (⟨c.pos, c.source⟩ : Object) :=
    fun o => SortedSet.mem_ofList
  have hlifted : ∀ o ∈ (sources changes).toList, o ∈ g.objects := by
    intro o ho
    obtain ⟨c, hc, rfl⟩ := List.mem_map.1 ((hmem o).1 ho)
    exact h c hc
  rw [applyChanges, liftAll_eq (sources changes).nodup_toList hlifted, pure_bind,
    Grid.takeAll_congr g hmem]
  simp only [put_eq, List.foldlM_pure]
  rfl

@[simp] theorem transform_eq (g : Grid) (rules : RuleSet) :
    transform g rules = pure (g.transform rules) := by
  rw [transform, changes_eq, pure_bind,
    applyChanges_eq (fun c hc => Grid.source_mem_objects hc), pure_bind]
  rfl

@[simp] theorem sunk_eq (g : Grid) (rules : RuleSet) : sunk g rules = pure (g.sunk rules) := by
  simp only [sunk, objects_eq, fetch_eq, holds_eq, pure_bind, select_pure]
  rw [Grid.sunk_eq]
  rfl

@[simp] theorem destroy_eq (g : Grid) (cause : Property) (doomed : List Object) :
    destroy g cause doomed = pure (g.destroy cause doomed) := by
  have htake : take = fun g o => pure (g.take o) :=
    funext fun g => funext fun o => take_eq g o
  rw [destroy, htake, List.foldlM_pure, pure_bind]
  rfl

/-! ### The turn -/

/-- The board when everything has moved. -/
def afterMovement (g : Grid) (rules : RuleSet) (d : Direction) (gen : Generator) :
    Except Halt (Grid × List Event × Generator) := do
  let (g, you) ← moveYou g rules d
  let (g, walkers, gen) ← moveWalkers g rules gen
  return (g, you ++ walkers, gen)

/-- The board when the rules have had their effect. -/
def afterEffects (g : Grid) (rules : RuleSet) : Except Halt (Grid × List Event × Bool) := do
  let (g, transformed) ← transform g rules
  let won ← meeting g rules .you .win
  let (g, defeated) ← destroy g .defeat (← meeting g rules .you .defeat)
  let (g, sunk) ← destroy g .sink (← sunk g rules)
  let (g, melted) ← destroy g .hot (← meeting g rules .melt .hot)
  return (g, transformed ++ defeated ++ sunk ++ melted, !won.isEmpty)

/-- **One turn** on a machine that may stop. -/
def resolve (g : Grid) (before : RuleSet) (d : Direction) (gen : Generator) :
    Except Halt Turn := do
  let (moved, movement, gen) ← afterMovement g before d gen
  let (settled, effects, won) ← afterEffects moved (← rules moved)
  let after ← rules settled
  let controlled ← controllable settled after
  return {
    grid := settled
    rules := after
    report := ⟨d, movement ++ effects ++ ruleEvents before after, .decide won controlled⟩
    generator := gen }

@[simp] theorem afterMovement_eq (g : Grid) (rules : RuleSet) (d : Direction) (gen : Generator) :
    afterMovement g rules d gen = pure (g.afterMovement rules d gen) := by
  simp only [afterMovement, moveYou_eq, moveWalkers_eq, pure_bind]
  rfl

@[simp] theorem afterEffects_eq (g : Grid) (rules : RuleSet) :
    afterEffects g rules = pure (g.afterEffects rules) := by
  simp only [afterEffects, transform_eq, meeting_eq, sunk_eq, destroy_eq, pure_bind]
  rfl

/-- **No turn is stopped**, on any board and under any rules. -/
@[simp] theorem resolve_eq (g : Grid) (rules : RuleSet) (d : Direction) (gen : Generator) :
    resolve g rules d gen = pure (g.resolve rules d gen) := by
  simp only [resolve, afterMovement_eq, afterEffects_eq, rules_eq, controllable_eq, pure_bind]
  rw [Grid.resolve]

end Checked

end RuleTiles
