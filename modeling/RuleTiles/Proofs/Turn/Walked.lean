/-
**What becomes of the walkers.**

In the second phase of a turn every MOVE object sets out the way it faces, or in a direction drawn
for it when it has never faced anywhere.  It steps that way if it can, turns around and steps back
if it can only do that, and else it is boxed in.  What it does follows from the board before the
phase alone, though the MOVE objects look ahead one after another, and though a boxed in object that
is PUSH may be carried off by another one that steps.  This module says so for every object, with
the account of the phase: who leaves a cell, who comes to one, and which way those face that are
there in the end.

Main definitions:

* `RuleTiles.Generator.afterFacings` — a generator from which facings have been drawn;
* `RuleTiles.Grid.outset` — the way a MOVE object sets out;
* `RuleTiles.Grid.Walks` — **a MOVE object that steps, and which way**;
* `RuleTiles.Grid.Arrives`, `RuleTiles.Grid.Leaves`, `RuleTiles.Grid.Stays` — what an object does in
  the second phase.

Main results:

* `RuleTiles.Grid.headings_eq` — the headings and the facings drawn for them;
* `RuleTiles.Grid.get?_plan_walkers` — the plan of the phase;
* `RuleTiles.Grid.moveWalkers_walks` — **what becomes of every object that walks or does not**.
-/

import RuleTiles.Proofs.Turn.Chance
import RuleTiles.Proofs.Turn.Rounds
import RuleTiles.Proofs.Turn.Shifted

set_option relaxedAutoImplicit false
set_option autoImplicit false

namespace RuleTiles

/-- A generator from which a number of facings have been drawn. -/
def Generator.afterFacings (gen : Generator) : Nat → Generator
  | 0 => gen
  | n + 1 => gen.facing.2.afterFacings n

namespace Grid

/-! ### Headings -/

/-- The way in which an object sets out when the random facings are drawn for the objects of a list,
in their order: an object keeps the facing that it has. -/
def outsetAmong (g : Grid) (drawing : List Object) (gen : Generator) (o : Object) : Direction :=
  ((g.cell o.pos).facing o.kind).getD (gen.afterFacings (drawing.idxOf o)).facing.1

/-- **The way in which a MOVE object sets out.**  A facing is drawn for each of them that has never
faced anywhere, row by row, and for no other object. -/
def outset (g : Grid) (rules : RuleSet) (gen : Generator) (o : Object) : Direction :=
  g.outsetAmong (g.unfaced rules) gen o

section

variable {g : Grid} {rules : RuleSet} {gen : Generator} {o : Object} {d : Direction}

/-- The direction drawn for another object is one of those drawn after the first. -/
theorem outsetAmong_cons_of_ne {drawing : List Object} {o' : Object} (h : o' ≠ o) :
    g.outsetAmong (o :: drawing) gen o' = g.outsetAmong drawing gen.facing.2 o' := by
  rw [outsetAmong, List.idxOf_cons_ne _ h.symm, Generator.afterFacings, outsetAmong]

/-- **The headings of objects, and the facings drawn for them**: each comes to its own heading, and
one facing is drawn for each that has none. -/
theorem headings_eq {objects : List Object} (hnodup : objects.Nodup) :
    g.headings rules objects gen =
      (objects.map fun o =>
          g.headingFrom rules o (g.outsetAmong (objects.filter g.isUnfaced) gen o),
        gen.afterFacings (objects.filter g.isUnfaced).length) := by
  induction objects generalizing gen with
  | nil => rfl
  | cons o rest ih =>
      obtain ⟨hnew, hnodup⟩ := List.nodup_cons.1 hnodup
      rw [headings_cons, List.map_cons]
      cases hf : (g.cell o.pos).facing o.kind with
      | some d =>
          have hfaced : g.isUnfaced o = false := by simp [isUnfaced, hf]
          have hout : ∀ l, g.outsetAmong l gen o = d := fun l => by simp [outsetAmong, hf]
          rw [heading_of_facing_eq_some hf, ih hnodup, List.filter_cons, hfaced, hout]
          rfl
      | none =>
          have hunfaced : g.isUnfaced o = true := by simp [isUnfaced, hf]
          have hout : ∀ l, g.outsetAmong (o :: l) gen o = gen.facing.1 := fun l => by
            simp [outsetAmong, hf, Generator.afterFacings]
          rw [heading_of_facing_eq_none hf, ih hnodup, List.filter_cons, hunfaced, if_pos rfl, hout]
          refine Prod.ext (congrArg (List.cons _) (List.map_congr_left fun o' ho' => ?_)) rfl
          have hne : o' ≠ o := by
            rintro rfl
            exact hnew ho'
          rw [outsetAmong_cons_of_ne hne]

theorem headings_walkers (g : Grid) (rules : RuleSet) (gen : Generator) :
    g.headings rules (g.having rules .move) gen =
      ((g.having rules .move).map fun o => g.headingFrom rules o (g.outset rules gen o),
        gen.afterFacings (g.unfaced rules).length) :=
  headings_eq (g.nodup_having rules .move)

end

/-! ### Who steps -/

/-- **A MOVE object that steps, and which way**: the way it sets out if it can, or else back if it
can do that. -/
inductive Walks (g : Grid) (rules : RuleSet) (gen : Generator) (o : Object) : Direction → Prop
  | ahead (ho : o ∈ g.having rules .move)
      (hahead : g.canStep rules o.pos (g.outset rules gen o) = true) :
      Walks g rules gen o (g.outset rules gen o)
  | back (ho : o ∈ g.having rules .move)
      (hahead : g.canStep rules o.pos (g.outset rules gen o) = false)
      (hback : g.canStep rules o.pos (g.outset rules gen o).reverse = true) :
      Walks g rules gen o (g.outset rules gen o).reverse

variable {g : Grid} {rules : RuleSet} {gen : Generator} {o : Object} {x : Direction}
  {q : Position} {k : Kind}

theorem Walks.mem_having (h : g.Walks rules gen o x) : o ∈ g.having rules .move := by
  cases h with
  | ahead ho => exact ho
  | back ho => exact ho

/-- It steps in one direction only. -/
theorem Walks.unique {y : Direction} (hx : g.Walks rules gen o x) (hy : g.Walks rules gen o y) :
    x = y := by
  cases hx with
  | ahead _ hahead =>
      cases hy with
      | ahead => rfl
      | back _ hbarred _ => exact absurd hahead (by simp [hbarred])
  | back _ hbarred _ =>
      cases hy with
      | ahead _ hahead => exact absurd hahead (by simp [hbarred])
      | back => rfl

theorem mem_walkerSteppers :
    (o, x) ∈ g.walkerSteppers rules gen ↔ g.Walks rules gen o x := by
  rw [walkerSteppers, headings_walkers, List.filter_map, List.map_map, List.mem_map]
  simp only [List.mem_filter, Function.comp_apply]
  constructor
  · rintro ⟨o', ⟨ho, hsteps⟩, heq⟩
    cases hahead : g.canStep rules o'.pos (g.outset rules gen o') with
    | true =>
        rw [headingFrom_of_canStep hahead] at heq
        cases heq
        exact .ahead ho hahead
    | false =>
        rw [headingFrom_of_barred hahead] at heq hsteps
        cases heq
        exact .back ho hahead hsteps
  · rintro (⟨ho, hahead⟩ | ⟨ho, hahead, hback⟩)
    · exact ⟨o, ⟨ho, by rw [headingFrom_of_canStep hahead]⟩, by rw [headingFrom_of_canStep hahead]⟩
    · exact ⟨o, ⟨ho, by rw [headingFrom_of_barred hahead, hback]⟩,
        by rw [headingFrom_of_barred hahead]⟩

/-! ### The plan of the phase -/

/-- **What is planned in the second phase**: a MOVE object that walks is planned in its own
direction, and everything else that is planned is pushed by one of them. -/
theorem get?_plan_walkers (h : (g.plan rules (g.walkerSteppers rules gen)).get? o = some x) :
    g.Walks rules gen o x ∨ ∃ s, g.Walks rules gen s x ∧ g.PushedFrom rules x s.pos o := by
  rcases get?_plan_cases h with hstepper | ⟨s, hs, rfl, hpushed⟩
  · exact .inl (mem_walkerSteppers.1 hstepper)
  · exact .inr ⟨s.1, mem_walkerSteppers.1 hs, hpushed⟩

theorem Walks.get?_plan (h : g.Walks rules gen o x) :
    (g.plan rules (g.walkerSteppers rules gen)).get? o = some x := by
  obtain ⟨y, hy, hget⟩ : ∃ y, (o, y) ∈ g.walkerSteppers rules gen ∧
      (g.plan rules (g.walkerSteppers rules gen)).get? o = some y :=
    exists_get?_plan_of_stepper (mem_walkerSteppers.2 h)
  rw [hget, h.unique (mem_walkerSteppers.1 hy)]

/-- An entry after the MOVE objects have turned. -/
theorem get?_walkersTurned (g : Grid) (rules : RuleSet) (gen : Generator) (q : Position)
    (k : Kind) :
    ((g.walkersTurned rules gen).cell q).get? k =
      if (⟨q, k⟩ : Object) ∈ g.having rules .move then
        ((g.cell q).get? k).map fun _ =>
          some (g.headingFrom rules ⟨q, k⟩ (g.outset rules gen ⟨q, k⟩)).direction
      else (g.cell q).get? k := by
  rw [walkersTurned, headings_walkers, List.foldl_map]
  simp only [object_headingFrom]
  exact get?_turnEach g _ (fun o => (g.headingFrom rules o (g.outset rules gen o)).direction) q k

/-! ### The account of the phase -/

/-- An object of a kind comes to a position in the second phase, by a step in a direction. -/
def Arrives (g : Grid) (rules : RuleSet) (gen : Generator) (q : Position) (k : Kind)
    (x : Direction) : Prop :=
  ∃ p, p.step x = q ∧ Event.moved k p q ∈ (g.moveWalkers rules gen).2.1

/-- **An object leaves its cell** in the second phase, by a step in a direction.  The account says
that it goes one cell, and nothing else of it.  Its kind lies there afterwards, facing a direction
in which an object of that kind arrived, and it lies no longer where it lay, unless another object
of that kind arrived there. -/
structure Leaves (g : Grid) (rules : RuleSet) (gen : Generator) (o : Object) (x : Direction) :
    Prop where
  contains : g.contains (o.pos.step x) = true
  told : ∀ q, Event.moved o.kind o.pos q ∈ (g.moveWalkers rules gen).2.1 ↔ q = o.pos.step x
  arrived : ∃ y, g.Arrives rules gen (o.pos.step x) o.kind y ∧
    ((g.moveWalkers rules gen).1.cell (o.pos.step x)).get? o.kind = some (some y)
  gone : (∀ y, ¬g.Arrives rules gen o.pos o.kind y) →
    ((g.moveWalkers rules gen).1.cell o.pos).get? o.kind = none

/-- **An object stays on its cell** in the second phase.  The account says nothing of it, and it has
a given facing afterwards, unless another object of its kind arrived on its cell.  Then it faces a
direction in which one of them did. -/
structure Stays (g : Grid) (rules : RuleSet) (gen : Generator) (o : Object)
    (facing : Option Direction) : Prop where
  untold : ∀ q, Event.moved o.kind o.pos q ∉ (g.moveWalkers rules gen).2.1
  alone : (∀ y, ¬g.Arrives rules gen o.pos o.kind y) →
    ((g.moveWalkers rules gen).1.cell o.pos).get? o.kind = some facing
  joined : (∃ y, g.Arrives rules gen o.pos o.kind y) →
    ∃ y, g.Arrives rules gen o.pos o.kind y ∧
      ((g.moveWalkers rules gen).1.cell o.pos).get? o.kind = some (some y)

theorem moved_mem_moveWalkers {p : Position} :
    Event.moved k p q ∈ (g.moveWalkers rules gen).2.1 ↔
      ∃ x, (g.plan rules (g.walkerSteppers rules gen)).get? ⟨p, k⟩ = some x ∧ q = p.step x := by
  rw [moveWalkers_eq]
  exact Plan.moved_mem_events_iff

/-- What the plan brings to a position arrives there. -/
theorem arrives_of_mem_arriving {e : Object × Direction}
    (he : e ∈ (g.plan rules (g.walkerSteppers rules gen)).arriving q k) :
    g.Arrives rules gen q k e.2 := by
  obtain ⟨hentry, hstep, rfl⟩ := Plan.mem_arriving.1 he
  exact ⟨e.1.pos, hstep,
    moved_mem_moveWalkers.2 ⟨e.2, SortedMap.get?_eq_some_iff.2 hentry, hstep.symm⟩⟩

/-- Where an object of a kind arrives, the kind lies afterwards and faces as one that arrived. -/
theorem Arrives.get?_moveWalkers (h : g.Arrives rules gen q k x) :
    ∃ y, g.Arrives rules gen q k y ∧
      ((g.moveWalkers rules gen).1.cell q).get? k = some (some y) := by
  obtain ⟨p, _, hmoved⟩ := h
  obtain ⟨x, hget, rfl⟩ := moved_mem_moveWalkers.1 hmoved
  have harriving := Plan.mem_arriving_of_get? hget
  have hcontains : (g.walkersTurned rules gen).contains (p.step x) = true := by
    rw [← (g.sameSize_walkersTurned rules gen).contains]
    exact (cleared_plan (g.free_walkers rules gen) hget).contains
  have hobject := mem_objects_of_mem_plan (fun _ hs => walker_mem_objects hs)
    (SortedMap.get?_eq_some_iff.1 hget)
  have hplaceable : k.isPlaceable = true := Cell.isPlaceable_of_mem_kinds (mem_objects.1 hobject)
  obtain ⟨e, he, hentry⟩ := exists_get?_carryOut hcontains hplaceable harriving
  rw [moveWalkers_eq]
  exact ⟨e.2, arrives_of_mem_arriving he, hentry⟩

/-- Where no object of a kind arrives, what was planned is gone and the rest has at most turned. -/
theorem get?_moveWalkers_of_no_arrival (h : ∀ y, ¬g.Arrives rules gen q k y) :
    ((g.moveWalkers rules gen).1.cell q).get? k =
      if (⟨q, k⟩ : Object) ∈ (g.plan rules (g.walkerSteppers rules gen)).keys then none
      else ((g.walkersTurned rules gen).cell q).get? k := by
  have hnone : (g.plan rules (g.walkerSteppers rules gen)).arriving q k = [] :=
    List.eq_nil_iff_forall_not_mem.2 fun e he => h e.2 (arrives_of_mem_arriving he)
  rw [moveWalkers_eq, get?_carryOut_of_arriving_eq_nil hnone]

/-- What is planned leaves its cell. -/
theorem leaves_of_get?_plan
    (h : (g.plan rules (g.walkerSteppers rules gen)).get? o = some x) :
    g.Leaves rules gen o x where
  contains := (cleared_plan (g.free_walkers rules gen) h).contains
  told q := by
    rw [moved_mem_moveWalkers, h]
    constructor
    · rintro ⟨y, hy, rfl⟩
      cases hy
      rfl
    · rintro rfl
      exact ⟨x, rfl, rfl⟩
  arrived := (arrives_of_mem_arriving (Plan.mem_arriving_of_get? h)).get?_moveWalkers
  gone hnone := by
    rw [get?_moveWalkers_of_no_arrival hnone, if_pos]
    rw [SortedMap.mem_keys, h]
    rfl

/-- What is not planned stays on its cell, and has at most turned. -/
theorem stays_of_get?_plan (h : (g.plan rules (g.walkerSteppers rules gen)).get? o = none)
    {facing : Option Direction}
    (hturned : ((g.walkersTurned rules gen).cell o.pos).get? o.kind = some facing) :
    g.Stays rules gen o facing where
  untold q hmoved := by
    obtain ⟨x, hx, _⟩ := moved_mem_moveWalkers.1 hmoved
    rw [h] at hx
    cases hx
  alone hnone := by
    rw [get?_moveWalkers_of_no_arrival hnone, if_neg, hturned]
    rw [SortedMap.mem_keys, h]
    exact Bool.false_ne_true
  joined := fun ⟨_, harrives⟩ => harrives.get?_moveWalkers

/-- A MOVE object that is boxed in turns around.  It stays on its cell, or another one that walks
pushes it. -/
theorem stays_or_leaves (ho : o ∈ g.having rules .move)
    (hahead : g.canStep rules o.pos (g.outset rules gen o) = false)
    (hback : g.canStep rules o.pos (g.outset rules gen o).reverse = false) :
    g.Stays rules gen o (some (g.outset rules gen o).reverse) ∨
      ∃ s x, s ≠ o ∧ g.Walks rules gen s x ∧ g.PushedFrom rules x s.pos o ∧
        g.Leaves rules gen o x := by
  have hboxed : ∀ x, ¬g.Walks rules gen o x := by
    intro x hwalks
    cases hwalks with
    | ahead _ h => exact absurd h (by simp [hahead])
    | back _ _ h => exact absurd h (by simp [hback])
  cases hget : (g.plan rules (g.walkerSteppers rules gen)).get? o with
  | none =>
      refine .inl (stays_of_get?_plan hget ?_)
      obtain ⟨facing, hentry⟩ :=
        Option.isSome_iff_exists.1 (Cell.mem_kinds.1 (mem_objects.1 (mem_having.1 ho).1))
      rw [get?_walkersTurned, if_pos ho, hentry, headingFrom_of_barred hahead]
      rfl
  | some x =>
      rcases get?_plan_walkers hget with hwalks | ⟨s, hwalks, hpushed⟩
      · exact absurd hwalks (hboxed x)
      · refine .inr ⟨s, x, ?_, hwalks, hpushed, leaves_of_get?_plan hget⟩
        rintro rfl
        exact hboxed x hwalks

/-- What is neither MOVE nor PUSH stays on its cell as it is. -/
theorem stays_of_not_grants (ho : o ∈ g.objects) (hmove : rules.grants o.kind .move = false)
    (hpush : rules.grants o.kind .push = false) :
    g.Stays rules gen o ((g.cell o.pos).facing o.kind) := by
  have hwalker : o ∉ g.having rules .move := by
    intro h
    exact absurd (mem_having.1 h).2 (by simp [hmove])
  have hget : (g.plan rules (g.walkerSteppers rules gen)).get? o = none := by
    refine Option.eq_none_iff_forall_ne_some.2 fun x hx => ?_
    rcases get?_plan_walkers hx with hwalks | ⟨_, _, hpushed⟩
    · exact hwalker hwalks.mem_having
    · exact absurd (mem_having.1 hpushed.1).2 (by simp [hpush])
  refine stays_of_get?_plan hget ?_
  obtain ⟨facing, hentry⟩ := Option.isSome_iff_exists.1 (Cell.mem_kinds.1 (mem_objects.1 ho))
  rw [get?_walkersTurned, if_neg hwalker, Cell.facing, hentry]
  rfl

/-- **What becomes of every walker in the second phase of a turn, and of what is neither MOVE nor
PUSH.**  One facing is drawn for each MOVE object that has none, in the order of the board, and no
other.  A MOVE object that can step the way it sets out on the board before the phase does so; one
that cannot, but can step back, steps back; and one that is boxed in stays and faces back, or it is
PUSH and goes one cell with what another walker pushes.  An object that is neither MOVE nor PUSH
stays with its facing.  Without MOVE objects nothing happens.  The loop in which the MOVE objects
look ahead and turn one after another comes to the same. -/
theorem moveWalkers_walks (g : Grid) (rules : RuleSet) (gen : Generator) :
    g.walkInTurn rules gen = g.moveWalkers rules gen ∧
    (g.moveWalkers rules gen).2.2 = gen.afterFacings (g.unfaced rules).length ∧
    (∀ o ∈ g.having rules .move,
      (g.canStep rules o.pos (g.outset rules gen o) = true →
        g.Leaves rules gen o (g.outset rules gen o)) ∧
      (g.canStep rules o.pos (g.outset rules gen o) = false →
        g.canStep rules o.pos (g.outset rules gen o).reverse = true →
          g.Leaves rules gen o (g.outset rules gen o).reverse) ∧
      (g.canStep rules o.pos (g.outset rules gen o) = false →
        g.canStep rules o.pos (g.outset rules gen o).reverse = false →
          g.Stays rules gen o (some (g.outset rules gen o).reverse) ∨
          ∃ s x, s ≠ o ∧ g.Walks rules gen s x ∧ g.PushedFrom rules x s.pos o ∧
            g.Leaves rules gen o x)) ∧
    (∀ o ∈ g.objects, rules.grants o.kind .move = false → rules.grants o.kind .push = false →
      g.Stays rules gen o ((g.cell o.pos).facing o.kind)) ∧
    (g.having rules .move = [] → g.moveWalkers rules gen = (g, [], gen)) := by
  refine ⟨g.walkInTurn_eq rules gen, ?_, fun o ho => ⟨fun hahead => ?_, fun hahead hback => ?_,
    fun hahead hback => ?_⟩, fun o ho hmove hpush => ?_, fun hnone => ?_⟩
  · rw [moveWalkers_eq, headings_walkers]
  · exact leaves_of_get?_plan (Walks.ahead ho hahead).get?_plan
  · exact leaves_of_get?_plan (Walks.back ho hahead hback).get?_plan
  · exact stays_or_leaves ho hahead hback
  · exact stays_of_not_grants ho hmove hpush
  · exact moveWalkers_of_having_eq_nil hnone gen

end Grid

end RuleTiles
