/-
**Plans carried out under checks.**

A machine that carries out a plan lifts what is planned, which has to lie on the board, and sets it
down again.  It tells of an object only when that was set down on the board, so an object whose
step led over the edge would be lost without a word.  None is: for steppers that are free to go,
whichever way each of them goes, every planned object is lifted, set down one cell further on and
told of.

Main definitions:

* `RuleTiles.Checked.setDown` — setting down one object, which tells of it if it lands on the
  board;
* `RuleTiles.Checked.perform` — carrying out a plan.

Main results:

* `RuleTiles.Checked.perform_eq` — what lies on the board and steps to a cell of the board is
  carried out and told of;
* `RuleTiles.Checked.perform_you`, `RuleTiles.Checked.perform_walkers` — so are the two phases of
  movement;
* `RuleTiles.Checked.plan_performed` — **a plan for free steppers names what lies on the board,
  clears the way of it, and is carried out in full**.
-/

import RuleTiles.Proofs.Checked.Turn
import RuleTiles.Proofs.Turn.Cleared

set_option relaxedAutoImplicit false
set_option autoImplicit false

namespace RuleTiles

namespace Checked

/-! ### Setting down -/

/-- The event that a planned object has stepped. -/
def stepped (e : Object × Direction) : Event := .moved e.1.kind e.1.pos (e.1.pos.step e.2)

/-- Sets down a planned object, and tells of it if it lands on the board. -/
def setDown (state : Grid × List Event) (e : Object × Direction) :
    Except Halt (Grid × List Event) := do
  let landing ← place state.1 (e.1.pos.step e.2)
  let after ← put state.1 (e.1.pos.step e.2) e.1.kind (some e.2)
  return (after, if landing.isSome then state.2 ++ [stepped e] else state.2)

/-- Carries out a plan: everything is lifted, and then set down again in the order of the plan. -/
def perform (g : Grid) (plan : Plan) : Except Halt (Grid × List Event) := do
  let lifted ← liftAll g plan.keys
  plan.entries.foldlM setDown (lifted, [])

theorem setDown_eq {g : Grid} {e : Object × Direction} (h : g.contains (e.1.pos.step e.2) = true)
    (told : List Event) :
    setDown (g, told) e =
      pure (g.put (e.1.pos.step e.2) e.1.kind (some e.2), told ++ [stepped e]) := by
  rw [setDown, place_eq, pure_bind, put_eq, pure_bind, if_pos h]
  rfl

/-- Objects that land on the board are all told of. -/
theorem foldlM_setDown {l : List (Object × Direction)} {g : Grid} (told : List Event)
    (h : ∀ e ∈ l, g.contains (e.1.pos.step e.2) = true) :
    l.foldlM setDown (g, told) =
      pure (l.foldl (fun g e => g.put (e.1.pos.step e.2) e.1.kind (some e.2)) g,
        told ++ l.map stepped) := by
  induction l generalizing g told with
  | nil => simp
  | cons e l ih =>
      obtain ⟨hfirst, hrest⟩ := List.forall_mem_cons.1 h
      rw [List.foldlM_cons, setDown_eq hfirst, pure_bind, ih]
      · simp
      · intro e' he'
        rw [Grid.contains_put]
        exact hrest e' he'

/-- **What lies on the board and steps to a cell of the board is carried out and told of.** -/
theorem perform_eq {g : Grid} {plan : Plan}
    (h : ∀ e ∈ plan.entries, e.1 ∈ g.objects ∧ g.contains (e.1.pos.step e.2) = true) :
    perform g plan = pure (g.carryOut plan, plan.events) := by
  have hkeys : ∀ o ∈ plan.keys, o ∈ g.objects := by
    intro o ho
    obtain ⟨e, he, rfl⟩ := List.mem_map.1 ho
    exact (h e he).1
  rw [perform, liftAll_eq plan.nodup_keys hkeys, pure_bind, foldlM_setDown]
  · rfl
  · intro e he
    rw [Grid.contains_takeAll]
    exact (h e he).2

/-- Everything that is planned is told of. -/
theorem moved_mem_events {plan : Plan} {e : Object × Direction} (he : e ∈ plan.entries) :
    Event.moved e.1.kind e.1.pos (e.1.pos.step e.2) ∈ plan.events :=
  List.mem_map.2 ⟨e, he, rfl⟩

/-- What is planned lies one cell further on in the end. -/
theorem mem_kinds_of_mem_entries {g : Grid} {plan : Plan} {e : Object × Direction}
    (he : e ∈ plan.entries) (hkind : e.1.kind.isPlaceable = true)
    (htarget : g.contains (e.1.pos.step e.2) = true) :
    e.1.kind ∈ ((g.carryOut plan).cell (e.1.pos.step e.2)).kinds := by
  refine (Grid.mem_kinds_putAll plan.entries (fun e => e.1.pos.step e.2) (fun e => e.1.kind)
    (fun e => some e.2)).2 (.inr ⟨e, he, rfl, rfl, ?_, hkind⟩)
  rw [Grid.contains_takeAll]
  exact htarget

/-! ### Plans for free steppers -/

variable {g turned : Grid} {rules : RuleSet} {steppers : List (Object × Direction)}

theorem cleared_of_mem_plan (hfree : g.Free rules steppers) {e : Object × Direction}
    (he : e ∈ (g.plan rules steppers).entries) :
    g.Cleared rules (g.plan rules steppers) e.1.pos e.2 :=
  Grid.cleared_plan hfree (SortedMap.get?_eq_some_iff.2 he)

/-- A plan for free steppers is carried out in full, also when objects have turned since. -/
theorem perform_plan (hfree : g.Free rules steppers) (hsize : g.SameSize turned)
    (hkinds : ∀ q, (turned.cell q).kinds = (g.cell q).kinds) :
    perform turned (g.plan rules steppers) =
      pure (turned.carryOut (g.plan rules steppers), (g.plan rules steppers).events) := by
  refine perform_eq fun e he => ⟨?_, ?_⟩
  · have hobject := Grid.mem_objects_of_mem_plan (fun s hs => (hfree s hs).1) he
    rw [Grid.mem_objects, hkinds]
    exact Grid.mem_objects.1 hobject
  · rw [← hsize.contains]
    exact (cleared_of_mem_plan hfree he).contains

/-- The first phase is the plan of its steppers, carried out in full. -/
theorem perform_you (g : Grid) (rules : RuleSet) (d : Direction) :
    perform (g.youTurned rules d) (g.plan rules (g.youSteppers rules d)) =
      pure (g.moveYou rules d) :=
  perform_plan (g.free_you rules d) (g.sameSize_youTurned rules d) (g.kinds_youTurned rules d)

/-- The second phase is the plan of its steppers, carried out in full. -/
theorem perform_walkers (g : Grid) (rules : RuleSet) (gen : Generator) :
    perform (g.walkersTurned rules gen) (g.plan rules (g.walkerSteppers rules gen)) =
      pure ((g.moveWalkers rules gen).1, (g.moveWalkers rules gen).2.1) :=
  perform_plan (g.free_walkers rules gen) (g.sameSize_walkersTurned rules gen)
    (g.kinds_walkersTurned rules gen)

/-- **A plan for free steppers is carried out in full.**  Whatever it names lies on the board and
steps to a cell of the board.  All on that cell that has to be pushed is planned, too, and nothing
there bars the way.  So nothing that is lifted is missing, nothing is set down off the board, and
everything that is planned is told of and lies one cell further on afterwards.  The steppers may go
different ways; those of the two phases of movement are free. -/
theorem plan_performed (g : Grid) (rules : RuleSet) :
    (∀ steppers, g.Free rules steppers →
      (∀ e ∈ (g.plan rules steppers).entries,
        e.1 ∈ g.objects ∧ g.contains (e.1.pos.step e.2) = true ∧
          (∀ k ∈ (g.cell (e.1.pos.step e.2)).kinds, rules.grants k .push = true →
            ∃ x, (⟨e.1.pos.step e.2, k⟩, x) ∈ (g.plan rules steppers).entries) ∧
          (∀ k ∈ (g.cell (e.1.pos.step e.2)).kinds, rules.grants k .stop = true →
            rules.grants k .push = true)) ∧
      ∀ turned, g.SameSize turned → (∀ q, (turned.cell q).kinds = (g.cell q).kinds) →
        perform turned (g.plan rules steppers) =
            pure (turned.carryOut (g.plan rules steppers), (g.plan rules steppers).events) ∧
          ∀ e ∈ (g.plan rules steppers).entries,
            Event.moved e.1.kind e.1.pos (e.1.pos.step e.2) ∈ (g.plan rules steppers).events ∧
              e.1.kind ∈
                ((turned.carryOut (g.plan rules steppers)).cell (e.1.pos.step e.2)).kinds) ∧
    (∀ d, perform (g.youTurned rules d) (g.plan rules (g.youSteppers rules d)) =
      pure (g.moveYou rules d)) ∧
    (∀ gen, perform (g.walkersTurned rules gen) (g.plan rules (g.walkerSteppers rules gen)) =
      pure ((g.moveWalkers rules gen).1, (g.moveWalkers rules gen).2.1)) := by
  refine ⟨fun steppers hfree => ⟨fun e he => ?_, fun turned hsize hkinds => ⟨?_, fun e he => ?_⟩⟩,
    perform_you g rules, perform_walkers g rules⟩
  · have hcleared := cleared_of_mem_plan hfree he
    refine ⟨Grid.mem_objects_of_mem_plan (fun s hs => (hfree s hs).1) he, hcleared.contains, ?_, ?_⟩
    · intro k hk hpush
      have hplanned := SortedMap.mem_keys.1 (hcleared.planned k hk hpush)
      obtain ⟨x, hx⟩ := Option.isSome_iff_exists.1 hplanned
      exact ⟨x, SortedMap.get?_eq_some_iff.1 hx⟩
    · intro k hk hstop
      have hbars := hcleared.unbarred k hk
      simpa [RuleSet.bars, hstop] using hbars
  · exact perform_plan hfree hsize hkinds
  · have hobject := Grid.mem_objects_of_mem_plan (fun s hs => (hfree s hs).1) he
    have hlanding := (cleared_of_mem_plan hfree he).contains
    rw [hsize.contains] at hlanding
    have hplace := Cell.isPlaceable_of_mem_kinds (Grid.mem_objects.1 hobject)
    exact ⟨moved_mem_events he, mem_kinds_of_mem_entries he hplace hlanding⟩

/-! ### Ways that cross -/

/-- The level
```
.     flag .    .
skull rock rock .
.     .    .    baba
```
on which `flag` walks down and `skull` walks to the right, so that both push the same rock. -/
def crossing : Grid :=
  .ofFitting 4 3
    #[.empty, .ofPieces [⟨.icon .flag, some .down⟩], .empty, .empty,
      .ofPieces [⟨.icon .skull, some .right⟩], .ofKinds [.icon .rock], .ofKinds [.icon .rock],
      .empty,
      .empty, .empty, .empty, .ofKinds [.icon .baba]]
    (by decide)

/-- The rules of that level. -/
def crossingRules : RuleSet :=
  .ofList [⟨.icon .flag, .property .move⟩, ⟨.icon .skull, .property .move⟩,
    ⟨.icon .rock, .property .push⟩, ⟨.icon .baba, .property .stop⟩]

/-- The steppers of that level. -/
def crossingSteppers : List (Object × Direction) :=
  [(⟨.clamp 0 1, .icon .flag⟩, .down), (⟨.clamp 1 0, .icon .skull⟩, .right)]

/-- The rock where the ways cross goes down with the first of the two, and the second stops there;
all three are set down and told of. -/
theorem plan_performed_crossing :
    crossing.Free crossingRules crossingSteppers ∧
      perform crossing (crossing.plan crossingRules crossingSteppers) =
        pure (crossing.carryOut (crossing.plan crossingRules crossingSteppers),
          [.moved (.icon .flag) (.clamp 0 1) (.clamp 1 1),
            .moved (.icon .skull) (.clamp 1 0) (.clamp 1 1),
            .moved (.icon .rock) (.clamp 1 1) (.clamp 2 1)]) := by
  have hfree : crossing.Free crossingRules crossingSteppers := by
    unfold Grid.Free
    decide +kernel
  have hevents : (crossing.plan crossingRules crossingSteppers).events =
      [.moved (.icon .flag) (.clamp 0 1) (.clamp 1 1),
        .moved (.icon .skull) (.clamp 1 0) (.clamp 1 1),
        .moved (.icon .rock) (.clamp 1 1) (.clamp 2 1)] := by decide +kernel
  obtain ⟨hperform, _⟩ :=
    ((plan_performed crossing crossingRules).1 crossingSteppers hfree).2 crossing (.refl _)
      fun _ => rfl
  rw [hevents] at hperform
  exact ⟨hfree, hperform⟩

end Checked

end RuleTiles
