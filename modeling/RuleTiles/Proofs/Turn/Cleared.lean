/-
**Plans that clear the way.**

A plan is made of the steppers, and then of the chains in front of them, one stepper after another.
A chain ends at the first cell on which everything that has to be pushed has a direction already,
and leaves it to others to clear the cells beyond.  This module shows that the way is clear in the
end, whatever the directions of the steppers are and in whatever order they come, because they
cross, meet and share cells only where each of them may step.  The invariant is that of a work
list: an object that is planned is a stepper whose chain is still to be added, or its way is clear,
and a way that is clear stays so when the plan grows.

Main definitions:

* `RuleTiles.Grid.Free` — the steppers lie on the board and can step;
* `RuleTiles.Grid.Cleared` — a plan clears the way from a position;
* `RuleTiles.Grid.youSteppers`, `RuleTiles.Grid.walkerSteppers` — who steps in the two phases of
  movement.

Main results:

* `RuleTiles.Grid.cleared_push` — one chain clears the way of its stepper, and of all it adds;
* `RuleTiles.Grid.cleared_plan` — **a plan clears the way of everything that is planned**;
* `RuleTiles.Grid.free_you`, `RuleTiles.Grid.free_walkers` — the steppers of both phases are free.
-/

import RuleTiles.Proofs.Board.Lines
import RuleTiles.Proofs.Board.Size
import RuleTiles.Proofs.Turn.Planned

set_option relaxedAutoImplicit false
set_option autoImplicit false

namespace RuleTiles

/-! ### One chain -/

namespace Plan

variable {rules : RuleSet} {d : Direction} {plan : Plan}

/-- The kinds on a cell that have to be pushed and have no direction yet. -/
theorem mem_pushed {q : Position} {c : Cell} {k : Kind} :
    k ∈ c.kinds.filter (fun k => rules.grants k .push && !plan.contains ⟨q, k⟩) ↔
      k ∈ c.kinds ∧ rules.grants k .push = true ∧ plan.get? ⟨q, k⟩ = none := by
  simp [SortedMap.contains, List.mem_filter]

/-- Kinds of one cell that are entered one after another. -/
theorem get?_insertEach (l : List Kind) (q : Position) (o : Object) :
    (l.foldl (fun plan k => plan.insert ⟨q, k⟩ d) plan).get? o =
      if o.pos = q ∧ o.kind ∈ l then some d else plan.get? o := by
  induction l generalizing plan with
  | nil => simp
  | cons k l ih =>
      rw [List.foldl_cons, ih, SortedMap.get?_insert]
      by_cases hq : o.pos = q
      · by_cases hk : o.kind = k
        · simp [hq, hk, Object.ext_iff]
        · simp [hq, hk, Object.ext_iff]
      · simp [hq, Object.ext_iff]

/-- An object keeps the first direction it is given. -/
theorem get?_push {ahead : List (Position × Cell)} {o : Object} {x : Direction}
    (h : plan.get? o = some x) : (push rules d ahead plan).get? o = some x := by
  induction ahead generalizing plan with
  | nil => exact h
  | cons qc rest ih =>
      obtain ⟨q, c⟩ := qc
      unfold push
      dsimp only
      split
      · exact h
      · refine ih ?_
        rw [get?_insertEach, if_neg]
        · exact h
        · rintro ⟨rfl, hk⟩
          have hfree := (mem_pushed.1 hk).2.2
          rw [h] at hfree
          cases hfree

theorem mem_keys_push {ahead : List (Position × Cell)} {o : Object} (h : o ∈ plan.keys) :
    o ∈ (push rules d ahead plan).keys := by
  obtain ⟨x, hx⟩ := Option.isSome_iff_exists.1 (SortedMap.mem_keys.1 h)
  rw [SortedMap.mem_keys, get?_push hx]
  rfl

/-- At first only the steppers are planned. -/
theorem mem_of_get?_ofSteppers {steppers : List (Object × Direction)} {o : Object} {x : Direction}
    (h : (ofSteppers steppers).get? o = some x) : (o, x) ∈ steppers := by
  rcases SortedMap.mem_entries_of_mem_insertAll (SortedMap.get?_eq_some_iff.1 h) with
    hnone | ⟨s, hs, he⟩
  · cases hnone
  · cases he
    exact hs

end Plan

namespace Grid

variable {g : Grid} {rules : RuleSet} {plan plan' : Plan} {d : Direction} {p : Position}

/-- The way from a position is clear under a plan: the next cell is on the board, nothing on it bars
the way, and all of it that has to be pushed is planned, too. -/
structure Cleared (g : Grid) (rules : RuleSet) (plan : Plan) (p : Position) (d : Direction) :
    Prop where
  contains : g.contains (p.step d) = true
  unbarred : ∀ k ∈ (g.cell (p.step d)).kinds, rules.bars k = false
  planned : ∀ k ∈ (g.cell (p.step d)).kinds, rules.grants k .push = true →
    (⟨p.step d, k⟩ : Object) ∈ plan.keys

/-- A way that is clear stays so when the plan grows. -/
theorem Cleared.mono (h : g.Cleared rules plan p d) (hgrow : ∀ o ∈ plan.keys, o ∈ plan'.keys) :
    g.Cleared rules plan' p d :=
  ⟨h.contains, h.unbarred, fun k hk hpush => hgrow _ (h.planned k hk hpush)⟩

/-- **One chain clears the way** of its stepper, and of every object that it adds to the plan. -/
theorem cleared_push (h : g.canStep rules p d = true) (plan : Plan) :
    g.Cleared rules (.push rules d (g.ray p d) plan) p d ∧
      ∀ o x, (Plan.push rules d (g.ray p d) plan).get? o = some x →
        plan.get? o = some x ∨
          x = d ∧ g.Cleared rules (.push rules d (g.ray p d) plan) o.pos d := by
  induction p using walk_induction (g := g) (d := d) generalizing plan with
  | edge p hedge =>
      rw [canStep_eq_true, hedge] at h
      cases h.1
  | ahead p hstep ih =>
      obtain ⟨_, hunbarred, hnext⟩ := canStep_eq_true.1 h
      rw [ray_eq, if_pos hstep]
      unfold Plan.push
      dsimp only
      have hmem : ∀ k, k ∈ (g.cell (p.step d)).kinds.filter
          (fun k => rules.grants k .push && !plan.contains ⟨p.step d, k⟩) ↔
            k ∈ (g.cell (p.step d)).kinds ∧ rules.grants k .push = true ∧
              plan.get? ⟨p.step d, k⟩ = none :=
        fun _ => Plan.mem_pushed
      generalize (g.cell (p.step d)).kinds.filter
        (fun k => rules.grants k .push && !plan.contains ⟨p.step d, k⟩) = pushed at hmem ⊢
      split
      · -- all that has to be pushed from the next cell has a direction already
        rename_i hnone
        rw [List.isEmpty_iff.1 hnone] at hmem
        refine ⟨⟨hstep, hunbarred, fun k hk hpush => ?_⟩, fun o x ho => .inl ho⟩
        rw [SortedMap.mem_keys]
        cases hget : plan.get? ⟨p.step d, k⟩ with
        | none => exact absurd ((hmem k).2 ⟨hk, hpush, hget⟩) (List.not_mem_nil)
        | some x => rfl
      · -- the chain goes on, as the next cell has something to push
        rename_i hsome
        have hpushable : rules.pushable (g.cell (p.step d)) = true := by
          obtain ⟨k, hk⟩ := List.exists_mem_of_ne_nil pushed (mt List.isEmpty_iff.2 hsome)
          obtain ⟨hk, hpush, _⟩ := (hmem k).1 hk
          exact RuleSet.pushable_of_mem hk hpush
        obtain ⟨hbeyond, hadded⟩ := ih (hnext hpushable)
          (pushed.foldl (fun plan k => plan.insert ⟨p.step d, k⟩ d) plan)
        refine ⟨⟨hstep, hunbarred, fun k hk hpush => Plan.mem_keys_push ?_⟩, fun o x ho => ?_⟩
        · rw [SortedMap.mem_keys, Plan.get?_insertEach]
          split
          · rfl
          · rename_i hold
            cases hget : plan.get? ⟨p.step d, k⟩ with
            | none => exact absurd ⟨rfl, (hmem k).2 ⟨hk, hpush, hget⟩⟩ hold
            | some x => rfl
        · rcases hadded o x ho with hinserted | hnew
          · rw [Plan.get?_insertEach] at hinserted
            split at hinserted
            · rename_i hpushed
              cases hinserted
              refine .inr ⟨rfl, ?_⟩
              rw [hpushed.1]
              exact hbeyond
            · exact .inl hinserted
          · exact .inr hnew

/-! ### All chains -/

/-- The steppers lie on the board, and each of them can step in its own direction. -/
def Free (g : Grid) (rules : RuleSet) (steppers : List (Object × Direction)) : Prop :=
  ∀ s ∈ steppers, s.1 ∈ g.objects ∧ g.canStep rules s.1.pos s.2 = true

/-- The invariant of the work list: what is planned is a stepper whose chain is still to be added,
or its way is clear. -/
def Pending (g : Grid) (rules : RuleSet) (steppers : List (Object × Direction)) (plan : Plan) :
    Prop :=
  ∀ o x, plan.get? o = some x → (o, x) ∈ steppers ∨ g.Cleared rules plan o.pos x

variable {s : Object × Direction} {steppers : List (Object × Direction)}

theorem pending_ofSteppers (g : Grid) (rules : RuleSet) (steppers : List (Object × Direction)) :
    g.Pending rules steppers (.ofSteppers steppers) :=
  fun _ _ ho => .inl (Plan.mem_of_get?_ofSteppers ho)

/-- Adding the chain of a stepper keeps the invariant for the steppers that are left. -/
theorem Pending.push (h : g.Pending rules (s :: steppers) plan)
    (hfree : g.canStep rules s.1.pos s.2 = true) :
    g.Pending rules steppers (.push rules s.2 (g.ray s.1.pos s.2) plan) := by
  intro o x ho
  obtain ⟨hown, hadded⟩ := cleared_push hfree plan
  rcases hadded o x ho with hold | ⟨rfl, hnew⟩
  · rcases h o x hold with hpending | hcleared
    · rcases List.mem_cons.1 hpending with rfl | hlater
      · exact .inr hown
      · exact .inl hlater
    · exact .inr (hcleared.mono fun o ho => Plan.mem_keys_push ho)
  · exact .inr hnew

theorem Pending.foldl (h : g.Pending rules steppers plan) (hfree : g.Free rules steppers) :
    g.Pending rules []
      (steppers.foldl (fun plan s => Plan.push rules s.2 (g.ray s.1.pos s.2) plan) plan) := by
  induction steppers generalizing plan with
  | nil => exact h
  | cons s steppers ih =>
      obtain ⟨hs, hrest⟩ := List.forall_mem_cons.1 hfree
      exact ih (h.push hs.2) hrest

/-- **A plan clears the way of everything that is planned**, whichever way the steppers go. -/
theorem cleared_plan (hfree : g.Free rules steppers) {o : Object} {x : Direction}
    (h : (g.plan rules steppers).get? o = some x) :
    g.Cleared rules (g.plan rules steppers) o.pos x := by
  rcases (pending_ofSteppers g rules steppers).foldl hfree o x h with hnone | hcleared
  · cases hnone
  · exact hcleared

/-! ### The steppers of the two phases -/

/-- The YOU objects that can step, each in the direction of the move. -/
def youSteppers (g : Grid) (rules : RuleSet) (d : Direction) : List (Object × Direction) :=
  ((g.having rules .you).filter fun o => g.canStep rules o.pos d).map (·, d)

/-- The board on which the YOU objects have turned, but not yet stepped. -/
def youTurned (g : Grid) (rules : RuleSet) (d : Direction) : Grid :=
  g.turnAll (g.having rules .you) d

/-- The MOVE objects that step, each the way it faces in the end. -/
def walkerSteppers (g : Grid) (rules : RuleSet) (gen : Generator) : List (Object × Direction) :=
  ((g.headings rules (g.having rules .move) gen).1.filter Heading.steps).map
    fun x => (x.object, x.direction)

/-- The board on which the MOVE objects have turned, but not yet stepped. -/
def walkersTurned (g : Grid) (rules : RuleSet) (gen : Generator) : Grid :=
  (g.headings rules (g.having rules .move) gen).1.foldl (fun g x => g.turn x.object x.direction) g

theorem moveYou_eq (g : Grid) (rules : RuleSet) (d : Direction) :
    g.moveYou rules d =
      ((g.youTurned rules d).carryOut (g.plan rules (g.youSteppers rules d)),
        (g.plan rules (g.youSteppers rules d)).events) := rfl

theorem moveWalkers_eq (g : Grid) (rules : RuleSet) (gen : Generator) :
    g.moveWalkers rules gen =
      ((g.walkersTurned rules gen).carryOut (g.plan rules (g.walkerSteppers rules gen)),
        (g.plan rules (g.walkerSteppers rules gen)).events,
        (g.headings rules (g.having rules .move) gen).2) := rfl

/-- Without MOVE objects nothing happens in the second phase. -/
theorem moveWalkers_of_having_eq_nil {g : Grid} {rules : RuleSet}
    (hnone : g.having rules .move = []) (gen : Generator) :
    g.moveWalkers rules gen = (g, [], gen) := by
  rw [moveWalkers, hnone]
  rfl

theorem kinds_youTurned (g : Grid) (rules : RuleSet) (d : Direction) (q : Position) :
    ((g.youTurned rules d).cell q).kinds = (g.cell q).kinds :=
  kinds_turnEach g q _ (fun o => o) fun _ => d

theorem kinds_walkersTurned (g : Grid) (rules : RuleSet) (gen : Generator) (q : Position) :
    ((g.walkersTurned rules gen).cell q).kinds = (g.cell q).kinds :=
  kinds_turnEach g q _ Heading.object Heading.direction

theorem sameSize_youTurned (g : Grid) (rules : RuleSet) (d : Direction) :
    g.SameSize (g.youTurned rules d) :=
  sameSize_foldl (fun g o => sameSize_turn g o d) _ g

theorem sameSize_walkersTurned (g : Grid) (rules : RuleSet) (gen : Generator) :
    g.SameSize (g.walkersTurned rules gen) :=
  sameSize_foldl (fun g (x : Heading) => sameSize_turn g x.object x.direction) _ g

/-- The steppers of the first phase are free. -/
theorem free_you (g : Grid) (rules : RuleSet) (d : Direction) :
    g.Free rules (g.youSteppers rules d) := by
  intro s hs
  refine ⟨stepper_mem_objects hs, ?_⟩
  obtain ⟨o, ho, rfl⟩ := List.mem_map.1 hs
  exact (List.mem_filter.1 ho).2

/-- A MOVE object that is said to step can do so. -/
theorem canStep_headingFrom {o : Object}
    (h : (g.headingFrom rules o d).steps = true) :
    g.canStep rules o.pos (g.headingFrom rules o d).direction = true := by
  cases hahead : g.canStep rules o.pos d with
  | true => rwa [headingFrom_of_canStep hahead]
  | false =>
      rw [headingFrom_of_barred hahead] at h ⊢
      exact h

theorem canStep_heading {o : Object} {gen : Generator}
    (h : (g.heading rules o gen).1.steps = true) :
    g.canStep rules o.pos (g.heading rules o gen).1.direction = true := by
  cases hf : (g.cell o.pos).facing o.kind with
  | some d =>
      rw [heading_of_facing_eq_some hf] at h ⊢
      exact canStep_headingFrom h
  | none =>
      rw [heading_of_facing_eq_none hf] at h ⊢
      exact canStep_headingFrom h

theorem canStep_of_mem_headings {objects : List Object} {gen : Generator} {x : Heading}
    (hx : x ∈ (g.headings rules objects gen).1) (hsteps : x.steps = true) :
    g.canStep rules x.object.pos x.direction = true := by
  induction objects generalizing gen with
  | nil => cases hx
  | cons o rest ih =>
      rw [headings_cons] at hx
      rcases List.mem_cons.1 hx with rfl | hx
      · rw [object_heading]
        exact canStep_heading hsteps
      · exact ih hx

/-- The steppers of the second phase are free. -/
theorem free_walkers (g : Grid) (rules : RuleSet) (gen : Generator) :
    g.Free rules (g.walkerSteppers rules gen) := by
  intro s hs
  refine ⟨walker_mem_objects hs, ?_⟩
  obtain ⟨x, hx, rfl⟩ := List.mem_map.1 hs
  obtain ⟨hx, hsteps⟩ := List.mem_filter.1 hx
  exact canStep_of_mem_headings hx hsteps

end Grid

end RuleTiles
