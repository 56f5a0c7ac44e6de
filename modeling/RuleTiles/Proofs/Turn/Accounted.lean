/-
**A report leaves nothing out.**

An object may be moved twice in one turn, pushed onto another of its kind, turned into two others
and destroyed.  The account of the turn grows phase by phase, and in each phase it says of every
object that is new how it came there, and of every object that is gone how it went.  This is kept
when accounts are put one after another: an object that is new at the end was new after some phase.
So it holds of a whole turn, and a report without any such event says that the objects are those
that there were.  Movement could leave something out by losing what it sets down off the board; it
loses nothing, because what is planned always lands.

At the end of the account stands at most one event that the rules have changed.  It says by which
rules, so that the rules after the turn can be told from those before.

Main definitions:

* `RuleTiles.Event.Gains`, `RuleTiles.Event.Loses` — an event says how an object came, or how it
  went;
* `RuleTiles.Grid.Accounts` — **an account leaves nothing out**;
* `RuleTiles.RuleChange` — what an event says of a change of the rules.

Main results:

* `RuleTiles.Grid.Accounts.append` — accounts one after another;
* `RuleTiles.Grid.accounts_carryOut`, `RuleTiles.Grid.accounts_transform`,
  `RuleTiles.Grid.Culls.accounts` — each phase leaves nothing out;
* `RuleTiles.Grid.accounts_resolve` — neither does a turn;
* `RuleTiles.Grid.countP_changesRules`, `RuleTiles.ruleChange_of_mem_ruleEvents` — the change of the
  rules;
* `RuleTiles.Grid.resolve_accounted` — **a report accounts for every change**.
-/

import RuleTiles.Proofs.Checked.Carrying
import RuleTiles.Proofs.Turn.Destroyed
import RuleTiles.Proofs.Turn.Merged

set_option relaxedAutoImplicit false
set_option autoImplicit false

namespace RuleTiles

/-! ### What events tell of -/

namespace Event

/-- An event says how an object came to its place: it moved there, or something there turned into
it. -/
inductive Gains (o : Object) : Event → Prop
  | moved (p : Position) : Gains o (.moved o.kind p o.pos)
  | transformed (k : Kind) : Gains o (.transformed o.pos k o.kind)

/-- An event says how an object went from its place: it moved away, it turned into something, or it
was destroyed. -/
inductive Loses (o : Object) : Event → Prop
  | moved (q : Position) : Loses o (.moved o.kind o.pos q)
  | transformed (k : Kind) : Loses o (.transformed o.pos o.kind k)
  | destroyed (p : Property) : Loses o (.destroyed o.pos o.kind p)

/-- Whether an event says that the rules changed. -/
def changesRules : Event → Bool
  | rulesChanged .. => true
  | _ => false

variable {o : Object} {e : Event}

theorem Gains.changesGrid (h : e.Gains o) : e.changesGrid = true := by
  cases h with
  | moved => rfl
  | transformed => rfl

theorem Loses.changesGrid (h : e.Loses o) : e.changesGrid = true := by
  cases h with
  | moved => rfl
  | transformed => rfl
  | destroyed => rfl

theorem changesRules_of_changesGrid (h : e.changesGrid = true) : e.changesRules = false := by
  cases e with
  | rulesChanged => cases h
  | moved => rfl
  | transformed => rfl
  | destroyed => rfl
  | stateChanged => rfl
  | rejected => rfl

end Event

/-! ### Accounts -/

namespace Grid

/-- **An account leaves nothing out**: it says of every object that is new how it came, and of every
object that is gone how it went. -/
structure Accounts (g h : Grid) (events : List Event) : Prop where
  gained : ∀ o ∈ h.objects, o ∉ g.objects → ∃ e ∈ events, e.Gains o
  lost : ∀ o ∈ g.objects, o ∉ h.objects → ∃ e ∈ events, e.Loses o

variable {g h i : Grid} {rules : RuleSet} {events others : List Event}

/-- More may be told. -/
theorem Accounts.mono (hgh : g.Accounts h events) (hmore : ∀ e ∈ events, e ∈ others) :
    g.Accounts h others := by
  refine ⟨fun o ho hnew => ?_, fun o ho hgone => ?_⟩
  · obtain ⟨e, he, hgains⟩ := hgh.gained o ho hnew
    exact ⟨e, hmore e he, hgains⟩
  · obtain ⟨e, he, hloses⟩ := hgh.lost o ho hgone
    exact ⟨e, hmore e he, hloses⟩

/-- **Accounts one after another** leave nothing out.  An object that is new in the end is new after
the first part or after the second, and one that is gone went in the first or in the second. -/
theorem Accounts.append (hgh : g.Accounts h events) (hhi : h.Accounts i others) :
    g.Accounts i (events ++ others) := by
  have hfirst := hgh.mono fun e he => List.mem_append_left others he
  have hsecond := hhi.mono fun e he => List.mem_append_right events he
  refine ⟨fun o ho hnew => ?_, fun o ho hgone => ?_⟩
  · by_cases hmid : o ∈ h.objects
    · exact hfirst.gained o hmid hnew
    · exact hsecond.gained o ho hmid
  · by_cases hmid : o ∈ h.objects
    · exact hsecond.lost o hmid hgone
    · exact hfirst.lost o ho hmid

/-- Nothing is new and nothing is gone when no event tells of it. -/
theorem Accounts.mem_objects_iff (hgh : g.Accounts h events)
    (hquiet : ∀ e ∈ events, e.changesGrid = false) (o : Object) :
    o ∈ h.objects ↔ o ∈ g.objects := by
  constructor
  · intro ho
    by_contra hnew
    obtain ⟨e, he, hgains⟩ := hgh.gained o ho hnew
    exact absurd hgains.changesGrid (by simp [hquiet e he])
  · intro ho
    by_contra hgone
    obtain ⟨e, he, hloses⟩ := hgh.lost o ho hgone
    exact absurd hloses.changesGrid (by simp [hquiet e he])

/-- Boards of one size with the same objects list them alike. -/
theorem SameSize.objects_eq (hsize : g.SameSize h) (hsame : ∀ o, o ∈ h.objects ↔ o ∈ g.objects) :
    h.objects = g.objects := by
  have hkinds : ∀ q, (h.cell q).kinds = (g.cell q).kinds := by
    intro q
    refine Cell.kinds_ext fun k => ?_
    rw [← mem_objects (o := ⟨q, k⟩), hsame, mem_objects]
  simp only [objects, positions, hsize.width, hsize.height, hkinds]

/-! ### Movement -/

/-- **Carrying out a plan for free steppers leaves nothing out**, also on a board on which objects
have turned. -/
theorem accounts_carryOut {turned : Grid} {steppers : List (Object × Direction)}
    (hfree : g.Free rules steppers) (hsize : g.SameSize turned)
    (hkinds : ∀ q, (turned.cell q).kinds = (g.cell q).kinds) :
    g.Accounts (turned.carryOut (g.plan rules steppers)) (g.plan rules steppers).events := by
  refine ⟨fun o ho hnew => ?_, fun o ho hgone => ?_⟩
  · obtain ⟨o', ho', htarget⟩ := (mem_objects_carryOut_plan hfree hsize hkinds).1 ho
    cases hget : (g.plan rules steppers).get? o' with
    | none =>
        rw [Plan.target, hget] at htarget
        subst htarget
        exact absurd ho' hnew
    | some x =>
        rw [Plan.target, hget] at htarget
        subst htarget
        exact ⟨_, Plan.moved_mem_events_iff.2 ⟨x, hget, rfl⟩, .moved o'.pos⟩
  · cases hget : (g.plan rules steppers).get? o with
    | none =>
        refine absurd ((mem_objects_carryOut_plan hfree hsize hkinds).2 ⟨o, ho, ?_⟩) hgone
        rw [Plan.target, hget]
    | some x => exact ⟨_, Plan.moved_mem_events_iff.2 ⟨x, hget, rfl⟩, .moved (o.pos.step x)⟩

theorem accounts_moveYou (g : Grid) (rules : RuleSet) (d : Direction) :
    g.Accounts (g.moveYou rules d).1 (g.moveYou rules d).2 :=
  accounts_carryOut (g.free_you rules d) (g.sameSize_youTurned rules d) (g.kinds_youTurned rules d)

theorem accounts_moveWalkers (g : Grid) (rules : RuleSet) (gen : Generator) :
    g.Accounts (g.moveWalkers rules gen).1 (g.moveWalkers rules gen).2.1 :=
  accounts_carryOut (g.free_walkers rules gen) (g.sameSize_walkersTurned rules gen)
    (g.kinds_walkersTurned rules gen)

theorem accounts_afterMovement (g : Grid) (rules : RuleSet) (d : Direction) (gen : Generator) :
    g.Accounts (g.afterMovement rules d gen).1 (g.afterMovement rules d gen).2.1 :=
  (g.accounts_moveYou rules d).append (accounts_moveWalkers _ rules gen)

/-! ### Effects -/

/-- **Turning kinds into others leaves nothing out.** -/
theorem accounts_transform (g : Grid) (rules : RuleSet) :
    g.Accounts (g.transform rules).1 (g.transform rules).2 := by
  refine ⟨fun o ho hnew => ?_, fun o ho hgone => ?_⟩
  · rcases mem_kinds_transform.1 (mem_objects.1 ho) with ⟨hold, _⟩ | ⟨c, hc, hpos, htarget, _⟩
    · exact absurd (mem_objects.2 hold) hnew
    · refine ⟨_, transformed_mem_transform hc, ?_⟩
      rw [hpos, htarget]
      exact .transformed c.source
  · have hchanged : ∃ c ∈ g.changes rules, c.pos = o.pos ∧ c.source = o.kind := by
      by_contra hnone
      refine hgone (mem_objects.2 (mem_kinds_transform.2 (.inl ⟨mem_objects.1 ho, ?_⟩)))
      exact fun c hc hsame => hnone ⟨c, hc, hsame⟩
    obtain ⟨c, hc, hpos, hsource⟩ := hchanged
    refine ⟨_, transformed_mem_transform hc, ?_⟩
    rw [hpos, hsource]
    exact .transformed c.target

/-- **A pass that destroys leaves nothing out**: nothing is new after it, and it tells of all that
is gone. -/
theorem Culls.accounts {cause : Property} {pass : Grid × List Event} (hpass : g.Culls cause pass) :
    g.Accounts pass.1 pass.2 := by
  refine ⟨fun o ho hnew => absurd (hpass.left o ho) hnew, fun o ho hgone => ?_⟩
  have htold := (hpass.told (.destroyed o.pos o.kind cause)).2
    ⟨o.pos, o.kind, ⟨mem_objects.1 ho, fun hleft => hgone (mem_objects.2 hleft)⟩, rfl⟩
  exact ⟨_, htold, .destroyed cause⟩

theorem accounts_destructions (g : Grid) (rules : RuleSet) :
    g.Accounts (g.destructions rules).1 (g.destructions rules).2 :=
  ((g.culls_destroyDefeated rules).accounts.append (culls_destroySunk _ rules).accounts).append
    (culls_destroyMelted _ rules).accounts

theorem accounts_afterEffects (g : Grid) (rules : RuleSet) :
    g.Accounts (g.afterEffects rules).1 (g.afterEffects rules).2.1 := by
  rw [afterEffects_eq]
  exact (g.accounts_transform rules).append (accounts_destructions _ rules)

/-! ### The turn -/

section

variable (g : Grid) (rules : RuleSet) (d : Direction) (gen : Generator)

/-- **A turn leaves nothing out.** -/
theorem accounts_resolve :
    g.Accounts (g.resolve rules d gen).grid (g.resolve rules d gen).report.events := by
  rw [grid_resolve, report_resolve]
  refine Accounts.mono ?_ fun e he => List.mem_append_left _ he
  exact (g.accounts_afterMovement rules d gen).append (accounts_afterEffects _ _)

/-- A report without any change of the board means that the objects are as they were. -/
theorem objects_resolve_of_not_changesGrid
    (hquiet : (g.resolve rules d gen).report.changesGrid = false) :
    (g.resolve rules d gen).grid.objects = g.objects := by
  refine (g.sameSize_resolve rules d gen).objects_eq
    ((g.accounts_resolve rules d gen).mem_objects_iff ?_)
  rw [Report.changesGrid, List.any_eq_false] at hquiet
  exact fun e he => Bool.eq_false_iff.2 (hquiet e he)

end

end Grid

/-! ### The change of the rules -/

/-- **What an event says of a change of the rules**: it lists, in their order and each once, the
rules that are new and the rules that are gone, and the rules after the change are those before it
without the latter and with the former. -/
structure RuleChange (before after : RuleSet) (added removed : List Rule) : Prop where
  added_ascending : added.Pairwise fun r r' => compare r r' = .lt
  removed_ascending : removed.Pairwise fun r r' => compare r r' = .lt
  added_nodup : added.Nodup
  removed_nodup : removed.Nodup
  added_new : ∀ r ∈ added, r ∉ before
  removed_old : ∀ r ∈ removed, r ∈ before
  disjoint : ∀ r ∈ added, r ∉ removed
  after_iff : ∀ r, r ∈ after ↔ (r ∈ before ∧ r ∉ removed) ∨ r ∈ added

/-- The event lists the differences of the two sets of rules. -/
theorem ruleChange_diff (before after : RuleSet) :
    RuleChange before after (after.diff before).toList (before.diff after).toList where
  added_ascending := (after.diff before).ascending
  removed_ascending := (before.diff after).ascending
  added_nodup := (after.diff before).nodup_toList
  removed_nodup := (before.diff after).nodup_toList
  added_new r hr := (SortedSet.mem_diff.1 hr).2
  removed_old r hr := (SortedSet.mem_diff.1 hr).1
  disjoint r hadded hremoved := (SortedSet.mem_diff.1 hadded).2 (SortedSet.mem_diff.1 hremoved).1
  after_iff r := by
    rw [← SortedSet.mem_def, ← SortedSet.mem_def, SortedSet.mem_diff, SortedSet.mem_diff]
    by_cases hbefore : r ∈ before
    · simp [hbefore]
    · simp [hbefore]

theorem ruleChange_of_mem_ruleEvents {before after : RuleSet} {added removed : List Rule}
    (h : Event.rulesChanged added removed ∈ ruleEvents before after) :
    RuleChange before after added removed := by
  unfold ruleEvents at h
  split at h
  · cases h
  · cases List.mem_singleton.1 h
    exact ruleChange_diff before after

theorem countP_changesRules_ruleEvents (before after : RuleSet) :
    (ruleEvents before after).countP Event.changesRules = if after = before then 0 else 1 := by
  unfold ruleEvents
  by_cases hsame : before = after
  · rw [if_pos hsame, if_pos hsame.symm, List.countP_nil]
  · rw [if_neg hsame, if_neg (Ne.symm hsame)]
    rfl

namespace Grid

section

variable {g : Grid} {rules : RuleSet} {d : Direction} {gen : Generator} {e : Event}

theorem changesGrid_of_mem_events {plan : Plan} (he : e ∈ plan.events) : e.changesGrid = true := by
  obtain ⟨_, _, rfl⟩ := List.mem_map.1 he
  rfl

/-- Every event of movement tells of a change of the board. -/
theorem changesGrid_of_mem_afterMovement (he : e ∈ (g.afterMovement rules d gen).2.1) :
    e.changesGrid = true := by
  rcases List.mem_append.1 he with hyou | hwalkers
  · exact changesGrid_of_mem_events hyou
  · exact changesGrid_of_mem_events hwalkers

/-- So does every event of the effects. -/
theorem changesGrid_of_mem_afterEffects (he : e ∈ (g.afterEffects rules).2.1) :
    e.changesGrid = true := by
  rw [afterEffects_eq] at he
  rcases List.mem_append.1 he with htransformed | hdestroyed
  · obtain ⟨_, _, rfl⟩ := List.mem_map.1 htransformed
    rfl
  · obtain ⟨_, _, _, _, rfl⟩ := mem_events_destructions.1 hdestroyed
    rfl

end

section

variable (g : Grid) (rules : RuleSet) (d : Direction) (gen : Generator)

/-- No event before the last part of the report is about the rules. -/
theorem changesRules_of_mem_movement_effects {e : Event}
    (he : e ∈ (g.afterMovement rules d gen).2.1 ++ (g.settled rules d gen).2.1) :
    e.changesRules = false := by
  rcases List.mem_append.1 he with hmovement | heffects
  · exact Event.changesRules_of_changesGrid (changesGrid_of_mem_afterMovement hmovement)
  · exact Event.changesRules_of_changesGrid (changesGrid_of_mem_afterEffects heffects)

/-- **The report has one event about the rules if they changed, and none otherwise.** -/
theorem countP_changesRules :
    (g.resolve rules d gen).report.events.countP Event.changesRules =
      if (g.resolve rules d gen).rules = rules then 0 else 1 := by
  have hnone : ((g.afterMovement rules d gen).2.1 ++ (g.settled rules d gen).2.1).countP
      Event.changesRules = 0 := by
    rw [List.countP_eq_zero]
    intro e he
    rw [g.changesRules_of_mem_movement_effects rules d gen he]
    exact Bool.false_ne_true
  rw [report_resolve, List.countP_append, hnone, Nat.zero_add, countP_changesRules_ruleEvents,
    rules_resolve, grid_resolve]

/-- What the report says of the rules is true of the rules before and after the turn. -/
theorem ruleChange_of_mem_report {added removed : List Rule}
    (h : Event.rulesChanged added removed ∈ (g.resolve rules d gen).report.events) :
    RuleChange rules (g.resolve rules d gen).rules added removed := by
  rw [report_resolve] at h
  rw [rules_resolve, grid_resolve]
  rcases List.mem_append.1 h with hearlier | hlast
  · cases g.changesRules_of_mem_movement_effects rules d gen hearlier
  · exact ruleChange_of_mem_ruleEvents hlast

/-- **A report accounts for every change.**  An object that lies on the board after the turn and did
not before has moved there, or something there has turned into it.  One that lay there before and is
gone has moved away, turned into something or been destroyed.  So if the report tells of no such
change, the objects are as they were.  One event says that the rules changed if they did, and says
by which.  Both phases of movement are carried out in full by a machine that tells of an object only
when it has landed on the board. -/
theorem resolve_accounted :
    (∀ o ∈ (g.resolve rules d gen).grid.objects, o ∉ g.objects →
      ∃ e ∈ (g.resolve rules d gen).report.events, e.Gains o) ∧
    (∀ o ∈ g.objects, o ∉ (g.resolve rules d gen).grid.objects →
      ∃ e ∈ (g.resolve rules d gen).report.events, e.Loses o) ∧
    ((g.resolve rules d gen).report.changesGrid = false →
      (g.resolve rules d gen).grid.objects = g.objects) ∧
    (g.resolve rules d gen).report.events.countP Event.changesRules =
      (if (g.resolve rules d gen).rules = rules then 0 else 1) ∧
    (∀ added removed,
      Event.rulesChanged added removed ∈ (g.resolve rules d gen).report.events →
        RuleChange rules (g.resolve rules d gen).rules added removed) ∧
    Checked.perform (g.youTurned rules d) (g.plan rules (g.youSteppers rules d)) =
      pure (g.moveYou rules d) ∧
    ∀ h : Grid,
      Checked.perform (h.walkersTurned rules gen) (h.plan rules (h.walkerSteppers rules gen)) =
        pure ((h.moveWalkers rules gen).1, (h.moveWalkers rules gen).2.1) := by
  have haccounts := g.accounts_resolve rules d gen
  refine ⟨haccounts.gained, haccounts.lost, fun hquiet => ?_, g.countP_changesRules rules d gen,
    fun added removed htold => ?_, Checked.perform_you g rules d,
    fun h => Checked.perform_walkers h rules gen⟩
  · exact g.objects_resolve_of_not_changesGrid rules d gen hquiet
  · exact g.ruleChange_of_mem_report rules d gen htold

end

end Grid

end RuleTiles
