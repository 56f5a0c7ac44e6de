/-
**A turn on a transposed board.**

No phase of a turn tells rows from columns.  Without MOVE rules no facing is drawn and nothing
steps but in the direction of the move, so that a turn of the transposed board in the transposed
direction comes to the transposed board.  The order in which objects are gone through is along the
rows of either board; it shows in the order of the account only, since objects that come to one
place are set down there in an order that does not depend on it: those that are shifted all face
one way, and changes at one place are made rule by rule.

Main definitions:

* `RuleTiles.Event.transpose` — what happened, at the exchanged places.

Main results:

* `RuleTiles.Grid.Transposed.shifted`, `RuleTiles.Grid.Transposed.moveYou` — the first phase;
* `RuleTiles.Grid.Transposed.transform`, `RuleTiles.Grid.Transposed.destroy` — the effects of
  rules;
* `RuleTiles.Grid.resolve_transpose` — **a turn of the transposed board is the transposed turn**.
-/

import Mathlib.Data.List.Perm.Basic
import RuleTiles.Proofs.Board.Transpose
import RuleTiles.Proofs.Turn.Shifted
import RuleTiles.Proofs.Turn.Transformed

set_option relaxedAutoImplicit false
set_option autoImplicit false

namespace RuleTiles

/-- What happened, with rows and columns exchanged. -/
def Event.transpose : Event → Event
  | moved k source target => moved k source.transpose target.transpose
  | transformed p source target => transformed p.transpose source target
  | destroyed p k cause => destroyed p.transpose k cause
  | rulesChanged added removed => rulesChanged added removed
  | stateChanged before after => stateChanged before after
  | rejected state => rejected state

theorem Event.transpose_involutive : Function.Involutive Event.transpose := by
  intro e
  cases e with
  | _ => rfl

/-- A change at the exchanged position. -/
def Change.transpose (c : Change) : Change :=
  ⟨c.pos.transpose, c.source, c.target, c.facing.map Direction.transpose⟩

namespace Grid

variable {g h : Grid} {rules : RuleSet} {d : Direction} {p : Position} {o : Object}

namespace Transposed

/-- What changes entries and keeps the sizes of two boards keeps one the other one transposed. -/
theorem of_sameSize {g' h' : Grid} (ht : g.Transposed h) (hg : g.SameSize g') (hh : h.SameSize h')
    (hget : ∀ p k, (h'.cell p.transpose).get? k =
      ((g'.cell p).get? k).map (Option.map Direction.transpose)) : g'.Transposed h' where
  width := by rw [← hh.width, ht.width, hg.height]
  height := by rw [← hh.height, ht.height, hg.width]
  get? := hget

/-! ### Stepping and pushing -/

/-- A step that is possible corresponds to one that is. -/
theorem canStep (ht : g.Transposed h) (rules : RuleSet) (p : Position) (d : Direction) :
    h.canStep rules p.transpose d.transpose = g.canStep rules p d := by
  induction p using walk_induction (g := g) (d := d) with
  | edge p hedge =>
      rw [Bool.eq_iff_iff, canStep_eq_true (g := h), canStep_eq_true (g := g),
        ← Position.transpose_step, ht.contains, hedge]
      simp only [Bool.false_eq_true, false_and]
  | ahead p _ ih =>
      rw [Bool.eq_iff_iff, canStep_eq_true (g := h), canStep_eq_true (g := g),
        ← Position.transpose_step, ht.contains, ht.kinds, ht.pushable, ih]

theorem setsOut (ht : g.Transposed h) :
    h.SetsOut rules d.transpose o.transpose ↔ g.SetsOut rules d o := by
  rw [SetsOut, SetsOut, ht.mem_having, Object.pos_transpose, ht.canStep]

theorem pushedFrom (ht : g.Transposed h) :
    h.PushedFrom rules d.transpose p.transpose o.transpose ↔ g.PushedFrom rules d p o := by
  simp only [PushedFrom, ht.mem_having, Object.pos_transpose, ← Position.transpose_along,
    Position.transpose_inj, ht.pushable]

theorem shifted_of (ht : g.Transposed h) (ho : g.Shifted rules d o) :
    h.Shifted rules d.transpose o.transpose := by
  rcases ho with hsets | ⟨s, hsets, hpushed⟩
  · exact .inl (ht.setsOut.2 hsets)
  · exact .inr ⟨s.transpose, ht.setsOut.2 hsets, ht.pushedFrom.2 hpushed⟩

/-- **What is shifted** on the transposed board is what is shifted. -/
theorem shifted (ht : g.Transposed h) :
    h.Shifted rules d.transpose o.transpose ↔ g.Shifted rules d o := by
  refine ⟨fun ho => ?_, ht.shifted_of⟩
  have hback := ht.symm.shifted_of ho
  rwa [Direction.transpose_transpose, Object.transpose_transpose] at hback

/-! ### The first phase -/

/-- The first phase, on the board. -/
theorem moveYou (ht : g.Transposed h) (rules : RuleSet) (d : Direction) :
    (g.moveYou rules d).1.Transposed (h.moveYou rules d.transpose).1 := by
  refine ht.of_sameSize (sameSize_moveYou g rules d) (sameSize_moveYou h rules d.transpose)
    fun p k => ?_
  by_cases harrival : ∃ o, g.Shifted rules d o ∧ o.pos.step d = p ∧ o.kind = k
  · obtain ⟨o, ho, rfl, rfl⟩ := harrival
    have harrived := (ht.shifted.2 ho).get?_moveYou
    rw [Object.pos_transpose, Object.kind_transpose, ← Position.transpose_step] at harrived
    rw [harrived, ho.get?_moveYou]
    rfl
  · have hnone : ∀ o, g.Shifted rules d o → ¬(o.pos.step d = p ∧ o.kind = k) :=
      fun o ho hend => harrival ⟨o, ho, hend⟩
    have hnone' : ∀ o, h.Shifted rules d.transpose o →
        ¬(o.pos.step d.transpose = p.transpose ∧ o.kind = k) := by
      rintro o ho ⟨hstep, hkind⟩
      refine hnone o.transpose (ht.shifted.1 ho) ⟨?_, hkind⟩
      rw [← Position.transpose_inj, Position.transpose_step]
      exact hstep
    obtain ⟨hgone, hstays⟩ := get?_moveYou_of_no_arrival hnone
    obtain ⟨hgone', hstays'⟩ := get?_moveYou_of_no_arrival hnone'
    by_cases ho : g.Shifted rules d ⟨p, k⟩
    · rw [hgone ho, hgone' (ht.shifted_of ho)]
      rfl
    · have ho' : ¬h.Shifted rules d.transpose (Object.transpose ⟨p, k⟩) := mt ht.shifted.1 ho
      rw [hstays ho, hstays' ho', ht.get?]
      split
      · cases (g.cell p).get? k with
        | none => rfl
        | some facing => rfl
      · rfl

theorem mem_events_moveYou (ht : g.Transposed h) {e : Event} (he : e ∈ (g.moveYou rules d).2) :
    e.transpose ∈ (h.moveYou rules d.transpose).2 := by
  obtain ⟨o, ho, rfl⟩ := Grid.mem_events_moveYou.1 he
  refine Grid.mem_events_moveYou.2 ⟨o.transpose, ht.shifted_of ho, ?_⟩
  rw [Event.transpose, Position.transpose_step]
  rfl

/-- The first phase, by its account. -/
theorem events_moveYou (ht : g.Transposed h) (rules : RuleSet) (d : Direction) :
    (h.moveYou rules d.transpose).2.Perm ((g.moveYou rules d).2.map Event.transpose) := by
  refine perm_map_of_involutive Event.transpose_involutive (Plan.nodup_events _)
    (Plan.nodup_events _) ?_
  intro e
  refine ⟨fun he => ?_, ht.mem_events_moveYou⟩
  have hback := ht.symm.mem_events_moveYou he
  rwa [Direction.transpose_transpose, Event.transpose_involutive] at hback

end Transposed

/-! ### The second phase -/

/-- Without MOVE rules nothing happens in the second phase. -/
theorem moveWalkers_of_no_move (hmove : ∀ k, (⟨k, .property .move⟩ : Rule) ∉ rules) (g : Grid)
    (gen : Generator) : g.moveWalkers rules gen = (g, [], gen) := by
  have hnone : g.having rules .move = [] := by
    refine List.eq_nil_iff_forall_not_mem.2 fun o ho => ?_
    exact hmove _ ((RuleSet.grants_iff_mem (by decide)).1 (mem_having.1 ho).2)
  exact moveWalkers_of_having_eq_nil hnone gen

theorem afterMovement_of_no_move (hmove : ∀ k, (⟨k, .property .move⟩ : Rule) ∉ rules) (g : Grid)
    (d : Direction) (gen : Generator) :
    g.afterMovement rules d gen = ((g.moveYou rules d).1, (g.moveYou rules d).2, gen) := by
  simp only [afterMovement, moveWalkers_of_no_move hmove, List.append_nil]

/-! ### Transformation -/

/-- Changes with exchanged facings enter the exchanged facing. -/
theorem foldl_enter_transpose (l : List Change) (entry : Option (Option Direction)) :
    (l.map Change.transpose).foldl enter (entry.map (Option.map Direction.transpose)) =
      (l.foldl enter entry).map (Option.map Direction.transpose) := by
  induction l generalizing entry with
  | nil => rfl
  | cons c l ih =>
      rw [List.map_cons, List.foldl_cons, List.foldl_cons, ← ih]
      congr 1
      cases hfacing : c.facing with
      | none => cases entry <;> simp [enter, Change.transpose, hfacing]
      | some x => simp [enter, Change.transpose, hfacing]

namespace Transposed

theorem changesAt (ht : g.Transposed h) (rules : RuleSet) (q : Position) :
    h.changesAt rules q.transpose = (g.changesAt rules q).map Change.transpose := by
  have heffective : rules.effective.filter (fun t => (h.cell q.transpose).has t.1) =
      rules.effective.filter fun t => (g.cell q).has t.1 := by
    refine List.filter_congr fun t hmem => ?_
    obtain ⟨_, _, hplace, _⟩ := mem_effective.1 hmem
    exact ht.has q hplace
  rw [Grid.changesAt, Grid.changesAt, heffective, List.map_map]
  refine List.map_congr_left fun t _ => ?_
  rw [Function.comp_apply, Change.transpose, ht.facing]

/-- The transformation, on the board. -/
theorem transform (ht : g.Transposed h) (rules : RuleSet) :
    (g.transform rules).1.Transposed (h.transform rules).1 := by
  refine ht.of_sameSize (sameSize_transform g rules) (sameSize_transform h rules) fun p k => ?_
  by_cases hsite : g.contains p = true ∧ k.isPlaceable = true
  · obtain ⟨hp, hk⟩ := hsite
    have hp' : h.contains p.transpose = true := by rw [ht.contains, hp]
    rw [get?_transform hp hk, get?_transform hp' hk, ht.changesAt, List.filter_map, List.map_map,
      ht.get?, ← foldl_enter_transpose]
    congr 1
    change (if k ∈ (g.changesAt rules p).map Change.source then none else _) = _
    split
    · rfl
    · rfl
  · rw [get?_eq_none (by rwa [← (sameSize_transform h rules).contains, ht.contains]),
      get?_eq_none (by rwa [← (sameSize_transform g rules).contains])]
    rfl

/-- The changes, up to their order. -/
theorem changes (ht : g.Transposed h) (rules : RuleSet) :
    (h.changes rules).Perm ((g.changes rules).map Change.transpose) := by
  rw [Grid.changes, Grid.changes, List.map_flatMap]
  refine List.Perm.flatMap_left _ fun t hmem => ?_
  obtain ⟨_, _, hplace, _⟩ := mem_effective.1 hmem
  refine ((ht.positionsOf hplace).map _).trans ?_
  rw [List.map_map, List.map_map]
  refine .of_eq (List.map_congr_left fun p _ => ?_)
  rw [Function.comp_apply, Function.comp_apply, Change.transpose, ht.facing]

/-- The transformation, by its account. -/
theorem events_transform (ht : g.Transposed h) (rules : RuleSet) :
    (h.transform rules).2.Perm ((g.transform rules).2.map Event.transpose) := by
  rw [Grid.transform, Grid.transform]
  refine ((ht.changes rules).map _).trans ?_
  rw [List.map_map, List.map_map]
  exact .of_eq rfl

/-! ### Winning and destruction -/

theorem touchesWin (ht : g.Transposed h) (rules : RuleSet) :
    h.touchesWin rules = g.touchesWin rules := by
  rw [Grid.touchesWin, Grid.touchesWin, (ht.meeting rules .you .win).isEmpty_eq, List.isEmpty_map]

theorem sunk (ht : g.Transposed h) (rules : RuleSet) :
    (h.sunk rules).Perm ((g.sunk rules).map Object.transpose) := by
  rw [sunk_eq, sunk_eq]
  refine ht.objects_filter fun o => ?_
  rw [Object.pos_transpose, ht.size, ht.holds]

variable {doomed doomed' : List Object}

/-- Destruction, on the board. -/
theorem destroy (ht : g.Transposed h) (cause : Property)
    (hdoomed : doomed'.Perm (doomed.map Object.transpose)) :
    (g.destroy cause doomed).1.Transposed (h.destroy cause doomed').1 := by
  refine ht.of_sameSize (sameSize_takeAll g doomed) (sameSize_takeAll h doomed') fun p k => ?_
  have hmem : (⟨p.transpose, k⟩ : Object) ∈ doomed' ↔ (⟨p, k⟩ : Object) ∈ doomed := by
    rw [hdoomed.mem_iff]
    exact List.mem_map_of_injective Object.transpose_involutive.injective (a := ⟨p, k⟩)
  rw [Grid.destroy, Grid.destroy, get?_takeAll, get?_takeAll, ht.get?]
  simp only [hmem]
  split
  · rfl
  · rfl

/-- Destruction, by its account. -/
theorem events_destroy (cause : Property) (hdoomed : doomed'.Perm (doomed.map Object.transpose)) :
    (h.destroy cause doomed').2.Perm ((g.destroy cause doomed).2.map Event.transpose) := by
  rw [Grid.destroy, Grid.destroy]
  refine (hdoomed.map _).trans ?_
  rw [List.map_map, List.map_map]
  exact .of_eq rfl

/-- The effects of rules: the board, the account and whether a win is seen. -/
theorem afterEffects (ht : g.Transposed h) (rules : RuleSet) :
    (g.afterEffects rules).1.Transposed (h.afterEffects rules).1 ∧
      (h.afterEffects rules).2.1.Perm ((g.afterEffects rules).2.1.map Event.transpose) ∧
      (h.afterEffects rules).2.2 = (g.afterEffects rules).2.2 := by
  have htransformed := ht.transform rules
  have hdefeated := htransformed.meeting rules .you .defeat
  have hleft := htransformed.destroy .defeat hdefeated
  have hsunk := hleft.sunk rules
  have hafloat := hleft.destroy .sink hsunk
  have hmelted := hafloat.meeting rules .melt .hot
  refine ⟨hafloat.destroy .hot hmelted, ?_, htransformed.touchesWin rules⟩
  simp only [Grid.afterEffects, List.map_append]
  exact (((ht.events_transform rules).append (events_destroy .defeat hdefeated)).append
    (events_destroy .sink hsunk)).append (events_destroy .hot hmelted)

end Transposed

/-! ### Turns -/

theorem transpose_ruleEvents (before after : RuleSet) :
    (ruleEvents before after).map Event.transpose = ruleEvents before after := by
  unfold ruleEvents
  split
  · rfl
  · rfl

/-- **A turn of the transposed board is the transposed turn**, when no rule makes anything MOVE.  It
comes to the transposed board, to the same rules and to the same state of play, and the same happens
in it, in some order, at the exchanged places. -/
theorem resolve_transpose (g : Grid) {rules : RuleSet}
    (hmove : ∀ k, (⟨k, .property .move⟩ : Rule) ∉ rules) (d : Direction) (gen gen' : Generator) :
    (g.transpose.resolve rules d.transpose gen').grid = (g.resolve rules d gen).grid.transpose ∧
      (g.transpose.resolve rules d.transpose gen').rules = (g.resolve rules d gen).rules ∧
      (g.transpose.resolve rules d.transpose gen').report.playState =
        (g.resolve rules d gen).report.playState ∧
      (g.transpose.resolve rules d.transpose gen').report.direction =
        (g.resolve rules d gen).report.direction.transpose ∧
      (g.transpose.resolve rules d.transpose gen').report.events.Perm
        ((g.resolve rules d gen).report.events.map Event.transpose) := by
  have hmoved := (transposed_transpose g).moveYou rules d
  have hmovement := (transposed_transpose g).events_moveYou rules d
  obtain ⟨hsettled, heffects, hwon⟩ := hmoved.afterEffects (g.moveYou rules d).1.rules
  rw [rules_resolve, rules_resolve, report_resolve, report_resolve, grid_resolve, grid_resolve,
    settled, settled, afterMovement_of_no_move hmove, afterMovement_of_no_move hmove]
  dsimp only
  rw [hmoved.rules]
  refine ⟨hsettled.eq_transpose, hsettled.rules, ?_, rfl, ?_⟩
  · rw [hwon, hsettled.rules, hsettled.controllable]
  · rw [hsettled.rules, List.map_append, List.map_append, transpose_ruleEvents]
    exact (hmovement.append heffects).append_right _

/-- The level
```
BABA IS   YOU  .  ROCK
baba FLAG rock .  IS
.    .    .    .  SINK
```
on which a word that is pushed to the right sinks. -/
def pondLevel : Grid :=
  .ofFitting 5 3
    #[.ofKinds [.word .baba], .ofKinds [.is], .ofKinds [.property .you], .empty,
      .ofKinds [.word .rock],
      .ofPieces [⟨.icon .baba, some .up⟩], .ofKinds [.word .flag],
      .ofPieces [⟨.icon .rock, some .left⟩], .empty, .ofKinds [.is],
      .empty, .empty, .empty, .empty, .ofKinds [.property .sink]]
    (by decide)

/-- On that level a move to the right corresponds to a move down on the transposed level. -/
theorem resolve_transpose_pondLevel :
    (∀ k, (⟨k, .property .move⟩ : Rule) ∉ pondLevel.rules) ∧
      (pondLevel.transpose.resolve pondLevel.rules .down (.ofSeed 2)).grid =
        (pondLevel.resolve pondLevel.rules .right (.ofSeed 1)).grid.transpose ∧
      (pondLevel.transpose.resolve pondLevel.rules .down (.ofSeed 2)).report.events.Perm
        ((pondLevel.resolve pondLevel.rules .right (.ofSeed 1)).report.events.map
          Event.transpose) := by
  have hsubjects : pondLevel.rules.subjects .move = [] := by decide +kernel
  have hmove : ∀ k, (⟨k, .property .move⟩ : Rule) ∉ pondLevel.rules := by
    intro k hk
    have hsubject := RuleSet.mem_subjects.2 hk
    rw [hsubjects] at hsubject
    cases hsubject
  obtain ⟨hgrid, _, _, _, hevents⟩ :=
    resolve_transpose pondLevel hmove .right (.ofSeed 1) (.ofSeed 2)
  exact ⟨hmove, hgrid, hevents⟩

end Grid

end RuleTiles
