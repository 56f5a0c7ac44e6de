/-
**When YOU meets WIN.**

A win is looked for in the middle of a turn, under the rules read off the board when everything has
moved and after kinds have turned into others.  The rules in force after the turn are read later.
They can differ from those of the win test: an object may turn into the word for its own kind and
so spell a new rule.  This is the only way in which a YOU object can lie on a WIN object after a
move without the play being won.

Main definitions:

* `RuleTiles.Game.moved` — the board of a turn when everything has moved;
* `RuleTiles.Game.SpelledLate` — a rule that was first spelled by the effects of a turn;
* `RuleTiles.Game.lateFlag` — a level on which that happens.

Main results:

* `RuleTiles.Game.grants_moved_or_spelledLate` — **a property in force after a move was in force at
  the win test, or its rule was spelled late**;
* `RuleTiles.Game.won_or_spelledLate_of_meets` — **YOU on WIN is a win, unless one of the two rules
  was spelled late**;
* `RuleTiles.Game.not_won_of_meets_lateFlag` — a level on which YOU on WIN is no win.
-/

import RuleTiles.Proofs.Play.Run
import RuleTiles.Proofs.Turn.Words

set_option relaxedAutoImplicit false
set_option autoImplicit false

namespace RuleTiles

/-! ### The test for a win -/

namespace Grid

/-- A win is seen when a YOU object and a WIN object, maybe one and the same, lie on one cell. -/
theorem touchesWin_of_mem {g : Grid} {rules : RuleSet} {p : Position} {you win : Kind}
    (hyou : you ∈ (g.cell p).kinds) (hwin : win ∈ (g.cell p).kinds)
    (gyou : rules.grants you .you = true) (gwin : rules.grants win .win = true) :
    g.touchesWin rules = true := by
  have hmem : (⟨p, you⟩ : Object) ∈ g.meeting rules .you .win := by
    refine mem_meeting.2 ⟨mem_having.2 ⟨mem_objects.2 hyou, gyou⟩, ?_⟩
    exact holds_eq_true.2 ⟨win, hwin, gwin⟩
  unfold touchesWin
  cases hm : g.meeting rules .you .win with
  | nil => rw [hm] at hmem; cases hmem
  | cons o rest => rfl

/-- The win test of a turn is made after the transformation, under the rules read after
movement. -/
theorem won_settled (g : Grid) (rules : RuleSet) (d : Direction) (gen : Generator) :
    (g.settled rules d gen).2.2 =
      ((g.afterMovement rules d gen).1.transform (g.afterMovement rules d gen).1.rules).1.touchesWin
        (g.afterMovement rules d gen).1.rules := by
  unfold settled
  generalize (g.afterMovement rules d gen).1 = moved
  rfl

end Grid

namespace Game

/-- The board of a turn when everything has moved; the rules are read off it before they have their
effect. -/
def moved (g : Game) (d : Direction) : Grid :=
  (g.grid.afterMovement g.rules d (.ofSeed g.randomState)).1

/-- The board after an accepted move. -/
theorem grid_of_move {g after : Game} {d : Direction} {report : Report}
    (hg : g.playState = .playing) (h : g.move d = .ok (after, report)) :
    after.grid = ((g.moved d).afterEffects (g.moved d).rules).1 := by
  obtain ⟨_, rfl, _⟩ := eq_advance_of_move hg h
  rw [grid_advance]
  exact Grid.grid_resolve g.grid g.rules d (.ofSeed g.randomState)

/-- The effects of a turn are told in the report of the move. -/
theorem mem_events_advance {g : Game} {d : Direction} {e : Event}
    (h : e ∈ ((g.moved d).afterEffects (g.moved d).rules).2.1) : e ∈ (g.advance d).2.events := by
  have hturn : e ∈ (g.turn d).report.events := by
    unfold turn
    rw [Grid.report_resolve]
    exact List.mem_append_left _ (List.mem_append_right _ h)
  exact List.mem_append_left _ hturn

/-- The play is won by a turn in which a win is seen. -/
theorem playState_turn_of_touchesWin {g : Game} {d : Direction}
    (h : ((g.moved d).transform (g.moved d).rules).1.touchesWin (g.moved d).rules = true) :
    (g.turn d).report.playState = .won := by
  have hwon : (g.grid.settled g.rules d (.ofSeed g.randomState)).2.2 = true :=
    (Grid.won_settled g.grid g.rules d (.ofSeed g.randomState)).trans h
  unfold turn
  rw [Grid.report_resolve, hwon]
  rfl

/-! ### Rules that are spelled late -/

/-- In a turn the rule that grants a property to a kind was spelled by the effects only: it was not
there when everything had moved, and the naming word of the sentence is an object of the kind that
turned into the word for itself. -/
def SpelledLate (g after : Game) (d : Direction) (report : Report) (k : Kind) (q : Property) :
    Prop :=
  ∃ n, k = .icon n ∧ (⟨k, .property q⟩ : Rule) ∉ (g.moved d).rules ∧
    ∃ p, ∃ dir ∈ Grid.readingDirections,
      Event.transformed (p.step dir.reverse) k (.word n) ∈ report.events ∧
        Kind.is ∈ (after.grid.cell p).kinds ∧
          Kind.property q ∈ (after.grid.cell (p.step dir)).kinds

/-- **A property in force after a move was in force at the win test, or its rule was spelled
late.** -/
theorem grants_moved_or_spelledLate {g after : Game} {d : Direction} {report : Report} {k : Kind}
    {q : Property} (hg : g.playState = .playing) (hmove : g.move d = .ok (after, report))
    (hq : q ≠ .push) (h : after.rules.grants k q = true) :
    (g.moved d).rules.grants k q = true ∨ g.SpelledLate after d report k q := by
  obtain ⟨_, _, hreport⟩ := eq_advance_of_move hg hmove
  -- the rule is spelled by three words of the board after the move
  have hr := (RuleSet.grants_iff_mem hq).1 h
  rw [rules_of_move hg hmove] at hr
  obtain ⟨n, hn, _⟩ := Grid.mem_rules_shape hr
  dsimp only at hn
  rw [hn] at hr
  obtain ⟨p, dir, hdir, hname, his, hproperty⟩ := Grid.property_mem_rules.1 hr
  have his' := his
  have hproperty' := hproperty
  rw [grid_of_move hg hmove] at hname his' hproperty'
  -- the linking word and the property word are never made in a turn
  have his_moved : Kind.is ∈ ((g.moved d).cell p).kinds := by
    rcases Grid.word_origin rfl his' with h | ⟨m, _, hm, _⟩
    · exact h
    · cases hm
  have hproperty_moved : Kind.property q ∈ ((g.moved d).cell (p.step dir)).kinds := by
    rcases Grid.word_origin rfl hproperty' with h | ⟨m, _, hm, _⟩
    · exact h
    · cases hm
  by_cases hmoved : (⟨k.ruleSubject, .property q⟩ : Rule) ∈ (g.moved d).rules
  · exact .inl ((RuleSet.grants_iff_mem hq).2 hmoved)
  · -- so the naming word was made, and it is not the word for `text`
    rcases Grid.word_origin rfl hname with hname | ⟨m, hm, hword, hevent⟩
    · refine absurd ?_ hmoved
      rw [hn]
      exact Grid.property_mem_rules.2 ⟨p, dir, hdir, hname, his_moved, hproperty_moved⟩
    · cases hword
      have hk : k = .icon n := by
        unfold Kind.ruleSubject at hn
        split at hn
        · cases hn
          exact absurd rfl hm
        · exact hn
      subst hk
      refine .inr ⟨n, rfl, hmoved, p, dir, hdir, ?_, his, hproperty⟩
      rw [hreport]
      exact mem_events_advance hevent

/-- **YOU on WIN is a win, unless one of the two rules was spelled late.** -/
theorem won_or_spelledLate_of_meets {g after : Game} {d : Direction} {report : Report}
    {p : Position} {you win : Kind} (hg : g.playState = .playing)
    (hmove : g.move d = .ok (after, report)) (hyou : you ∈ (after.grid.cell p).kinds)
    (hwin : win ∈ (after.grid.cell p).kinds) (gyou : after.rules.grants you .you = true)
    (gwin : after.rules.grants win .win = true) :
    after.playState = .won ∨ g.SpelledLate after d report you .you ∨
      g.SpelledLate after d report win .win := by
  obtain ⟨_, hafter, _⟩ := eq_advance_of_move hg hmove
  rcases grants_moved_or_spelledLate hg hmove (by decide) gyou with gyou | hlate
  · rcases grants_moved_or_spelledLate hg hmove (by decide) gwin with gwin | hlate
    · -- both rules were in force at the test, and the two objects lay there
      left
      rw [grid_of_move hg hmove] at hyou hwin
      rw [hafter, playState_advance]
      exact playState_turn_of_touchesWin (Grid.touchesWin_of_mem
        (Grid.mem_kinds_afterEffects hyou) (Grid.mem_kinds_afterEffects hwin) gyou gwin)
    · exact .inr (.inr hlate)
  · exact .inr (.inl hlate)

/-! ### A rule that is spelled late -/

/-- The level
```
BABA IS YOU
ROCK IS word flag
word flag IS TEXT
flag IS WIN
baba rock .
```
in which `baba` steps onto `rock`, which turns into a flag below it, while the flag of the fourth
row turns into the word that FLAG IS WIN lacks. -/
def lateFlag : Grid :=
  .ofFitting 3 5
    #[.ofKinds [.word .baba], .ofKinds [.is], .ofKinds [.property .you],
      .ofKinds [.word .rock], .ofKinds [.is], .ofKinds [.word .flag],
      .ofKinds [.word .flag], .ofKinds [.is], .ofKinds [.word .text],
      .ofKinds [.icon .flag], .ofKinds [.is], .ofKinds [.property .win],
      .ofKinds [.icon .baba], .ofKinds [.icon .rock], .empty]
    (by decide)

theorem move_lateFlag :
    (start lateFlag 0).move .right = .ok ((start lateFlag 0).advance .right) :=
  move_eq_advance .right rfl (by decide)

/-- **YOU on WIN is not always a win.** -/
theorem not_won_of_meets_lateFlag :
    ¬ ∀ (g after : Game) (d : Direction) (report : Report) (p : Position) (you win : Kind),
        g.playState = .playing → g.rules = g.grid.rules → g.move d = .ok (after, report) →
          you ∈ (after.grid.cell p).kinds → win ∈ (after.grid.cell p).kinds →
            after.rules.grants you .you = true → after.rules.grants win .win = true →
              after.playState = .won := by
  intro h
  have hplaying : ((start lateFlag 0).advance .right).1.playState ≠ .won := by decide +kernel
  refine hplaying (h (start lateFlag 0) ((start lateFlag 0).advance .right).1 .right
    ((start lateFlag 0).advance .right).2 (.clamp 4 1) (.icon .baba) (.icon .flag) rfl rfl
    move_lateFlag ?_ ?_ ?_ ?_)
  all_goals decide +kernel

/-- On that level the rule FLAG IS WIN is spelled late. -/
theorem spelledLate_lateFlag :
    (start lateFlag 0).SpelledLate ((start lateFlag 0).advance .right).1 .right
      ((start lateFlag 0).advance .right).2 (.icon .flag) .win := by
  have hplaying : ((start lateFlag 0).advance .right).1.playState ≠ .won := by decide +kernel
  have hyou : (⟨.icon .baba, .property .you⟩ : Rule) ∈ ((start lateFlag 0).moved .right).rules := by
    decide +kernel
  have hbaba : Kind.icon .baba ∈
      (((start lateFlag 0).advance .right).1.grid.cell (.clamp 4 1)).kinds := by decide +kernel
  have hflag : Kind.icon .flag ∈
      (((start lateFlag 0).advance .right).1.grid.cell (.clamp 4 1)).kinds := by decide +kernel
  rcases won_or_spelledLate_of_meets rfl move_lateFlag hbaba hflag (by decide +kernel)
    (by decide +kernel) with h | ⟨_, _, h, _⟩ | h
  · exact absurd h hplaying
  · exact absurd hyou h
  · exact h

end Game

end RuleTiles
