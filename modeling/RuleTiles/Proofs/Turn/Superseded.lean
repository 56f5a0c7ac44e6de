/-
**Rules that a turn has superseded.**

In the middle of a turn the rules are read again from the board.  Up to then the rules of the turn
before are looked up, and only for what the player moves, what walks, what is pushed and what bars
the way.  From then on they are not looked up any more: what kinds turn into, whether the player
wins and what is destroyed is a matter of the new ones.  So two sets of rules that say the same
about movement lead to the same turn, whatever else they say.  Only the report may tell of other
changes of the rules, as it compares the rules after the turn with those before it.

This is a matter of the order in which the phases look up one and the same set of rules, so the turn
is run here as a sequence of phases on a state that holds the rules in force.

Main definitions:

* `RuleTiles.Property.steers`, `RuleTiles.RuleSet.MovesAlike` — two sets of rules that say the same
  about movement;
* `RuleTiles.Midturn`, `RuleTiles.Grid.resolveInTurn` — the turn as a sequence of phases;
* `RuleTiles.Midturn.Alike` — what two turns have in common before the rules are read again;
* `RuleTiles.Turn.Agrees` — what they have in common in the end.

Main results:

* `RuleTiles.RuleSet.MovesAlike.plan`, `RuleTiles.RuleSet.MovesAlike.headings` — movement looks up
  nothing else;
* `RuleTiles.Grid.resolveInTurn_eq` — the phases come to the turn;
* `RuleTiles.Midturn.Alike.reread` — nothing is left of the rules before;
* `RuleTiles.Grid.resolve_of_movesAlike` — **rules that are superseded have no effect**.
-/

import RuleTiles.Proofs.Turn.Accounted

set_option relaxedAutoImplicit false
set_option autoImplicit false

namespace RuleTiles

/-! ### Rules about movement -/

/-- Whether movement depends on a property. -/
def Property.steers : Property → Bool
  | you | push | stop | move => true
  | _ => false

/-- Whether a rule grants a property on which movement depends. -/
def Rule.steers (r : Rule) : Bool :=
  match r.predicate with
  | .property p => p.steers
  | .becomes _ => false

/-- Something on a cell passes a test that says the same of every kind that can lie there. -/
theorem Cell.any_kinds_congr {c : Cell} {test test' : Kind → Bool}
    (h : ∀ k, k.isPlaceable = true → test k = test' k) : c.kinds.any test = c.kinds.any test' := by
  rw [Bool.eq_iff_iff, List.any_eq_true, List.any_eq_true]
  refine exists_congr fun k => and_congr_right fun hk => ?_
  rw [h k (isPlaceable_of_mem_kinds hk)]

namespace RuleSet

/-- **Two sets of rules say the same about movement**: any kind that can lie on a board is YOU,
PUSH, STOP or MOVE under both of them or under none. -/
def MovesAlike (rules rules' : RuleSet) : Prop :=
  ∀ k, k.isPlaceable = true → ∀ p : Property, p.steers = true →
    rules.grants k p = rules'.grants k p

variable {rules rules' : RuleSet}

/-- Sets of rules that hold the same rules about movement say the same about it, whatever they say
about winning, destruction and what kinds turn into. -/
theorem movesAlike_of_filter_eq (h : rules.filter Rule.steers = rules'.filter Rule.steers) :
    rules.MovesAlike rules' := by
  intro k _ p hp
  have hmem : ∀ x, (⟨x, .property p⟩ : Rule) ∈ rules ↔ (⟨x, .property p⟩ : Rule) ∈ rules' := by
    intro x
    have hfiltered : (⟨x, .property p⟩ : Rule) ∈ rules.filter Rule.steers ↔
        (⟨x, .property p⟩ : Rule) ∈ rules'.filter Rule.steers := by
      rw [h]
    simpa [Rule.steers, hp] using hfiltered
  simp only [grants, states, hmem]

namespace MovesAlike

theorem having (h : rules.MovesAlike rules') (g : Grid) {p : Property} (hp : p.steers = true) :
    g.having rules p = g.having rules' p := by
  rw [Grid.having_eq, Grid.having_eq]
  refine List.filter_congr fun o ho => ?_
  exact h o.kind (Cell.isPlaceable_of_mem_kinds (Grid.mem_objects.1 ho)) p hp

/-! ### Looking ahead -/

theorem isOpen (h : rules.MovesAlike rules') (ahead : List (Position × Cell)) :
    rules.isOpen ahead = rules'.isOpen ahead := by
  have hbars : ∀ c : Cell, c.kinds.any rules.bars = c.kinds.any rules'.bars := by
    intro c
    refine Cell.any_kinds_congr fun k hk => ?_
    rw [bars, bars, h k hk .stop rfl, h k hk .push rfl]
  have hpushable : ∀ c : Cell, rules.pushable c = rules'.pushable c :=
    fun c => Cell.any_kinds_congr fun k hk => h k hk .push rfl
  induction ahead with
  | nil => rfl
  | cons qc rest ih =>
      obtain ⟨q, c⟩ := qc
      rw [RuleSet.isOpen, RuleSet.isOpen, hbars, hpushable, ih]

theorem canStep (h : rules.MovesAlike rules') (g : Grid) (p : Position) (d : Direction) :
    g.canStep rules p d = g.canStep rules' p d :=
  h.isOpen (g.ray p d)

/-! ### Plans -/

theorem push (h : rules.MovesAlike rules') (d : Direction) (ahead : List (Position × Cell))
    (plan : Plan) : Plan.push rules d ahead plan = Plan.push rules' d ahead plan := by
  induction ahead generalizing plan with
  | nil => rfl
  | cons qc rest ih =>
      obtain ⟨q, c⟩ := qc
      have hpushed : (c.kinds.filter fun k => rules.grants k .push && !plan.contains ⟨q, k⟩) =
          c.kinds.filter fun k => rules'.grants k .push && !plan.contains ⟨q, k⟩ := by
        refine List.filter_congr fun k hk => ?_
        rw [h k (Cell.isPlaceable_of_mem_kinds hk) .push rfl]
      rw [Plan.push, Plan.push, hpushed]
      simp only [ih]

/-- **The plan of a phase looks up nothing else.** -/
theorem plan (h : rules.MovesAlike rules') (g : Grid) (steppers : List (Object × Direction)) :
    g.plan rules steppers = g.plan rules' steppers := by
  simp only [Grid.plan, h.push]

theorem moveYou (h : rules.MovesAlike rules') (g : Grid) (d : Direction) :
    g.moveYou rules d = g.moveYou rules' d := by
  have hyou : g.having rules .you = g.having rules' .you := h.having g rfl
  simp only [Grid.moveYou, Grid.planYou, hyou, h.canStep, h.plan]

/-! ### Headings -/

theorem heading (h : rules.MovesAlike rules') (g : Grid) (o : Object) (gen : Generator) :
    g.heading rules o gen = g.heading rules' o gen := by
  have hfrom : ∀ d, g.headingFrom rules o d = g.headingFrom rules' o d := by
    intro d
    simp only [Grid.headingFrom, h.canStep]
  cases hfacing : (g.cell o.pos).facing o.kind with
  | some d =>
      rw [Grid.heading_of_facing_eq_some hfacing, Grid.heading_of_facing_eq_some hfacing, hfrom]
  | none =>
      rw [Grid.heading_of_facing_eq_none hfacing, Grid.heading_of_facing_eq_none hfacing, hfrom]

/-- **The headings of the MOVE objects look up nothing else**, and draw the same facings. -/
theorem headings (h : rules.MovesAlike rules') (g : Grid) (objects : List Object)
    (gen : Generator) : g.headings rules objects gen = g.headings rules' objects gen := by
  induction objects generalizing gen with
  | nil => rfl
  | cons o rest ih => rw [Grid.headings_cons, Grid.headings_cons, h.heading, ih]

theorem moveWalkers (h : rules.MovesAlike rules') (g : Grid) (gen : Generator) :
    g.moveWalkers rules gen = g.moveWalkers rules' gen := by
  have hmove : g.having rules .move = g.having rules' .move := h.having g rfl
  simp only [Grid.moveWalkers, hmove, h.headings, h.plan]

end MovesAlike

end RuleSet

/-! ### The turn as a sequence of phases -/

/-- What there is in the middle of a turn: the board, the rules in force, the account so far and the
generator. -/
structure Midturn where
  grid : Grid
  rules : RuleSet
  events : List Event
  generator : Generator

namespace Midturn

/-- The YOU objects move. -/
def moveYou (s : Midturn) (d : Direction) : Midturn :=
  { s with
    grid := (s.grid.moveYou s.rules d).1
    events := s.events ++ (s.grid.moveYou s.rules d).2 }

/-- The MOVE objects move. -/
def moveWalkers (s : Midturn) : Midturn :=
  { s with
    grid := (s.grid.moveWalkers s.rules s.generator).1
    events := s.events ++ (s.grid.moveWalkers s.rules s.generator).2.1
    generator := (s.grid.moveWalkers s.rules s.generator).2.2 }

/-- The rules are read again from the board. -/
def reread (s : Midturn) : Midturn := { s with rules := s.grid.rules }

/-- The rules have one of their effects. -/
def undergo (s : Midturn) (effect : Grid → RuleSet → Grid × List Event) : Midturn :=
  { s with
    grid := (effect s.grid s.rules).1
    events := s.events ++ (effect s.grid s.rules).2 }

/-- The rest of a turn when the rules have been read again for the first time.  The rules before the
turn are compared with those after it. -/
def finish (s : Midturn) (before : RuleSet) (d : Direction) : Turn :=
  let s := s.undergo Grid.transform
  let won := s.grid.touchesWin s.rules
  let s := (((s.undergo Grid.destroyDefeated).undergo Grid.destroySunk).undergo
    Grid.destroyMelted).reread
  { grid := s.grid
    rules := s.rules
    report := ⟨d, s.events ++ ruleEvents before s.rules,
      .decide won (s.grid.controllable s.rules)⟩
    generator := s.generator }

end Midturn

/-- **The turn as a sequence of phases**, all of which look up the rules in force. -/
def Grid.resolveInTurn (g : Grid) (rules : RuleSet) (d : Direction) (gen : Generator) : Turn :=
  ((((Midturn.mk g rules [] gen).moveYou d).moveWalkers).reread).finish rules d

/-- **The phases come to the turn.** -/
theorem Grid.resolveInTurn_eq (g : Grid) (rules : RuleSet) (d : Direction) (gen : Generator) :
    g.resolveInTurn rules d gen = g.resolve rules d gen := by
  rw [resolve, afterMovement]
  simp only [resolveInTurn, Midturn.finish, Midturn.moveYou, Midturn.moveWalkers, Midturn.reread,
    Midturn.undergo, afterEffects_eq, destructions, List.nil_append, List.append_assoc]

/-! ### Two turns -/

namespace Midturn

/-- **What two turns have in common before the rules are read again**: all but the rules, which say
the same about movement. -/
structure Alike (s s' : Midturn) : Prop where
  grid : s.grid = s'.grid
  rules : s.rules.MovesAlike s'.rules
  events : s.events = s'.events
  generator : s.generator = s'.generator

namespace Alike

variable {s s' : Midturn}

theorem moveYou (h : s.Alike s') (d : Direction) : (s.moveYou d).Alike (s'.moveYou d) := by
  have hmoved : s.grid.moveYou s.rules d = s'.grid.moveYou s'.rules d := by
    rw [h.grid]
    exact h.rules.moveYou s'.grid d
  refine ⟨?_, h.rules, ?_, h.generator⟩
  · simp only [Midturn.moveYou, hmoved]
  · simp only [Midturn.moveYou, hmoved, h.events]

theorem moveWalkers (h : s.Alike s') : s.moveWalkers.Alike s'.moveWalkers := by
  have hmoved : s.grid.moveWalkers s.rules s.generator =
      s'.grid.moveWalkers s'.rules s'.generator := by
    rw [h.grid, h.generator]
    exact h.rules.moveWalkers s'.grid s'.generator
  refine ⟨?_, h.rules, ?_, ?_⟩
  · simp only [Midturn.moveWalkers, hmoved]
  · simp only [Midturn.moveWalkers, hmoved, h.events]
  · simp only [Midturn.moveWalkers, hmoved]

/-- **Nothing is left of the rules before** when they have been read again. -/
theorem reread (h : s.Alike s') : s.reread = s'.reread := by
  simp only [Midturn.reread, h.grid, h.events, h.generator]

end Alike

end Midturn

/-- **What two turns have in common in the end**: all but what their reports say of a change of the
rules. -/
structure Turn.Agrees (t t' : Turn) : Prop where
  grid : t.grid = t'.grid
  rules : t.rules = t'.rules
  generator : t.generator = t'.generator
  direction : t.report.direction = t'.report.direction
  playState : t.report.playState = t'.report.playState
  events : t.report.events.filter (fun e => !e.changesRules) =
    t'.report.events.filter fun e => !e.changesRules

/-- The event that the rules changed is left out. -/
theorem filter_ruleEvents (before after : RuleSet) :
    (ruleEvents before after).filter (fun e => !e.changesRules) = [] := by
  unfold ruleEvents
  split
  · rfl
  · rfl

/-- The rest of a turn looks up the rules before the turn for their change only. -/
theorem Midturn.agrees_finish (s : Midturn) (before before' : RuleSet) (d : Direction) :
    (s.finish before d).Agrees (s.finish before' d) where
  grid := rfl
  rules := rfl
  generator := rfl
  direction := rfl
  playState := rfl
  events := by
    simp only [finish, List.filter_append, filter_ruleEvents]

namespace Grid

/-- **Rules that are superseded have no effect.**  Two sets of rules under which the same kinds are
YOU, PUSH, STOP and MOVE lead from one board to the same turn, whatever else they hold: to the same
board, the same rules, the same state of play and the same generator, and to the same account but
for the change of the rules.  The turn runs as a sequence of phases that all look up the rules in
force at their time. -/
theorem resolve_of_movesAlike {rules rules' : RuleSet} (h : rules.MovesAlike rules') (g : Grid)
    (d : Direction) (gen : Generator) :
    (g.resolve rules d gen).Agrees (g.resolve rules' d gen) ∧
      g.resolveInTurn rules d gen = g.resolve rules d gen ∧
      g.resolveInTurn rules' d gen = g.resolve rules' d gen := by
  have hstart : (Midturn.mk g rules [] gen).Alike (Midturn.mk g rules' [] gen) := ⟨rfl, h, rfl, rfl⟩
  have hsame := (hstart.moveYou d).moveWalkers.reread
  refine ⟨?_, g.resolveInTurn_eq rules d gen, g.resolveInTurn_eq rules' d gen⟩
  rw [← resolveInTurn_eq, ← resolveInTurn_eq, resolveInTurn, resolveInTurn, hsame]
  exact Midturn.agrees_finish _ rules rules' d

/-- The level
```
BABA IS YOU
FLAG IS .
.    .  WIN, flag
.    .  baba
```
on which a move up spells the rule under which it wins. -/
def freshFlag : Grid :=
  .ofFitting 3 4
    #[.ofKinds [.word .baba], .ofKinds [.is], .ofKinds [.property .you],
      .ofKinds [.word .flag], .ofKinds [.is], .empty,
      .empty, .empty, .ofKinds [.icon .flag, .property .win],
      .empty, .empty, .ofKinds [.icon .baba]]
    (by decide)

/-- The rules of that level, and others that are not spelled there. -/
def staleRules : RuleSet :=
  .ofList [⟨.icon .baba, .property .you⟩, ⟨.icon .baba, .property .defeat⟩,
    ⟨.icon .text, .property .sink⟩, ⟨.icon .baba, .becomes (.icon .rock)⟩]

/-- Rules that would destroy the player and turn it into a rock do not keep it from winning. -/
theorem resolve_of_movesAlike_freshFlag :
    freshFlag.rules.MovesAlike staleRules ∧
      (freshFlag.resolve freshFlag.rules .up (.ofSeed 1)).Agrees
        (freshFlag.resolve staleRules .up (.ofSeed 1)) ∧
      (freshFlag.resolve staleRules .up (.ofSeed 1)).report.playState = .won := by
  have halike : freshFlag.rules.MovesAlike staleRules :=
    RuleSet.movesAlike_of_filter_eq (by decide +kernel)
  have hagrees := (resolve_of_movesAlike halike freshFlag .up (.ofSeed 1)).1
  have hwon : (freshFlag.resolve staleRules .up (.ofSeed 1)).report.playState = .won := by
    decide +kernel
  exact ⟨halike, hagrees, hwon⟩

end Grid

end RuleTiles
