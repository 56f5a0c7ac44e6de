/-
**Sessions under checks.**

A session is held here on a machine that stops when something goes wrong.  One thing alone can: the
turns are counted in a word of 64 bits, and a snapshot may come with any count.  A session of any
game comes to what it should as long as its turns can be counted, and is stopped for no other reason
than that they no longer can.

Main definitions:

* `RuleTiles.Checked.move`, `RuleTiles.Checked.play`, `RuleTiles.Checked.reset` — the commands;
* `RuleTiles.Checked.session` — the session.

Main results:

* `RuleTiles.Checked.session_eq` — a session on the machine is the session, up to the reason for
  which it is stopped;
* `RuleTiles.Checked.session_of_load` — **a session of a loaded game is stopped just when its turns
  cannot be counted**;
* `RuleTiles.Checked.not_session_spentGame` — a loaded game that no move can be made in.
-/

import RuleTiles.Proofs.Checked.Turn
import RuleTiles.Proofs.Session.Account

set_option relaxedAutoImplicit false
set_option autoImplicit false

namespace RuleTiles

namespace Checked

/-! ### Commands -/

/-- One more turn. -/
def count (turns : UInt64) : Except Halt UInt64 :=
  if turns.toNat + 1 < 2 ^ 64 then pure (turns + 1) else .error .uncounted

/-- One move. -/
def move (g : Game) (d : Direction) : Except Halt (Game × Report) :=
  if g.isFinished then pure (g, .rejected d g.playState)
  else do
    let turns ← count g.turnNumber
    let turn ← resolve g.grid g.rules d (.ofSeed g.randomState)
    let after := turn.report.playState
    let ending := if after = g.playState then [] else [Event.stateChanged g.playState after]
    return ({ g with
        grid := turn.grid
        rules := turn.rules
        playState := after
        playerIcon := turn.rules.playerIcon?
        turnNumber := turns
        randomState := turn.generator.next64.1 },
      { turn.report with events := turn.report.events ++ ending })

/-- A move in a direction that may not have been understood. -/
def moveIn (g : Game) : Option Direction → Except Halt Game
  | none => return g
  | some d => do
    let (after, _) ← move g d
    return after

/-- Moves one after another, up to the end of the play. -/
def play (g : Game) : List Direction → Except Halt Game
  | [] => return g
  | d :: rest =>
    if g.isFinished then pure g
    else do
      let (after, _) ← move g d
      play after rest

/-- The game started over. -/
def reset (g : Game) : Except Halt Game := do
  let rules ← rules g.initialGrid
  return { g with
    grid := g.initialGrid
    rules := rules
    playState := .playing
    playerIcon := rules.playerIcon?
    turnNumber := 0
    randomState := g.seed }

/-- The game after a command.  A text that is not accepted leaves it as it was. -/
def obey (g : Game) : Command → Except Halt Game
  | .move d => moveIn g (some d)
  | .text name => moveIn g (Direction.parse? name)
  | .code n => moveIn g (Direction.ofCode? n)
  | .play moves => play g moves
  | .reset => reset g
  | .reload => return (Game.load g.save).toOption.getD g

/-- **A session** on a machine that may stop. -/
def session (g : Game) (commands : List Command) : Except Halt Game := commands.foldlM obey g

/-! ### Commands that are not stopped -/

/-- What a result is on the machine: where there is none, the turns could not be counted. -/
def onMachine {ε α : Type} : Except ε α → Except Halt α
  | .ok x => .ok x
  | .error _ => .error .uncounted

theorem move_eq (g : Game) (d : Direction) : move g d = onMachine (g.move d) := by
  rw [move, Game.move]
  split
  · rfl
  · rw [count]
    by_cases hmax : g.turnNumber = Game.maxTurns
    · have hnumber : ¬g.turnNumber.toNat + 1 < 2 ^ 64 :=
        fun hn => Game.ne_maxTurns_iff.2 hn hmax
      rw [if_neg hnumber, if_pos hmax]
      rfl
    · have hnumber := Game.ne_maxTurns_iff.1 hmax
      rw [if_pos hnumber, if_neg hmax, pure_bind, resolve_eq, pure_bind, Game.advance]
      generalize g.grid.resolve g.rules d (.ofSeed g.randomState) = turn
      rfl

theorem play_eq (g : Game) (moves : List Direction) :
    play g moves = onMachine (Game.counted (g.play moves)) := by
  induction moves generalizing g with
  | nil => rfl
  | cons d rest ih =>
      rw [play, Game.play]
      split
      · rfl
      · rw [move_eq]
        cases g.move d with
        | error fault => rfl
        | ok result =>
            obtain ⟨after, report⟩ := result
            change play after rest = _
            rw [ih]
            cases hplay : after.play rest with
            | error fault => simp [hplay, bind, Except.bind]
            | ok result => simp [hplay, bind, Except.bind, pure, Except.pure, Game.counted]

theorem moveIn_eq (g : Game) (d : Option Direction) :
    moveIn g d = onMachine (Game.counted (g.play d.toList)) := by
  cases d with
  | none => rfl
  | some d =>
      rw [moveIn, move_eq, Option.toList_some, ← Game.counted_move]
      cases g.move d with
      | error fault => rfl
      | ok result => rfl

theorem reset_eq (g : Game) : reset g = pure g.reset := by
  rw [reset, rules_eq, pure_bind]
  rfl

/-- **What a command does on the machine**: it does what it should, or the turns cannot be
counted. -/
theorem obey_eq {g : Game} (hsize : g.keepsSize = true) (c : Command) :
    obey g c = onMachine (g.obey c) := by
  cases c with
  | move d =>
      rw [Game.obey_eq_play g (by simp) (by simp)]
      exact moveIn_eq g (some d)
  | text name =>
      rw [Game.obey_eq_play g (by simp) (by simp)]
      exact moveIn_eq g _
  | code n =>
      rw [Game.obey_eq_play g (by simp) (by simp)]
      exact moveIn_eq g _
  | play moves => exact play_eq g moves
  | reset => exact reset_eq g
  | reload =>
      rw [obey, Game.obey, Game.load_save hsize]
      rfl

/-- **A session on the machine** comes to what it should, or the turns cannot be counted. -/
theorem session_eq {g : Game} (hsize : g.keepsSize = true) (commands : List Command) :
    session g commands = onMachine (g.session commands) := by
  induction commands generalizing g with
  | nil => rfl
  | cons c rest ih =>
      rw [session, List.foldlM_cons, obey_eq hsize, Game.session_cons]
      cases hobey : g.obey c with
      | error e => rfl
      | ok after => exact ih (Game.keepsSize_of_obey hsize hobey)

/-! ### Loaded games -/

/-- **A session of a loaded game is stopped just when its turns cannot be counted.**  No number but
that of the turns leaves its range, nothing is divided by zero, every cell that is read is there,
and so is every object that is lifted. -/
theorem session_of_load {text : String} {g : Game} (h : Game.load text = .ok g)
    (commands : List Command) :
    ((Account.begun g).Countable commands →
      ∃ after, session g commands = .ok after ∧ g.session commands = .ok after) ∧
    (¬(Account.begun g).Countable commands → session g commands = .error .uncounted) := by
  have hsize := Game.keepsSize_of_load h
  rw [session_eq hsize]
  constructor
  · intro hcountable
    have hsession := Game.session_of_countable hsize hcountable
    exact ⟨_, by rw [hsession]; rfl, hsession⟩
  · intro hcountable
    rw [Game.session_of_not_countable hsize hcountable]
    rfl

/-- One turn of the tangled snapshot can be counted. -/
theorem session_of_load_tangled :
    ∃ after, session Game.tangledGame [.text "sideways", .move .right] = .ok after := by
  have hcountable : (Account.begun Game.tangledGame).Countable
      [.text "sideways", .move .right] := by
    rw [Account.countable_cons, Account.countable_cons, Account.countable_nil]
    decide +kernel
  obtain ⟨after, hafter, _⟩ := (session_of_load Game.load_tangled _).1 hcountable
  exact ⟨after, hafter⟩

/-- The game of the tangled snapshot, after as many turns as can be counted. -/
def spentGame : Game := { Game.tangledGame with turnNumber := Game.maxTurns }

/-- The text of that game is accepted, but the first move made in it is stopped. -/
theorem not_session_spentGame :
    ¬∀ (text : String) (g : Game), Game.load text = .ok g →
      ∀ commands, ∃ after, session g commands = .ok after := by
  intro h
  have hload : Game.load spentGame.save = .ok spentGame := Game.load_save (by decide)
  have hstopped : session spentGame [.move .right] = .error .uncounted := by
    rw [session_eq (by decide)]
    rfl
  obtain ⟨after, hafter⟩ := h spentGame.save spentGame hload [.move .right]
  rw [hstopped] at hafter
  cases hafter

end Checked

end RuleTiles
