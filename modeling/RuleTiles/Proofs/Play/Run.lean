/-
**Runs of accepted moves.**

A move is accepted while the play goes on.  A list of moves *leads* from one game to another when
each of its moves is accepted in turn; the play of a list of moves takes the longest part of it,
from the front, that leads anywhere.  This module relates the two and collects what holds along a
run.

Main definitions:

* `RuleTiles.Game.turn` — the turn that an accepted move is;
* `RuleTiles.Game.Leads` — a list of moves leads from one game to another.

Main results:

* `RuleTiles.Game.move_cases` — **what a move can do**;
* `RuleTiles.Game.Leads.play_eq_ok`, `RuleTiles.Game.leads_of_play` — playing moves is being led by
  them, up to the end of the play;
* `RuleTiles.Game.Leads.turnNumber` — each move of a run is one turn;
* `RuleTiles.Game.Leads.rules_eq` — **the rules follow from the board** along a run.
-/

import Mathlib.Algebra.GroupWithZero.Nat
import RuleTiles.Game

set_option relaxedAutoImplicit false
set_option autoImplicit false

namespace RuleTiles.Game

/-! ### One move -/

/-- The turn that a move is when it is accepted. -/
def turn (g : Game) (d : Direction) : Turn :=
  g.grid.resolve g.rules d (.ofSeed g.randomState)

@[simp] theorem grid_advance (g : Game) (d : Direction) :
    (g.advance d).1.grid = (g.turn d).grid := by
  simp only [advance, turn]

@[simp] theorem rules_advance (g : Game) (d : Direction) :
    (g.advance d).1.rules = (g.turn d).rules := by
  simp only [advance, turn]

@[simp] theorem playState_advance (g : Game) (d : Direction) :
    (g.advance d).1.playState = (g.turn d).report.playState := by
  simp only [advance, turn]

@[simp] theorem playerIcon_advance (g : Game) (d : Direction) :
    (g.advance d).1.playerIcon = (g.turn d).rules.playerIcon? := by
  simp only [advance, turn]

@[simp] theorem turnNumber_advance (g : Game) (d : Direction) :
    (g.advance d).1.turnNumber = g.turnNumber + 1 := by
  simp only [advance]

theorem report_advance (g : Game) (d : Direction) :
    (g.advance d).2 =
      { (g.turn d).report with
        events := (g.turn d).report.events ++
          if (g.turn d).report.playState = g.playState then []
          else [Event.stateChanged g.playState (g.turn d).report.playState] } := by
  unfold advance turn
  generalize g.grid.resolve g.rules d (.ofSeed g.randomState) = turn
  rfl

theorem isFinished_eq_false_iff {g : Game} : g.isFinished = false ↔ g.playState = .playing :=
  PlayState.isFinished_eq_false_iff

/-- **What a move can do**: it is refused and changes nothing, or it is one turn. -/
theorem move_cases {g after : Game} {d : Direction} {report : Report}
    (h : g.move d = .ok (after, report)) :
    (g.isFinished = true ∧ after = g ∧ report = .rejected d g.playState) ∨
      (g.playState = .playing ∧ g.turnNumber ≠ maxTurns ∧ after = (g.advance d).1 ∧
        report = (g.advance d).2) := by
  unfold move at h
  split at h
  · rename_i hf
    cases h
    exact .inl ⟨hf, rfl, rfl⟩
  · rename_i hf
    rw [Bool.not_eq_true] at hf
    split at h
    · cases h
    · rename_i hn
      have hadvance : g.advance d = (after, report) := Except.ok.inj h
      refine .inr ⟨isFinished_eq_false_iff.1 hf, hn, ?_, ?_⟩
      · rw [hadvance]
      · rw [hadvance]

/-- An accepted move is one turn. -/
theorem eq_advance_of_move {g after : Game} {d : Direction} {report : Report}
    (hg : g.playState = .playing) (h : g.move d = .ok (after, report)) :
    g.turnNumber ≠ maxTurns ∧ after = (g.advance d).1 ∧ report = (g.advance d).2 := by
  rcases move_cases h with ⟨hf, _⟩ | ⟨_, haccepted⟩
  · rw [isFinished_eq_false_iff.2 hg] at hf
    cases hf
  · exact haccepted

/-- After an accepted move the rules in force are those read off the board. -/
theorem rules_of_move {g after : Game} {d : Direction} {report : Report}
    (hg : g.playState = .playing) (h : g.move d = .ok (after, report)) :
    after.rules = after.grid.rules := by
  obtain ⟨_, rfl, _⟩ := eq_advance_of_move hg h
  rw [rules_advance, grid_advance, turn, Grid.rules_resolve]

/-- One more turn can be counted unless the counter is at its end. -/
theorem ne_maxTurns_iff {n : UInt64} : n ≠ maxTurns ↔ n.toNat + 1 < 2 ^ 64 := by
  have hmax : maxTurns.toNat = 18446744073709551615 := rfl
  have hbound := n.toNat_lt
  rw [Ne, ← UInt64.toNat_inj, hmax]
  omega

/-- A move is accepted while the turns can be counted. -/
theorem move_eq_advance {g : Game} (d : Direction) (hg : g.playState = .playing)
    (hn : g.turnNumber.toNat + 1 < 2 ^ 64) : g.move d = .ok (g.advance d) := by
  have hf : g.isFinished = false := isFinished_eq_false_iff.2 hg
  have hmax := ne_maxTurns_iff.2 hn
  simp [move, hf, hmax]

/-- An accepted move counts as one turn. -/
theorem turnNumber_of_move {g after : Game} {d : Direction} {report : Report}
    (hg : g.playState = .playing) (h : g.move d = .ok (after, report)) :
    after.turnNumber.toNat = g.turnNumber.toNat + 1 := by
  obtain ⟨hn, hafter, _⟩ := eq_advance_of_move hg h
  have hlt := ne_maxTurns_iff.1 hn
  rw [hafter, turnNumber_advance, UInt64.toNat_add]
  simp only [UInt64.toNat_one]
  omega

/-- An ended play goes no further. -/
theorem play_of_isFinished {g : Game} (hg : g.isFinished = true) (moves : List Direction) :
    g.play moves = .ok (g, []) := by
  cases moves with
  | nil => rfl
  | cons d moves => simp [play, hg]

/-- Playing a list of moves begins with the first of them. -/
theorem play_cons {g mid h : Game} {d : Direction} {moves : List Direction} {report : Report}
    {reports : List Report} (hg : g.playState = .playing) (hmove : g.move d = .ok (mid, report))
    (hplay : mid.play moves = .ok (h, reports)) :
    g.play (d :: moves) = .ok (h, report :: reports) := by
  have hf : g.isFinished = false := isFinished_eq_false_iff.2 hg
  simp [play, hf, hmove, hplay, bind, Except.bind, pure, Except.pure]

/-- Playing a single move. -/
theorem play_singleton {g : Game} (d : Direction) (hg : g.playState = .playing)
    (hn : g.turnNumber.toNat + 1 < 2 ^ 64) :
    g.play [d] = .ok ((g.advance d).1, [(g.advance d).2]) :=
  play_cons hg (move_eq_advance d hg hn) rfl

/-- Playing two moves, the first of which does not end the play. -/
theorem play_pair {g : Game} (d d' : Direction) (hg : g.playState = .playing)
    (hmid : (g.advance d).1.playState = .playing) (hn : g.turnNumber.toNat + 2 < 2 ^ 64) :
    g.play [d, d'] =
      .ok (((g.advance d).1.advance d').1, [(g.advance d).2, ((g.advance d).1.advance d').2]) := by
  have hmove := move_eq_advance d hg (by omega)
  have hcount := turnNumber_of_move hg hmove
  exact play_cons hg hmove (play_singleton d' hmid (by omega))

/-- A list of moves that is played begins with a move that is accepted. -/
theorem move_of_play_cons {g h : Game} {d : Direction} {moves : List Direction}
    {reports : List Report} (hg : g.playState = .playing)
    (hplay : g.play (d :: moves) = .ok (h, reports)) :
    ∃ mid report later, g.move d = .ok (mid, report) ∧ mid.play moves = .ok (h, later) ∧
      reports = report :: later := by
  have hf : g.isFinished = false := isFinished_eq_false_iff.2 hg
  cases hmove : g.move d with
  | error fault => simp [play, hf, hmove, bind, Except.bind] at hplay
  | ok result =>
      obtain ⟨mid, report⟩ := result
      cases hrest : mid.play moves with
      | error fault => simp [play, hf, hmove, hrest, bind, Except.bind] at hplay
      | ok result =>
          obtain ⟨last, later⟩ := result
          rw [play_cons hg hmove hrest] at hplay
          cases hplay
          exact ⟨mid, report, later, rfl, hrest, rfl⟩

/-! ### Runs -/

/-- A list of moves, accepted one after another, leads from one game to another. -/
inductive Leads : Game → List Direction → Game → Prop
  | nil (g : Game) : Leads g [] g
  | cons {g mid h : Game} {d : Direction} {moves : List Direction} {report : Report}
      (hg : g.playState = .playing) (hmove : g.move d = .ok (mid, report))
      (hrest : Leads mid moves h) : Leads g (d :: moves) h

namespace Leads

variable {g mid h : Game} {first second moves : List Direction} {d : Direction}

theorem append (h₁ : Leads g first mid) (h₂ : Leads mid second h) :
    Leads g (first ++ second) h := by
  induction h₁ with
  | nil g => exact h₂
  | cons hg hmove _ ih => exact cons hg hmove (ih h₂)

/-- A run can be cut anywhere. -/
theorem split (hrun : Leads g (first ++ second) h) :
    ∃ mid, Leads g first mid ∧ Leads mid second h := by
  induction first generalizing g with
  | nil => exact ⟨g, nil g, hrun⟩
  | cons d first ih =>
      rw [List.cons_append] at hrun
      cases hrun with
      | cons hg hmove hrest =>
          obtain ⟨mid, h₁, h₂⟩ := ih hrest
          exact ⟨mid, cons hg hmove h₁, h₂⟩

/-- One more accepted move. -/
theorem snoc {report : Report} (hrun : Leads g moves mid) (hmid : mid.playState = .playing)
    (hmove : mid.move d = .ok (h, report)) : Leads g (moves ++ [d]) h :=
  hrun.append (cons hmid hmove (nil h))

/-- Each move of a run is one turn. -/
theorem turnNumber (hrun : Leads g moves h) :
    h.turnNumber.toNat = g.turnNumber.toNat + moves.length := by
  induction hrun with
  | nil g => rfl
  | cons hg hmove _ ih =>
      rw [ih, turnNumber_of_move hg hmove, List.length_cons]
      omega

/-- **The rules follow from the board** along a run. -/
theorem rules_eq (hrun : Leads g moves h) (hrules : g.rules = g.grid.rules) :
    h.rules = h.grid.rules := by
  induction hrun with
  | nil g => exact hrules
  | cons hg hmove _ ih => exact ih (rules_of_move hg hmove)

/-- Playing the moves of a run goes through all of them. -/
theorem play_eq_ok (hrun : Leads g moves h) :
    ∃ reports, g.play moves = .ok (h, reports) ∧ reports.length = moves.length := by
  induction hrun with
  | nil g => exact ⟨[], rfl, rfl⟩
  | cons hg hmove _ ih =>
      obtain ⟨reports, hplay, hlength⟩ := ih
      refine ⟨_ :: reports, play_cons hg hmove hplay, ?_⟩
      rw [List.length_cons, List.length_cons, hlength]

/-- Every proper front part of a run leaves a game that is still played. -/
theorem playing_of_append (hrun : Leads g (first ++ second) h) (hsecond : second ≠ []) :
    ∃ mid reports, g.play first = .ok (mid, reports) ∧ mid.playState = .playing := by
  obtain ⟨mid, hfirst, hrest⟩ := hrun.split
  obtain ⟨reports, hplay, _⟩ := hfirst.play_eq_ok
  refine ⟨mid, reports, hplay, ?_⟩
  cases hrest with
  | nil => exact absurd rfl hsecond
  | cons hmid _ _ => exact hmid

end Leads

/-! ### Playing a list of moves -/

/-- The play of a list of moves is a run of its front part, and stops short of the whole only when
the play has ended. -/
theorem leads_of_play {g h : Game} {moves : List Direction} {reports : List Report}
    (hplay : g.play moves = .ok (h, reports)) :
    ∃ taken rest, moves = taken ++ rest ∧ Leads g taken h ∧ reports.length = taken.length ∧
      (rest = [] ∨ h.isFinished = true) := by
  induction moves generalizing g reports with
  | nil =>
      cases hplay
      exact ⟨[], [], rfl, .nil _, rfl, .inl rfl⟩
  | cons d moves ih =>
      cases hf : g.isFinished with
      | true =>
          rw [play_of_isFinished hf] at hplay
          cases hplay
          exact ⟨[], d :: moves, rfl, .nil _, rfl, .inr hf⟩
      | false =>
          have hg := isFinished_eq_false_iff.1 hf
          obtain ⟨mid, report, later, hmove, hrest, rfl⟩ := move_of_play_cons hg hplay
          obtain ⟨taken, rest, rfl, hrun, hlength, hend⟩ := ih hrest
          refine ⟨d :: taken, rest, rfl, .cons hg hmove hrun, ?_, hend⟩
          rw [List.length_cons, List.length_cons, hlength]

/-- Playing moves comes to an end while the turns can be counted. -/
theorem play_eq_ok (g : Game) (moves : List Direction)
    (hn : g.turnNumber.toNat + moves.length < 2 ^ 64) :
    ∃ h reports, g.play moves = .ok (h, reports) := by
  induction moves generalizing g with
  | nil => exact ⟨g, [], rfl⟩
  | cons d moves ih =>
      rw [List.length_cons] at hn
      cases hf : g.isFinished with
      | true => exact ⟨g, [], play_of_isFinished hf _⟩
      | false =>
          have hg := isFinished_eq_false_iff.1 hf
          cases hmove : g.advance d with
          | mk mid report =>
              have hmove : g.move d = .ok (mid, report) := by
                rw [← hmove]
                exact move_eq_advance d hg (by omega)
              have hcount := turnNumber_of_move hg hmove
              obtain ⟨h, reports, hplay⟩ := ih mid (by omega)
              exact ⟨h, report :: reports, play_cons hg hmove hplay⟩

end RuleTiles.Game
