/-
**Games that look alike.**

A search takes two games with the same board and the same state of play for one.  Games that were
started alike then have the same rules in force, but they may still differ in the number of turns
and in the seed of the next turn.  The number of turns has no part in the play.  The seed has one,
when a facing is drawn: from then on the two games can go different ways.

Main definitions:

* `RuleTiles.Game.Alike` — the same board, rules and state of play;
* `RuleTiles.Game.choices` — the headings that are left to chance in a turn;
* `RuleTiles.Game.SameChoices` — two games make the same choices along a list of moves.

Main results:

* `RuleTiles.Game.Alike.move` — one move keeps games alike that choose alike;
* `RuleTiles.Game.Alike.play` — **games that look alike and choose alike are played alike**.
-/

import RuleTiles.Proofs.Play.Run
import RuleTiles.Proofs.Turn.Chance

set_option relaxedAutoImplicit false
set_option autoImplicit false

namespace RuleTiles.Game

/-- Two games look alike: they have the same board, the same rules in force and the same state of
play. -/
structure Alike (g h : Game) : Prop where
  grid : g.grid = h.grid
  rules : g.rules = h.rules
  playState : g.playState = h.playState

/-- The headings that are left to chance in the turn that a move is. -/
def choices (g : Game) (d : Direction) : List Heading :=
  (g.grid.moveYou g.rules d).1.choices g.rules (.ofSeed g.randomState)

/-- Two games make the same choices in every turn of a list of moves. -/
def SameChoices (g h : Game) (moves : List Direction) : Prop :=
  ∀ first d rest, moves = first ++ d :: rest → ∀ g' h' reports reports',
    g.play first = .ok (g', reports) → h.play first = .ok (h', reports') →
      g'.playState = .playing → g'.choices d = h'.choices d

variable {g h g' h' : Game} {d : Direction} {moves : List Direction} {report report' : Report}
  {reports reports' : List Report}

/-! ### One move -/

/-- The turns of games that look alike and choose alike are the same. -/
theorem Alike.turn (ha : Alike g h) (hchoices : g.choices d = h.choices d) :
    (g.turn d).grid = (h.turn d).grid ∧ (g.turn d).report = (h.turn d).report := by
  unfold choices at hchoices
  unfold Game.turn
  rw [ha.grid, ha.rules] at hchoices ⊢
  exact Grid.resolve_eq_of_choices_eq hchoices

/-- One move keeps games alike that choose alike, and its reports are the same. -/
theorem Alike.move (ha : Alike g h) (hchoices : g.choices d = h.choices d)
    (hplaying : g.playState = .playing) (hg : g.move d = .ok (g', report))
    (hh : h.move d = .ok (h', report')) : Alike g' h' ∧ report = report' := by
  have hplaying' : h.playState = .playing := ha.playState.symm.trans hplaying
  obtain ⟨hgrid, hreport⟩ := ha.turn hchoices
  have hrules := rules_of_move hplaying hg
  have hrules' := rules_of_move hplaying' hh
  obtain ⟨_, rfl, rfl⟩ := eq_advance_of_move hplaying hg
  obtain ⟨_, rfl, rfl⟩ := eq_advance_of_move hplaying' hh
  have hboard : (g.advance d).1.grid = (h.advance d).1.grid := by
    rw [grid_advance, grid_advance, hgrid]
  refine ⟨⟨hboard, ?_, ?_⟩, ?_⟩
  · rw [hrules, hrules', hboard]
  · rw [playState_advance, playState_advance, hreport]
  · rw [report_advance, report_advance, hreport, ha.playState]

/-! ### A list of moves -/

/-- After an accepted move the same choices are left. -/
theorem SameChoices.tail (hs : SameChoices g h (d :: moves)) (hplaying : g.playState = .playing)
    (hplaying' : h.playState = .playing) (hg : g.move d = .ok (g', report))
    (hh : h.move d = .ok (h', report')) : SameChoices g' h' moves := by
  intro first d' rest hmoves g₁ h₁ later later' hplay hplay' hg₁
  refine hs (d :: first) d' rest ?_ g₁ h₁ (report :: later) (report' :: later') ?_ ?_ hg₁
  · rw [hmoves, List.cons_append]
  · exact play_cons hplaying hg hplay
  · exact play_cons hplaying' hh hplay'

/-- **Games that look alike and choose alike are played alike**, with the same reports. -/
theorem Alike.play (ha : Alike g h) (hs : SameChoices g h moves)
    (hg : g.play moves = .ok (g', reports)) (hh : h.play moves = .ok (h', reports')) :
    Alike g' h' ∧ reports = reports' := by
  induction moves generalizing g h reports reports' with
  | nil =>
      cases hg
      cases hh
      exact ⟨ha, rfl⟩
  | cons d moves ih =>
      cases hf : g.isFinished with
      | true =>
          have hf' : h.isFinished = true := by
            unfold isFinished at hf ⊢
            rwa [← ha.playState]
          rw [play_of_isFinished hf] at hg
          rw [play_of_isFinished hf'] at hh
          cases hg
          cases hh
          exact ⟨ha, rfl⟩
      | false =>
          have hplaying := isFinished_eq_false_iff.1 hf
          have hplaying' : h.playState = .playing := ha.playState.symm.trans hplaying
          obtain ⟨mid, report, later, hmove, hrest, rfl⟩ := move_of_play_cons hplaying hg
          obtain ⟨mid', report', later', hmove', hrest', rfl⟩ := move_of_play_cons hplaying' hh
          -- no move of the list is behind the first one
          have hchoices := hs [] d moves rfl g h [] [] rfl rfl hplaying
          obtain ⟨hmid, rfl⟩ := ha.move hchoices hplaying hmove hmove'
          obtain ⟨hend, rfl⟩ := ih hmid (hs.tail hplaying hplaying' hmove hmove') hrest hrest'
          exact ⟨hend, rfl⟩

/-! ### Nodes that a search takes for one -/

/-- **Equal nodes are played alike when they choose alike.**  Two games that come from one level
and one seed, with the same board and the same state of play, are played alike by any moves along
which the same headings are left to chance; and the moves can be played as long as the turns can be
counted. -/
theorem play_alike_of_sameChoices {grid : Grid} {seed : UInt64} {a b c : List Direction}
    {before before' : List Report} (hg : (start grid seed).play a = .ok (g, before))
    (hh : (start grid seed).play b = .ok (h, before')) (hgrid : g.grid = h.grid)
    (hstate : g.playState = h.playState) (hs : SameChoices g h c) :
    (∀ g' h' reports reports', g.play c = .ok (g', reports) → h.play c = .ok (h', reports') →
        g'.grid = h'.grid ∧ g'.playState = h'.playState ∧ reports = reports') ∧
      (a.length + c.length < 2 ^ 64 → b.length + c.length < 2 ^ 64 →
        ∃ g' h' reports, g.play c = .ok (g', reports) ∧ h.play c = .ok (h', reports)) := by
  obtain ⟨taken, rest, rfl, hrun, _⟩ := leads_of_play hg
  obtain ⟨taken', rest', rfl, hrun', _⟩ := leads_of_play hh
  have ha : Alike g h :=
    ⟨hgrid, by rw [hrun.rules_eq rfl, hrun'.rules_eq rfl, hgrid], hstate⟩
  refine ⟨fun g' h' reports reports' hplay hplay' => ?_, fun hlength hlength' => ?_⟩
  · obtain ⟨hend, hreports⟩ := ha.play hs hplay hplay'
    exact ⟨hend.grid, hend.playState, hreports⟩
  · have hcount : g.turnNumber.toNat = 0 + taken.length := hrun.turnNumber
    have hcount' : h.turnNumber.toNat = 0 + taken'.length := hrun'.turnNumber
    rw [List.length_append] at hlength hlength'
    obtain ⟨g', reports, hplay⟩ := play_eq_ok g c (by omega)
    obtain ⟨h', reports', hplay'⟩ := play_eq_ok h c (by omega)
    obtain ⟨_, rfl⟩ := ha.play hs hplay hplay'
    exact ⟨g', h', reports, hplay, hplay'⟩

/-! ### A facing that is drawn late -/

/-- The level
```
SKULL IS .    .     .
.     .  MOVE .     .
.     .  baba skull .
BABA  IS YOU  .     .
```
on which `baba` cannot move down.  Moving up twice spells SKULL IS MOVE, and `skull` is given a
facing. -/
def skullLevel : Grid :=
  .ofFitting 5 4
    #[.ofKinds [.word .skull], .ofKinds [.is], .empty, .empty, .empty,
      .empty, .empty, .ofKinds [.property .move], .empty, .empty,
      .empty, .empty, .ofKinds [.icon .baba], .ofKinds [.icon .skull], .empty,
      .ofKinds [.word .baba], .ofKinds [.is], .ofKinds [.property .you], .empty, .empty]
    (by decide)

/-- That level, started with a seed, after one attempt to move down. -/
def skullOnce (seed : UInt64) : Game := ((start skullLevel seed).advance .down).1

/-- That level after two attempts to move down. -/
def skullTwice (seed : UInt64) : Game := ((skullOnce seed).advance .down).1

/-- Two more moves can be counted in either game. -/
theorem countable_skullOnce (seed : UInt64) : (skullOnce seed).turnNumber.toNat + 2 < 2 ^ 64 := by
  have hcount : (skullOnce seed).turnNumber = 1 := turnNumber_advance ..
  rw [hcount]
  decide

theorem countable_skullTwice (seed : UInt64) :
    (skullTwice seed).turnNumber.toNat + 2 < 2 ^ 64 := by
  have hcount : (skullTwice seed).turnNumber = 2 := by
    rw [skullTwice, skullOnce, turnNumber_advance, turnNumber_advance]
    rfl
  rw [hcount]
  decide

/-- The attempts end no game, and all of them leave the same board. -/
theorem skull_unmoved :
    ((skullOnce 1).playState = .playing ∧ (skullTwice 1).playState = .playing ∧
        (skullOnce 1).grid = (skullTwice 1).grid) ∧
      (skullOnce 2).playState = .playing ∧ (skullTwice 2).playState = .playing ∧
        (skullOnce 2).grid = (skullTwice 2).grid := by
  decide +kernel

theorem play_skullOnce (seed : UInt64) :
    (start skullLevel seed).play [.down] =
      .ok (skullOnce seed, [((start skullLevel seed).advance .down).2]) :=
  play_singleton .down rfl (show (0 : UInt64).toNat + 1 < 2 ^ 64 by decide)

theorem play_skullTwice {seed : UInt64} (hmid : (skullOnce seed).playState = .playing) :
    (start skullLevel seed).play [.down, .down] =
      .ok (skullTwice seed,
        [((start skullLevel seed).advance .down).2, ((skullOnce seed).advance .down).2]) :=
  play_pair .down .down rfl hmid (show (0 : UInt64).toNat + 2 < 2 ^ 64 by decide)

/-- With the seed 2 the games are in different random states, but after one move up both draw the
facing right for `skull`. -/
theorem play_alike_skullLevel :
    (skullOnce 2).randomState ≠ (skullTwice 2).randomState ∧
      ((skullOnce 2).advance .up).1.choices .up = [⟨⟨.clamp 2 3, .icon .skull⟩, .right, true⟩] ∧
      (((skullOnce 2).advance .up).1.advance .up).1.grid =
        (((skullTwice 2).advance .up).1.advance .up).1.grid := by
  obtain ⟨-, honce, htwice, hsame⟩ := skull_unmoved
  have hs : SameChoices (skullOnce 2) (skullTwice 2) [.up, .up] := by
    intro first d rest hmoves g' h' _ _ hplay hplay' _
    rcases first with _ | ⟨d', _ | ⟨_, _⟩⟩
    · -- the first move leaves nothing to chance
      cases hmoves
      cases hplay
      cases hplay'
      decide +kernel
    · cases hmoves
      rw [play_singleton .up honce (Nat.lt_of_succ_lt (countable_skullOnce 2))] at hplay
      rw [play_singleton .up htwice (Nat.lt_of_succ_lt (countable_skullTwice 2))] at hplay'
      cases hplay
      cases hplay'
      decide +kernel
    · simp at hmoves
  have hplay := play_pair .up .up honce (by decide +kernel) (countable_skullOnce 2)
  have hplay' := play_pair .up .up htwice (by decide +kernel) (countable_skullTwice 2)
  obtain ⟨halike, _⟩ := play_alike_of_sameChoices (play_skullOnce 2) (play_skullTwice honce)
    hsame (honce.trans htwice.symm) hs
  exact ⟨by decide +kernel, by decide +kernel, (halike _ _ _ _ hplay hplay').1⟩

/-- **Equal nodes are not always played alike.**  With the seed 1, after two moves up, `skull` has
moved down in one of the games and up in the other. -/
theorem not_alike_skullLevel :
    ¬ ∀ (grid : Grid) (seed : UInt64) (a b c : List Direction) (g h g' h' : Game)
        (ra rb rg rh : List Report), (start grid seed).play a = .ok (g, ra) →
          (start grid seed).play b = .ok (h, rb) → g.grid = h.grid → g.playState = h.playState →
            g.play c = .ok (g', rg) → h.play c = .ok (h', rh) →
              g'.grid = h'.grid ∧ g'.playState = h'.playState := by
  intro hcongr
  obtain ⟨⟨honce, htwice, hsame⟩, -⟩ := skull_unmoved
  have hplay := play_pair .up .up honce (by decide +kernel) (countable_skullOnce 1)
  have hplay' := play_pair .up .up htwice (by decide +kernel) (countable_skullTwice 1)
  obtain ⟨hgrid, _⟩ := hcongr skullLevel 1 [.down] [.down, .down] [.up, .up] _ _ _ _ _ _ _ _
    (play_skullOnce 1) (play_skullTwice honce) hsame (honce.trans htwice.symm) hplay hplay'
  have hdown : Kind.icon .skull ∈
      ((((skullOnce 1).advance .up).1.advance .up).1.grid.cell (.clamp 3 3)).kinds := by
    decide +kernel
  have hup : Kind.icon .skull ∉
      ((((skullTwice 1).advance .up).1.advance .up).1.grid.cell (.clamp 3 3)).kinds := by
    decide +kernel
  rw [hgrid] at hdown
  exact hup hdown

end RuleTiles.Game
