/-
**Games without chance.**

A facing is drawn for a MOVE object that has never faced anywhere.  A game is predictable when no
such object is met in any turn that can be reached.  On a level without the word MOVE this is so,
since a turn makes no property word.

Main definitions:

* `RuleTiles.Game.unfaced` — the objects for which a facing is drawn in a turn;
* `RuleTiles.Game.Predictable` — no facing is ever drawn.

Main results:

* `RuleTiles.Game.Alike.move_of_predictable` — one move keeps games alike when one of them is
  predictable;
* `RuleTiles.Game.predictable_of_not_carries` — **without the word MOVE nothing is left to chance**.
-/

import RuleTiles.Proofs.Play.Alike
import RuleTiles.Proofs.Turn.Words

set_option relaxedAutoImplicit false
set_option autoImplicit false

namespace RuleTiles.Game

/-- The MOVE objects without a facing at the start of their phase of the turn that a move is. -/
def unfaced (g : Game) (d : Direction) : List Object :=
  (g.grid.moveYou g.rules d).1.unfaced g.rules

/-- In no turn that can be reached is a facing drawn. -/
def Predictable (g : Game) : Prop :=
  ∀ moves h reports, g.play moves = .ok (h, reports) → h.playState = .playing →
    ∀ d after report, h.move d = .ok (after, report) → h.unfaced d = []

variable {g h g' h' : Game} {d : Direction} {report report' : Report}

theorem choices_eq_nil (h : g.unfaced d = []) : g.choices d = [] := Grid.choices_eq_nil h

theorem Alike.unfaced (ha : Alike g h) : g.unfaced d = h.unfaced d := by
  unfold Game.unfaced
  rw [ha.grid, ha.rules]

theorem Predictable.unfaced (hp : g.Predictable) (hg : g.playState = .playing)
    (hmove : g.move d = .ok (g', report)) : g.unfaced d = [] :=
  hp [] g [] rfl hg d g' report hmove

/-- A predictable game stays predictable. -/
theorem Predictable.move (hp : g.Predictable) (hg : g.playState = .playing)
    (hmove : g.move d = .ok (g', report)) : g'.Predictable := by
  intro moves last reports hplay
  exact hp (d :: moves) last (report :: reports) (play_cons hg hmove hplay)

/-- One move keeps games alike when one of them is predictable. -/
theorem Alike.move_of_predictable (ha : Alike g h) (hp : h.Predictable)
    (hplaying : h.playState = .playing) (hg : g.move d = .ok (g', report))
    (hh : h.move d = .ok (h', report')) : Alike g' h' := by
  have hunfaced := hp.unfaced hplaying hh
  have hchoices : g.choices d = h.choices d := by
    rw [choices_eq_nil hunfaced, choices_eq_nil (ha.unfaced.trans hunfaced)]
  exact (ha.move hchoices (ha.playState.trans hplaying) hg hh).1

/-! ### Levels without the word MOVE -/

/-- No run brings a word to the board unless it is a naming word. -/
theorem Leads.carries {moves : List Direction} {k : Kind} (hrun : Leads g moves h)
    (htext : k.isText = true) (hname : ∀ n, k ≠ .word n) (hk : h.grid.Carries k) :
    g.grid.Carries k := by
  induction hrun with
  | nil g => exact hk
  | cons hg hmove _ ih =>
      have hmid := ih hk
      obtain ⟨_, rfl, _⟩ := eq_advance_of_move hg hmove
      rw [grid_advance] at hmid
      exact Grid.carries_of_resolve htext hname hmid

/-- **Without the word MOVE nothing is left to chance.** -/
theorem predictable_of_not_carries (hrules : g.rules = g.grid.rules)
    (hmove : ¬g.grid.Carries (.property .move)) : g.Predictable := by
  intro moves h reports hplay _ d _ _ _
  obtain ⟨taken, _, _, hrun, _, _⟩ := leads_of_play hplay
  -- no object is MOVE under the rules read off a board without the word
  have hnone : ∀ k, h.rules.grants k .move = false := by
    intro k
    rw [Bool.eq_false_iff]
    intro hgrants
    rw [hrun.rules_eq hrules] at hgrants
    have hword := Grid.carries_of_grants (by decide) hgrants
    exact hmove (hrun.carries rfl (by intro n hn; cases hn) hword)
  refine List.eq_nil_iff_forall_not_mem.2 fun o ho => ?_
  have hgrants := (Grid.mem_having.1 (List.mem_filter.1 ho).1).2
  rw [hnone] at hgrants
  cases hgrants

end RuleTiles.Game
