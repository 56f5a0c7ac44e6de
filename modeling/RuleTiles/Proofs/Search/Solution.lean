/-
**The answer of the search.**

The moves that the search answers with win the game from which it started, whatever is left to
chance: they are read off games that were really played.  That no fewer moves win is another matter.
The search drops a game that looks like one it has met, and the two may go different ways when a
facing is drawn.  In a predictable game they do not, and the search misses no win within its limits.

Main results:

* `RuleTiles.Search.Progress.Orderly.not_won_of_leads`,
  `RuleTiles.Search.Progress.Orderly.depth_lt_of_won` — what the closed entries of a table leave
  out;
* `RuleTiles.Game.exists_search` — **how a search ends**;
* `RuleTiles.Game.solve_wins` — **the answer can be played, and wins**;
* `RuleTiles.Game.search_shortest` — **the answer to a predictable game is a shortest win**, and no
  answer means that there is no win within the limits, or that the limit on the nodes was reached.
-/

import RuleTiles.CommandLine
import RuleTiles.Proofs.Play.Predictable
import RuleTiles.Proofs.Search.Order

set_option relaxedAutoImplicit false
set_option autoImplicit false

namespace RuleTiles

variable {limits : SearchLimits} {g : Game}

/-! ### What closed entries leave out -/

namespace Search.Progress

variable {s : Progress}

/-- A list of moves wins no game that looks like that of an entry when the entries it passes through
are closed. -/
theorem Orderly.not_won_of_leads (hs : s.Orderly limits g) (hrules : g.rules = g.grid.rules)
    (hcount : g.turnNumber.toNat + limits.maxMoves < 2 ^ 64) {bound : Nat}
    (hbound : bound ≤ limits.maxMoves)
    (hclosed : ∀ (i : Nat) e, s.table.entries[i]? = some e → e.node.depth < bound →
      s.table.Closed limits e.node)
    {h final : Game} {moves : List Direction} (hrun : Game.Leads h moves final)
    (hp : h.Predictable) {i : Nat} {e : Entry} (he : s.table.entries[i]? = some e)
    (ha : Game.Alike e.node.game h) (hle : e.node.depth + moves.length ≤ bound) :
    final.playState ≠ .won := by
  induction hrun generalizing i e with
  | nil h =>
      rw [← ha.playState]
      exact hs.unwon i e he
  | @cons h mid final d moves report hplaying hmove hrest ih =>
      rw [List.length_cons] at hle
      have hentry : e.node.game.playState = .playing := ha.playState.trans hplaying
      -- the same move is accepted in the game of the entry
      have hturns := hs.linked.turnNumber_eq he
      have hmove' := Game.move_eq_advance d hentry (by omega)
      have hmid := ha.move_of_predictable hp hplaying hmove' hmove
      obtain ⟨hwon, hnext⟩ := hclosed i e he (by omega) hentry (by omega) d _ _ hmove'
      cases hstate : mid.playState with
      | won => exact absurd (hmid.playState.trans hstate) hwon
      | lost =>
          -- a lost game is not played on
          cases hrest with
          | nil => rw [hstate]; decide
          | cons hmidplaying _ _ => rw [hstate] at hmidplaying; cases hmidplaying
      | playing =>
          obtain ⟨j, e', he', hkey, hdepth⟩ := hnext (hmid.playState.trans hstate)
          obtain ⟨hgrid, hplaying'⟩ := Prod.mk.inj hkey
          have hboard : e'.node.game.grid = mid.grid := hgrid.trans hmid.grid
          have hrules' : e'.node.game.rules = mid.rules := by
            rw [(hs.linked.leads_path he').1.rules_eq hrules, Game.rules_of_move hplaying hmove,
              hboard]
          exact ih (hp.move hplaying hmove) he' ⟨hboard, hrules', hplaying'.trans hstate.symm⟩
            (by omega)

section

variable (hs : s.Orderly limits g) (hrules : g.rules = g.grid.rules) (hp : g.Predictable)
  (hcount : g.turnNumber.toNat + limits.maxMoves < 2 ^ 64)

include hs hrules hp hcount

/-- No list of moves within a bound wins when all entries within the bound are closed. -/
theorem Orderly.not_won_of_play {bound : Nat} (hbound : bound ≤ limits.maxMoves)
    (hclosed : ∀ (i : Nat) e, s.table.entries[i]? = some e → e.node.depth < bound →
      s.table.Closed limits e.node)
    {moves : List Direction} {final : Game} {reports : List Report}
    (hplay : g.play moves = .ok (final, reports)) (hlength : moves.length ≤ bound) :
    final.playState ≠ .won := by
  obtain ⟨taken, rest, rfl, hrun, _⟩ := Game.leads_of_play hplay
  rw [List.length_append] at hlength
  refine hs.not_won_of_leads hrules hcount hbound hclosed hrun hp hs.root ⟨rfl, rfl, rfl⟩ ?_
  show 0 + taken.length ≤ bound
  omega

/-- When nothing is left to go on with, and not because too many nodes were gone on with, no list of
moves within the limit wins. -/
theorem Orderly.not_won_of_spent (hexpanded : s.expanded < limits.maxStates)
    (hsize : s.table.size ≤ s.next) {moves : List Direction} {final : Game} {reports : List Report}
    (hplay : g.play moves = .ok (final, reports)) (hlength : moves.length ≤ limits.maxMoves) :
    final.playState ≠ .won := by
  refine hs.not_won_of_play hrules hp hcount (Nat.le_refl _) ?_ hplay hlength
  intro i e he _
  obtain ⟨hi, _⟩ := Array.getElem?_eq_some_iff.1 he
  exact hs.closed hexpanded i e (Nat.lt_of_lt_of_le hi hsize) he

/-- Every list of moves that wins is longer than the way to the next node. -/
theorem Orderly.depth_lt_of_won {e : Entry} (he : s.table.entries[s.next]? = some e)
    (hgo : s.passes limits e.node = false) {moves : List Direction} {final : Game}
    {reports : List Report} (hplay : g.play moves = .ok (final, reports))
    (hwon : final.playState = .won) : e.node.depth < moves.length := by
  obtain ⟨_, hdepth, hexpanded⟩ := passes_eq_false_iff.1 hgo
  refine Nat.lt_of_not_le fun hle => ?_
  refine hs.not_won_of_play hrules hp hcount (Nat.le_of_lt hdepth) ?_ hplay hle hwon
  -- the entries with fewer moves than the next one stand before it
  intro i e' he' hless
  refine hs.closed hexpanded i e' (Nat.lt_of_not_le fun hnext => ?_) he'
  exact absurd (hs.ascending _ i _ e' hnext he he') (Nat.not_le_of_lt hless)

end

end Search.Progress

namespace Game

/-! ### How a search ends -/

/-- A search that answers with moves has found a win. -/
theorem leads_of_ends {s : Search.Progress} {result : Search.Result} {moves : List Direction}
    (hends : s.Ends limits g result) (hmoves : result.moves? = some moves) :
    moves.length ≤ limits.maxMoves ∧ ∃ final, Leads g moves final ∧ final.playState = .won := by
  cases hends with
  | spent => cases hmoves
  | won he hp hrun hwon hlength =>
      cases hmoves
      obtain ⟨_, hdepth, _⟩ := Search.Progress.passes_eq_false_iff.1 hp
      exact ⟨by omega, _, hrun, hwon⟩

/-- **How a search ends**: at once when the game is won, and otherwise with a table that it kept in
order. -/
theorem exists_search (g : Game) (hcount : g.turnNumber.toNat + limits.maxMoves < 2 ^ 64) :
    ∃ result, g.search limits = .ok result ∧ g.solve limits = .ok result.moves? ∧
      ((g.playState = .won ∧ result = ⟨some [], 0⟩) ∨
        ∃ s : Search.Progress, s.Orderly limits g ∧ s.Ends limits g result) := by
  unfold solve
  by_cases hwon : g.playState = .won
  · refine ⟨⟨some [], 0⟩, ?_, ?_, .inl ⟨hwon, rfl⟩⟩
    · rw [search, if_pos hwon]
    · rw [search, if_pos hwon]
      rfl
  · obtain ⟨result, hrun, hends⟩ :=
      Search.exists_run (Search.Progress.orderly_start limits hwon) hcount
    have hsearch : g.search limits = .ok result := by rw [search, if_neg hwon, hrun]
    refine ⟨result, hsearch, ?_, .inr hends⟩
    rw [hsearch]
    rfl

/-- The moves that a search answers with lead to a win. -/
theorem leads_of_search {result : Search.Result} {moves : List Direction}
    (hcount : g.turnNumber.toNat + limits.maxMoves < 2 ^ 64)
    (hsearch : g.search limits = .ok result) (hmoves : result.moves? = some moves) :
    moves.length ≤ limits.maxMoves ∧ ∃ final, Leads g moves final ∧ final.playState = .won := by
  obtain ⟨result', hresult, _, ⟨hwon, rfl⟩ | ⟨s, _, hends⟩⟩ :=
    exists_search g hcount
  · rw [hsearch] at hresult
    cases hresult
    cases hmoves
    exact ⟨Nat.zero_le _, g, .nil g, hwon⟩
  · rw [hsearch] at hresult
    cases hresult
    exact leads_of_ends hends hmoves

/-- A win that is one move away is found with the first node. -/
theorem search_of_move_won {after : Game} {d : Direction} {report : Report}
    (hg : g.playState = .playing) (hmove : g.move d = .ok (after, report))
    (hwon : after.playState = .won) (hmoves : 0 < limits.maxMoves) (hstates : 0 < limits.maxStates)
    (hcount : g.turnNumber.toNat + limits.maxMoves < 2 ^ 64) :
    ∃ first, g.search limits = .ok ⟨some [first], 1⟩ := by
  have hunwon : g.playState ≠ .won := by rw [hg]; decide
  have hs := Search.Progress.orderly_start limits hunwon
  have hsize : (Search.Progress.start g).next < (Search.Progress.start g).table.size :=
    Nat.zero_lt_one
  have hgo : (Search.Progress.start g).passes limits (.start g) = false :=
    Search.Progress.passes_eq_false_iff.2 ⟨hg, hmoves, hstates⟩
  obtain ⟨next, hstep⟩ := hs.step_eq_ok hcount hsize
  have hdone : ∃ result, next = .done result := by
    rcases Search.Progress.step_cases hstep with
      ⟨hp, _⟩ | ⟨_, nodes, hn, ⟨table, ht, _⟩ | ⟨way, _, rfl⟩⟩
    · exact absurd (hgo.symm.trans hp) Bool.false_ne_true
    · -- the win is among the successors, and none of those that are taken in is one
      have hmem : (⟨after, some d, 0 + 1⟩ : Search.Node) ∈ nodes := by
        refine (Search.Node.mem_successors hn).2 ⟨⟨d, report, hmove, rfl, rfl⟩, ?_⟩
        rw [hwon]
        decide
      exact absurd hwon ((Search.Table.grown_of_absorb ht).2 _ hmem).1
    · exact ⟨_, rfl⟩
  obtain ⟨result, rfl⟩ := hdone
  have hsearch : g.search limits = .ok result := by
    rw [search, if_neg hunwon, Search.run_of_done hstep]
  rcases hs.step hstep with ⟨_, heq, _⟩ | ⟨_, heq, hends⟩
  · cases heq
  · cases heq
    cases hends with
    | spent h => exact absurd hsize (Nat.not_lt_of_le h)
    | won he _ _ _ hlength =>
        cases he
        obtain ⟨first, rfl⟩ := List.length_eq_one_iff.1 hlength
        exact ⟨first, hsearch⟩

/-- **The answer of the search can be played, and wins.**  It keeps to the limit on the moves, each
of its moves is accepted, none of its proper front parts ends the play, and the letters it is
written with are read back as the same moves. -/
theorem solve_wins (g : Game) (limits : SearchLimits)
    (hcount : g.turnNumber.toNat + limits.maxMoves < 2 ^ 64) :
    ∃ answer, g.solve limits = .ok answer ∧ ∀ moves, answer = some moves →
      moves.length ≤ limits.maxMoves ∧
        (∃ final reports, g.play moves = .ok (final, reports) ∧
          reports.length = moves.length ∧ final.playState = .won) ∧
        (∀ front rest, moves = front ++ rest → rest ≠ [] →
          ∃ mid reports, g.play front = .ok (mid, reports) ∧ mid.playState = .playing) ∧
        CommandLine.readMoves (CommandLine.writeMoves moves) = .ok moves := by
  obtain ⟨result, hsearch, hsolve, _⟩ := exists_search g hcount
  refine ⟨result.moves?, hsolve, fun moves hmoves => ?_⟩
  obtain ⟨hlength, final, hrun, hwon⟩ := leads_of_search hcount hsearch hmoves
  obtain ⟨reports, hplay, hreports⟩ := hrun.play_eq_ok
  refine ⟨hlength, ⟨final, reports, hplay, hreports, hwon⟩, ?_,
    CommandLine.readMoves_writeMoves moves⟩
  rintro front rest rfl hrest
  exact hrun.playing_of_append hrest

/-- The level
```
BABA IS   YOU
FLAG IS   WIN
baba flag .
```
which a move to the right wins. -/
def flagLevel : Grid :=
  .ofFitting 3 3
    #[.ofKinds [.word .baba], .ofKinds [.is], .ofKinds [.property .you],
      .ofKinds [.word .flag], .ofKinds [.is], .ofKinds [.property .win],
      .ofKinds [.icon .baba], .ofKinds [.icon .flag], .empty]
    (by decide)

theorem search_flagLevel :
    ∃ first, (start flagLevel 0).search .small = .ok ⟨some [first], 1⟩ :=
  search_of_move_won (d := .right) rfl (move_eq_advance .right rfl (by decide))
    (by decide +kernel) (by decide) (by decide) (by decide)

/-- The answer to that level is one move, which can be played and wins. -/
theorem solve_wins_flagLevel :
    ∃ first, (start flagLevel 0).solve .small = .ok (some [first]) ∧
      ∃ final reports, (start flagLevel 0).play [first] = .ok (final, reports) ∧
        final.playState = .won := by
  obtain ⟨first, hsearch⟩ := search_flagLevel
  have hsolve : (start flagLevel 0).solve .small = .ok (some [first]) := by
    rw [solve, hsearch]
    rfl
  obtain ⟨answer, hanswer, hwins⟩ := solve_wins (start flagLevel 0) .small (by decide)
  rw [hsolve] at hanswer
  cases hanswer
  obtain ⟨_, ⟨final, reports, hplay, _, hwon⟩, _⟩ := hwins [first] rfl
  exact ⟨first, hsolve, final, reports, hplay, hwon⟩

/-- **The answer to a predictable game is a shortest win.**  Without an answer no list of moves
within the limit wins, or as many nodes were gone on with as the limits allow. -/
theorem search_shortest (g : Game) (limits : SearchLimits) (hrules : g.rules = g.grid.rules)
    (hp : g.Predictable) (hcount : g.turnNumber.toNat + limits.maxMoves < 2 ^ 64) :
    ∃ result, g.search limits = .ok result ∧ g.solve limits = .ok result.moves? ∧
      (∀ moves, result.moves? = some moves →
        (∃ final reports, g.play moves = .ok (final, reports) ∧ final.playState = .won) ∧
          ∀ others final reports, g.play others = .ok (final, reports) →
            final.playState = .won → moves.length ≤ others.length) ∧
      (result.moves? = none →
        (∀ others final reports, others.length ≤ limits.maxMoves →
          g.play others = .ok (final, reports) → final.playState ≠ .won) ∨
        result.expanded = limits.maxStates) := by
  obtain ⟨result, hsearch, hsolve, hends⟩ := exists_search g hcount
  refine ⟨result, hsearch, hsolve, fun moves hmoves => ⟨?_, ?_⟩, fun hnone => ?_⟩
  · obtain ⟨_, final, hrun, hwon⟩ := leads_of_search hcount hsearch hmoves
    obtain ⟨reports, hplay, _⟩ := hrun.play_eq_ok
    exact ⟨final, reports, hplay, hwon⟩
  · intro others final reports hplay hwon
    rcases hends with ⟨_, rfl⟩ | ⟨s, hs, hends⟩
    · cases hmoves
      exact Nat.zero_le _
    · cases hends with
      | spent => cases hmoves
      | won he hgo _ _ hlength =>
          cases hmoves
          rw [hlength]
          exact hs.depth_lt_of_won hrules hp hcount he hgo hplay hwon
  · rcases hends with ⟨_, rfl⟩ | ⟨s, hs, hends⟩
    · cases hnone
    · cases hends with
      | spent hsize =>
          rcases Nat.lt_or_ge s.expanded limits.maxStates with hlt | hge
          · left
            intro others final reports hlength hplay
            exact hs.not_won_of_spent hrules hp hcount hlt hsize hplay hlength
          · exact .inr (Nat.le_antisymm hs.count hge)
      | won => cases hnone

/-- The answer to that level is one move, and it is not won by fewer. -/
theorem search_shortest_flagLevel :
    ∃ first, (start flagLevel 0).search .small = .ok ⟨some [first], 1⟩ ∧
      ∀ others final reports, (start flagLevel 0).play others = .ok (final, reports) →
        final.playState = .won → 1 ≤ others.length := by
  obtain ⟨first, hsearch⟩ := search_flagLevel
  have hmove : ¬flagLevel.Carries (.property .move) := by
    rw [Grid.carries_iff]
    decide +kernel
  obtain ⟨result, hresult, _, hanswer, _⟩ := search_shortest (start flagLevel 0) .small rfl
    (predictable_of_not_carries rfl hmove) (by decide)
  rw [hsearch] at hresult
  cases hresult
  exact ⟨first, hsearch, (hanswer [first] rfl).2⟩

end Game

end RuleTiles
