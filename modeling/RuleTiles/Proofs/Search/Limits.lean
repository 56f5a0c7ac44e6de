/-
**Larger limits find the same win.**

A search that finds a win goes on with a node for which there is room under both of its limits.  The
entries before that node need no more moves than it does, and when they were looked at no more nodes
had been gone on with.  So neither limit kept the search from any of them, and under larger limits
the search takes the very same steps, random choices included, up to the same win.  A limit that
does stop the search at a game still in play stops it for good: no node behind that one is gone on
with any more.

Main definitions:

* `RuleTiles.SearchLimits.Within` — each of two limits is at most the other.

Main results:

* `RuleTiles.Search.run_of_passes_all` — nothing is found when every waiting node is passed over;
* `RuleTiles.Search.Progress.step_of_within` — **a step under larger limits is the same step**, or
  the search finds nothing;
* `RuleTiles.Search.run_of_within` — so is the rest of a search that finds a win;
* `RuleTiles.Game.solve_of_within` — **larger limits give the same answer**.
-/

import RuleTiles.Proofs.Search.Solution

set_option relaxedAutoImplicit false
set_option autoImplicit false

namespace RuleTiles

/-- Limits that go no further than others. -/
structure SearchLimits.Within (limits larger : SearchLimits) : Prop where
  moves : limits.maxMoves ≤ larger.maxMoves
  states : limits.maxStates ≤ larger.maxStates

variable {limits larger : SearchLimits} {g : Game}

namespace Search

namespace Progress

variable {s s' : Progress} {n : Node}

/-! ### Nodes that are passed over -/

/-- A node whose play has ended is passed over under any limits. -/
theorem passes_of_isFinished (limits : SearchLimits) (s : Progress)
    (hn : n.game.isFinished = true) : s.passes limits n = true := by
  simp [passes, hn]

/-- What may be gone on with may be gone on with under larger limits. -/
theorem passes_eq_false_of_within (hw : limits.Within larger)
    (hgo : s.passes limits n = false) : s.passes larger n = false := by
  obtain ⟨hplaying, hdepth, hcount⟩ := passes_eq_false_iff.1 hgo
  exact passes_eq_false_iff.2
    ⟨hplaying, Nat.lt_of_lt_of_le hdepth hw.moves, Nat.lt_of_lt_of_le hcount hw.states⟩

/-- When a limit keeps the search from a game that is still played, it keeps it from everything that
waits: the nodes behind need as many moves, and the count of nodes does not go down. -/
theorem Orderly.passes_all (hs : s.Orderly limits g) {e : Entry}
    (he : s.table.entries[s.next]? = some e) (hplaying : e.node.game.isFinished = false)
    (hp : s.passes limits e.node = true) :
    ∀ (i : Nat) e', s.next ≤ i → s.table.entries[i]? = some e' →
      s.passes limits e'.node = true := by
  intro i e' hi he'
  have hdepth := hs.ascending s.next i e e' hi he he'
  simp only [passes, hplaying, Bool.false_or, Bool.or_eq_true, decide_eq_true_eq] at hp ⊢
  rcases hp with hmoves | hcount
  · exact .inl (.inr (Nat.le_trans hmoves hdepth))
  · exact .inr hcount

end Progress

/-- **Nothing is found when every waiting node is passed over.** -/
theorem run_of_passes_all {s : Progress}
    (hp : ∀ (i : Nat) e, s.next ≤ i → s.table.entries[i]? = some e →
      s.passes limits e.node = true) :
    run limits s = .ok ⟨none, s.expanded⟩ := by
  have hstep : ∀ {s : Progress} (h : s.next < s.table.size),
      (∀ (i : Nat) e, s.next ≤ i → s.table.entries[i]? = some e →
        s.passes limits e.node = true) →
      s.step limits h = .ok (.goOn { s with next := s.next + 1 }) := by
    intro s h hp
    unfold Progress.step
    rw [if_pos (hp s.next _ (Nat.le_refl _) (Array.getElem?_eq_getElem h))]
  induction s using run.induct limits with
  | case1 s h fault hfault =>
      rw [hstep h hp] at hfault
      cases hfault
  | case2 s h result hdone =>
      rw [hstep h hp] at hdone
      cases hdone
  | case3 s h s' hgoOn ih =>
      rw [run_of_goOn hgoOn]
      rw [hstep h hp] at hgoOn
      cases hgoOn
      -- the count of nodes is the same, so what waits is still passed over
      exact ih fun i e hi he => hp i e (Nat.le_of_succ_le hi) he
  | case4 s h => exact run_of_size_le (Nat.le_of_not_lt h)

/-! ### The same steps -/

/-- **A step under larger limits is the same step**, unless a limit has ended the search. -/
theorem Progress.Orderly.step_of_within {s : Progress} (hs : s.Orderly limits g)
    (hw : limits.Within larger) (h : s.next < s.table.size) :
    s.step larger h = s.step limits h ∨ run limits s = .ok ⟨none, s.expanded⟩ := by
  have he : s.table.entries[s.next]? = some s.table.entries[s.next] := Array.getElem?_eq_getElem h
  cases hp : s.passes limits s.table.entries[s.next].node with
  | false =>
      left
      simp only [Progress.step, hp, Progress.passes_eq_false_of_within hw hp]
  | true =>
      cases hplay : s.table.entries[s.next].node.game.isFinished with
      | false => exact .inr (run_of_passes_all (hs.passes_all he hplay hp))
      | true =>
          left
          simp only [Progress.step, hp, Progress.passes_of_isFinished larger s hplay]

/-- **A search that finds a win takes the same course under larger limits.** -/
theorem run_of_within {s : Progress} (hs : s.Orderly limits g) (hw : limits.Within larger)
    {result : Result} (hrun : run limits s = .ok result) (hfound : result.moves?.isSome = true) :
    run larger s = .ok result := by
  -- a search that has been ended by a limit finds nothing
  have hgoes : ∀ {s : Progress}, run limits s = .ok result →
      run limits s ≠ .ok ⟨none, s.expanded⟩ := by
    intro s hrun hnone
    rw [hrun] at hnone
    cases hnone
    cases hfound
  induction s using run.induct limits with
  | case1 s h fault hfault =>
      rw [run_of_error hfault] at hrun
      cases hrun
  | case2 s h found hdone =>
      have hsame := (hs.step_of_within hw h).resolve_right (hgoes hrun)
      rw [run_of_done hdone] at hrun
      rw [run_of_done (hsame.trans hdone), hrun]
  | case3 s h s' hgoOn ih =>
      have hsame := (hs.step_of_within hw h).resolve_right (hgoes hrun)
      rw [run_of_goOn hgoOn] at hrun
      rw [run_of_goOn (hsame.trans hgoOn)]
      rcases hs.step hgoOn with ⟨s'', heq, hs'⟩ | ⟨_, heq, _⟩
      · cases heq
        exact ih hs' hrun
      · cases heq
  | case4 s h => exact absurd (run_of_size_le (Nat.le_of_not_lt h)) (hgoes hrun)

end Search

/-! ### The same answer -/

namespace Game

theorem search_of_within (hw : limits.Within larger) {result : Search.Result}
    (hsearch : g.search limits = .ok result) (hfound : result.moves?.isSome = true) :
    g.search larger = .ok result := by
  unfold search at hsearch ⊢
  split at hsearch
  · rename_i hwon
    rw [if_pos hwon, hsearch]
  · rename_i hwon
    rw [if_neg hwon]
    exact Search.run_of_within (Search.Progress.orderly_start limits hwon) hw hsearch hfound

/-- A search answers with what it found. -/
theorem solve_eq_ok_iff {answer : Option (List Direction)} :
    g.solve limits = .ok answer ↔ ∃ result, g.search limits = .ok result ∧
      result.moves? = answer := by
  unfold solve
  cases g.search limits <;> simp [bind, Except.bind, pure, Except.pure]

/-- **Larger limits give the same answer.**  When a search finds a win, a search of the same game
under limits that go at least as far finds the same moves, and has gone on with as many nodes by
then.  It makes no difference what is left to chance. -/
theorem solve_of_within (g : Game) {limits larger : SearchLimits}
    (hmoves : limits.maxMoves ≤ larger.maxMoves) (hstates : limits.maxStates ≤ larger.maxStates)
    {moves : List Direction} (hsolve : g.solve limits = .ok (some moves)) :
    g.solve larger = .ok (some moves) ∧ g.search larger = g.search limits := by
  obtain ⟨result, hsearch, hresult⟩ := solve_eq_ok_iff.1 hsolve
  have hlarger : g.search larger = .ok result :=
    search_of_within ⟨hmoves, hstates⟩ hsearch (by rw [hresult]; rfl)
  exact ⟨solve_eq_ok_iff.2 ⟨result, hlarger, hresult⟩, hlarger.trans hsearch.symm⟩

/-- The answer that is found with one move and one node is that of the standard search. -/
theorem solve_of_within_flagLevel :
    ∃ first, (start flagLevel 0).solve ⟨1, 1⟩ = .ok (some [first]) ∧
      (start flagLevel 0).solve .standard = .ok (some [first]) := by
  have hfound : ∃ first, (start flagLevel 0).search ⟨1, 1⟩ = .ok ⟨some [first], 1⟩ :=
    search_of_move_won (d := .right) rfl (move_eq_advance .right rfl (by decide))
      (by decide +kernel) (by decide) (by decide) (by decide)
  obtain ⟨first, hsearch⟩ := hfound
  have hsolve := solve_eq_ok_iff.2 ⟨_, hsearch, rfl⟩
  exact ⟨first, hsolve, (solve_of_within (start flagLevel 0) (by decide) (by decide) hsolve).1⟩

end Game

end RuleTiles
