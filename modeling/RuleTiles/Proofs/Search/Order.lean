/-
**What a search maintains.**

The entries of the table stand in the order of the moves it takes to reach them.  Those that still
wait to be gone on with differ by one move at most.  Those that were gone on with are closed: what
one more move leads to is no win, and has an entry itself unless it is lost.  A node that was passed
over is closed as well, unless the number of nodes to go on with was used up.

Main definitions:

* `RuleTiles.Search.Table.Closed` — what one move leads to from a node has an entry;
* `RuleTiles.Search.Progress.Orderly` — **the invariant of the search**;
* `RuleTiles.Search.Progress.Ends` — how a search comes to its result.

Main results:

* `RuleTiles.Search.Progress.Orderly.step` — a step keeps the invariant, or ends the search;
* `RuleTiles.Search.exists_run` — **a search comes to a result**, from an orderly table.
-/

import RuleTiles.Proofs.Search.Links

set_option relaxedAutoImplicit false
set_option autoImplicit false

namespace RuleTiles.Search

variable {limits : SearchLimits} {g : Game}

/-- What one more move leads to from a node that may be gone on with is no win, and it has an entry
with at most one move more when it is still played. -/
def Table.Closed (t : Table) (limits : SearchLimits) (n : Node) : Prop :=
  n.game.playState = .playing → n.depth < limits.maxMoves →
    ∀ d after report, n.game.move d = .ok (after, report) →
      after.playState ≠ .won ∧
        (after.playState = .playing →
          ∃ (j : Nat) (e : Entry), t.entries[j]? = some e ∧
            e.node.key = (after.grid, .playing) ∧ e.node.depth ≤ n.depth + 1)

theorem Table.Closed.grown {t t' : Table} {i : Nat} {n : Node} {nodes : List Node}
    (hc : t.Closed limits n) (hg : t.Grown i nodes t') : t'.Closed limits n := by
  intro hplaying hdepth d after report hmove
  obtain ⟨hwon, hentry⟩ := hc hplaying hdepth d after report hmove
  refine ⟨hwon, fun hafter => ?_⟩
  obtain ⟨j, e, he, hkey, hle⟩ := hentry hafter
  exact ⟨j, e, hg.old j e he, hkey, hle⟩

namespace Progress

variable {s : Progress}

/-! ### The invariant -/

/-- **The invariant of a search.** -/
structure Orderly (limits : SearchLimits) (g : Game) (s : Progress) : Prop where
  linked : s.table.Linked g
  /-- The first entry is that of the start. -/
  root : s.table.entries[0]? = some ⟨.start g, none⟩
  unwon : ∀ (i : Nat) e, s.table.entries[i]? = some e → e.node.game.playState ≠ .won
  ascending : ∀ (i j : Nat) e e', i ≤ j → s.table.entries[i]? = some e →
    s.table.entries[j]? = some e' → e.node.depth ≤ e'.node.depth
  /-- No entry is more than one move behind those that wait. -/
  level : ∀ (i j : Nat) e e', s.next ≤ j → s.table.entries[i]? = some e →
    s.table.entries[j]? = some e' → e.node.depth ≤ e'.node.depth + 1
  closed : s.expanded < limits.maxStates → ∀ (i : Nat) e, i < s.next →
    s.table.entries[i]? = some e → s.table.Closed limits e.node
  count : s.expanded ≤ limits.maxStates

theorem orderly_start (limits : SearchLimits) (hg : g.playState ≠ .won) :
    (start g).Orderly limits g := by
  have hentries : ∀ (i : Nat) e, (start g).table.entries[i]? = some e → e = ⟨.start g, none⟩ := by
    intro i e he
    obtain ⟨hi, rfl⟩ := Array.getElem?_eq_some_iff.1 he
    have hi : i = 0 := by simpa [start, Table.start] using hi
    subst hi
    rfl
  constructor
  · intro i e he
    rw [hentries i e he]
    exact .inl ⟨rfl, rfl⟩
  · rfl
  · intro i e he
    rw [hentries i e he]
    exact hg
  · intro i j e e' _ he he'
    cases hentries i e he
    cases hentries j e' he'
    exact Nat.le_refl _
  · intro i j e e' _ he he'
    cases hentries i e he
    cases hentries j e' he'
    exact Nat.le_succ _
  · intro _ i e hi
    exact absurd hi (Nat.not_lt_zero i)
  · exact Nat.zero_le _

/-! ### One step -/

/-- Passing over a node keeps the invariant. -/
theorem Orderly.pass (hs : s.Orderly limits g) {e : Entry}
    (he : s.table.entries[s.next]? = some e) (hp : s.passes limits e.node = true) :
    Orderly limits g { s with next := s.next + 1 } := by
  refine { hs with level := ?_, closed := ?_ }
  · intro i j e₁ e₂ hj
    exact hs.level i j e₁ e₂ (Nat.le_of_succ_le hj)
  · intro hcount i e' hi he'
    rcases Nat.lt_succ_iff_lt_or_eq.1 hi with hi | rfl
    · exact hs.closed hcount i e' hi he'
    · -- a node that could be gone on with is not passed over
      intro hplaying hdepth
      rw [he] at he'
      cases he'
      have hgo : s.passes limits e.node = false :=
        passes_eq_false_iff.2 ⟨hplaying, hdepth, hcount⟩
      rw [hgo] at hp
      cases hp

/-- Taking in the successors of a node keeps the invariant. -/
theorem Orderly.absorb (hs : s.Orderly limits g) {h : s.next < s.table.size} {e : Entry}
    {nodes : List Node} {table : Table} (he : s.table.entries[s.next]? = some e)
    (hp : s.passes limits e.node = false) (hn : e.node.successors = .ok nodes)
    (ht : s.table.absorb s.next nodes h = .goOn table) :
    Orderly limits g ⟨table, s.next + 1, s.expanded + 1⟩ := by
  obtain ⟨hplaying, _, hcount⟩ := passes_eq_false_iff.1 hp
  obtain ⟨hgrown, hall⟩ := Table.grown_of_absorb ht
  have hreach : ∀ n ∈ nodes, e.node.Reaches n := fun n =>
    Node.reaches_of_mem_successors hplaying hn
  -- every entry needs at most one move more than the node that is gone on with
  have hle : ∀ (i : Nat) e', table.entries[i]? = some e' → e'.node.depth ≤ e.node.depth + 1 := by
    intro i e' he'
    rcases hgrown.new i e' he' with he' | ⟨_, n, hmem, rfl⟩
    · exact hs.level i s.next e' e (Nat.le_refl _) he' he
    · exact Nat.le_of_eq (hreach n hmem).depth
  -- and those behind it need no move less
  have hge : ∀ (j : Nat) e', s.next ≤ j → table.entries[j]? = some e' →
      e.node.depth ≤ e'.node.depth := by
    intro j e' hj he'
    rcases hgrown.new j e' he' with he' | ⟨_, n, hmem, rfl⟩
    · exact hs.ascending s.next j e e' hj he he'
    · exact Nat.le_of_lt (Nat.lt_of_lt_of_eq (Nat.lt_succ_self _) (hreach n hmem).depth.symm)
  constructor
  · exact hs.linked.grown he hreach hgrown
  · exact hgrown.old 0 _ hs.root
  · intro i e' he'
    rcases hgrown.new i e' he' with he' | ⟨_, n, hmem, rfl⟩
    · exact hs.unwon i e' he'
    · exact (hall n hmem).1
  · intro i j e₁ e₂ hij he₁ he₂
    rcases hgrown.new j e₂ he₂ with hold | ⟨_, n, hmem, rfl⟩
    · rcases hgrown.new i e₁ he₁ with hold' | ⟨hi, _, _, _⟩
      · exact hs.ascending i j e₁ e₂ hij hold' hold
      · obtain ⟨hj, _⟩ := Array.getElem?_eq_some_iff.1 hold
        exact absurd (Nat.lt_of_le_of_lt hij hj) (Nat.not_lt_of_le hi)
    · rw [(hreach n hmem).depth]
      exact hle i e₁ he₁
  · intro i j e₁ e₂ hj he₁ he₂
    have h₁ := hle i e₁ he₁
    have h₂ := hge j e₂ (Nat.le_of_succ_le hj) he₂
    omega
  · intro _ i e' hi he'
    rcases Nat.lt_succ_iff_lt_or_eq.1 hi with hi | rfl
    · have hold : s.table.entries[i]? = some e' := by
        rcases hgrown.new i e' he' with hold | ⟨hsize, _⟩
        · exact hold
        · exact absurd (Nat.lt_trans hi h) (Nat.not_lt_of_le hsize)
      exact (hs.closed hcount i e' hi hold).grown hgrown
    · rw [hgrown.old _ e he] at he'
      cases he'
      intro _ _ d after report hmove
      -- the game after a move is among the successors unless it is lost
      have hmem : after.playState ≠ .lost → (⟨after, some d, e.node.depth + 1⟩ : Node) ∈ nodes :=
        fun hlost => (Node.mem_successors hn).2 ⟨⟨d, report, hmove, rfl, rfl⟩, hlost⟩
      refine ⟨fun hwon => ?_, fun hafter => ?_⟩
      · exact (hall _ (hmem (by rw [hwon]; decide))).1 hwon
      · obtain ⟨j, e', he', hkey⟩ := (hall _ (hmem (by rw [hafter]; decide))).2
        refine ⟨j, e', he', ?_, hle j e' he'⟩
        rw [hkey, ← hafter]
        rfl
  · exact hcount

/-- How a search comes to its result: nothing is left to go on with, or a win is one move away from
the next node. -/
inductive Ends (limits : SearchLimits) (g : Game) (s : Progress) : Result → Prop
  | spent (h : s.table.size ≤ s.next) : Ends limits g s ⟨none, s.expanded⟩
  | won {e : Entry} {moves : List Direction} {final : Game}
      (he : s.table.entries[s.next]? = some e) (hp : s.passes limits e.node = false)
      (hrun : Game.Leads g moves final) (hwon : final.playState = .won)
      (hlength : moves.length = e.node.depth + 1) : Ends limits g s ⟨some moves, s.expanded + 1⟩

/-- A step comes to something while the turns can be counted. -/
theorem Orderly.step_eq_ok (hs : s.Orderly limits g)
    (hcount : g.turnNumber.toNat + limits.maxMoves < 2 ^ 64) (h : s.next < s.table.size) :
    ∃ next, s.step limits h = .ok next := by
  have he : s.table.entries[s.next]? = some s.table.entries[s.next] := Array.getElem?_eq_getElem h
  unfold Progress.step
  split
  · exact ⟨_, rfl⟩
  · rename_i hp
    rw [Bool.not_eq_true] at hp
    obtain ⟨hplaying, hdepth, _⟩ := passes_eq_false_iff.1 hp
    have hturns := hs.linked.turnNumber_eq he
    obtain ⟨nodes, hn⟩ := Node.successors_eq_ok hplaying (by omega)
    rw [hn]
    simp only [bind, Except.bind, pure, Except.pure]
    split
    · exact ⟨_, rfl⟩
    · exact ⟨_, rfl⟩

/-- **A step keeps the invariant, or ends the search.** -/
theorem Orderly.step (hs : s.Orderly limits g) {h : s.next < s.table.size} {next : Step}
    (hstep : s.step limits h = .ok next) :
    (∃ s', next = .goOn s' ∧ s'.Orderly limits g) ∨
      ∃ result, next = .done result ∧ s.Ends limits g result := by
  have he : s.table.entries[s.next]? = some s.table.entries[s.next] := Array.getElem?_eq_getElem h
  rcases step_cases hstep with ⟨hp, rfl⟩ | ⟨hp, nodes, hn, ⟨table, ht, rfl⟩ | ⟨way, ht, rfl⟩⟩
  · exact .inl ⟨_, rfl, hs.pass he hp⟩
  · exact .inl ⟨_, rfl, hs.absorb he hp hn ht⟩
  · obtain ⟨hplaying, _, _⟩ := passes_eq_false_iff.1 hp
    obtain ⟨final, hrun, hwon, hlength⟩ := hs.linked.found he
      (fun n => Node.reaches_of_mem_successors hplaying hn) ht
    exact .inr ⟨_, rfl, .won he hp hrun hwon hlength⟩

end Progress

/-! ### The whole search -/

section

variable {s s' : Progress} {result : Result}

theorem run_of_goOn {h : s.next < s.table.size} (hs : s.step limits h = .ok (.goOn s')) :
    run limits s = run limits s' := by
  rw [run, dif_pos h]
  split
  · rename_i heq
    rw [hs] at heq
    cases heq
  · rename_i heq
    rw [hs] at heq
    cases heq
  · rename_i heq
    rw [hs] at heq
    cases heq
    rfl

theorem run_of_error {fault : Overflow} {h : s.next < s.table.size}
    (hs : s.step limits h = .error fault) : run limits s = .error fault := by
  rw [run, dif_pos h]
  split
  · rename_i heq
    rw [hs] at heq
    cases heq
    rfl
  · rename_i heq
    rw [hs] at heq
    cases heq
  · rename_i heq
    rw [hs] at heq
    cases heq

theorem run_of_done {h : s.next < s.table.size} (hs : s.step limits h = .ok (.done result)) :
    run limits s = .ok result := by
  rw [run, dif_pos h]
  split
  · rename_i heq
    rw [hs] at heq
    cases heq
  · rename_i heq
    rw [hs] at heq
    cases heq
    rfl
  · rename_i heq
    rw [hs] at heq
    cases heq

theorem run_of_size_le (h : s.table.size ≤ s.next) : run limits s = .ok ⟨none, s.expanded⟩ := by
  rw [run, dif_neg (Nat.not_lt_of_le h)]

end

/-- **A search comes to a result**, from an orderly table. -/
theorem exists_run {s : Progress} (hs : s.Orderly limits g)
    (hcount : g.turnNumber.toNat + limits.maxMoves < 2 ^ 64) :
    ∃ result, run limits s = .ok result ∧
      ∃ s' : Progress, s'.Orderly limits g ∧ s'.Ends limits g result := by
  induction s using run.induct limits with
  | case1 s h fault hstep =>
      -- a step does not fail
      obtain ⟨next, hnext⟩ := hs.step_eq_ok hcount h
      rw [hstep] at hnext
      cases hnext
  | case2 s h result hstep =>
      rcases hs.step hstep with ⟨s', heq, _⟩ | ⟨result', heq, hends⟩
      · cases heq
      · cases heq
        exact ⟨result, run_of_done hstep, s, hs, hends⟩
  | case3 s h s' hstep ih =>
      rcases hs.step hstep with ⟨s'', heq, hs'⟩ | ⟨result, heq, _⟩
      · cases heq
        rw [run_of_goOn hstep]
        exact ih hs'
      · cases heq
  | case4 s h =>
      have hsize := Nat.le_of_not_lt h
      exact ⟨_, run_of_size_le hsize, s, hs, .spent hsize⟩

end RuleTiles.Search
