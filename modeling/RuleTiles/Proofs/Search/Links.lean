/-
**The links of the search table.**

The table of a search holds games that were told apart by their boards and states of play only.
Nevertheless the way that is read off its links is a real one: every entry but the first was reached
by one accepted move from the very game of the entry it is linked to, and not from one that merely
looks like it.

Main definitions:

* `RuleTiles.Search.Node.Reaches` — one node is reached from another by an accepted move;
* `RuleTiles.Search.Table.Linked` — the entries of a table are linked by accepted moves;
* `RuleTiles.Search.Table.Grown` — a table that has taken in successors of an entry.

Main results:

* `RuleTiles.Search.Table.Linked.leads_path` — **the moves along the links lead to the game of the
  entry**;
* `RuleTiles.Search.Table.grown_of_absorb`, `RuleTiles.Search.Table.found_of_absorb` — what comes of
  a node that is gone on with.
-/

import RuleTiles.Proofs.Play.Run
import RuleTiles.Proofs.Results
import RuleTiles.Search

set_option relaxedAutoImplicit false
set_option autoImplicit false

namespace RuleTiles.Search

/-! ### Successors -/

namespace Node

variable {n m : Node} {nodes : List Node}

/-- A node is reached from another one by an accepted move. -/
structure Reaches (n m : Node) : Prop where
  playing : n.game.playState = .playing
  move : ∃ d report, n.game.move d = .ok (m.game, report) ∧ m.via = some d
  depth : m.depth = n.depth + 1

theorem after_eq_ok {d : Direction} :
    n.after d = .ok m ↔
      ∃ report, n.game.move d = .ok (m.game, report) ∧ m.via = some d ∧ m.depth = n.depth + 1 := by
  obtain ⟨game, via, depth⟩ := m
  unfold after
  cases hmove : n.game.move d with
  | error fault => simp [bind, Except.bind]
  | ok result =>
      obtain ⟨after, report⟩ := result
      simp [bind, Except.bind, pure, Except.pure, eq_comm]

/-- The successors of a node are the games after one move that are not lost. -/
theorem mem_successors (h : n.successors = .ok nodes) :
    m ∈ nodes ↔
      (∃ d report, n.game.move d = .ok (m.game, report) ∧ m.via = some d ∧
        m.depth = n.depth + 1) ∧ m.game.playState ≠ .lost := by
  unfold successors at h
  cases hall : Direction.all.mapM n.after with
  | error fault =>
      rw [hall] at h
      cases h
  | ok reached =>
      rw [hall] at h
      cases h
      rw [List.mem_filter, mem_of_mapM_eq_ok hall, decide_eq_true_iff]
      refine and_congr_left fun _ => ?_
      constructor
      · rintro ⟨d, _, hd⟩
        exact ⟨d, after_eq_ok.1 hd⟩
      · rintro ⟨d, hd⟩
        exact ⟨d, Direction.mem_all d, after_eq_ok.2 hd⟩

theorem reaches_of_mem_successors (hn : n.game.playState = .playing)
    (h : n.successors = .ok nodes) (hm : m ∈ nodes) : n.Reaches m := by
  obtain ⟨⟨d, report, hmove, hvia, hdepth⟩, _⟩ := (mem_successors h).1 hm
  exact ⟨hn, ⟨d, report, hmove, hvia⟩, hdepth⟩

/-- A node has its successors while the turns can be counted. -/
theorem successors_eq_ok (hn : n.game.playState = .playing)
    (hcount : n.game.turnNumber.toNat + 1 < 2 ^ 64) : ∃ nodes, n.successors = .ok nodes := by
  have hafter : ∀ d ∈ Direction.all, ∃ m, n.after d = .ok m := by
    intro d _
    refine ⟨⟨(n.game.advance d).1, some d, n.depth + 1⟩, after_eq_ok.2 ?_⟩
    exact ⟨(n.game.advance d).2, Game.move_eq_advance d hn hcount, rfl, rfl⟩
  obtain ⟨reached, hall⟩ := exists_mapM_eq_ok hafter
  refine ⟨reached.filter fun m => m.game.playState ≠ .lost, ?_⟩
  unfold successors
  rw [hall]
  rfl

end Node

/-! ### Ways through a table -/

namespace Table

variable {t t' : Table} {g : Game} {i : Nat} {e : Entry}

theorem path_of_parent_eq_none (he : t.entries[i]? = some e) (hp : e.parent = none) :
    t.path i = [e.node] := by
  obtain ⟨hi, rfl⟩ := Array.getElem?_eq_some_iff.1 he
  rw [path, dif_pos hi]
  split
  · rfl
  · rename_i p h
    rw [hp] at h
    cases h

theorem path_of_parent_eq_some {p : Nat} (he : t.entries[i]? = some e) (hp : e.parent = some p) :
    t.path i = t.path p ++ [e.node] := by
  obtain ⟨hi, rfl⟩ := Array.getElem?_eq_some_iff.1 he
  rw [path, dif_pos hi]
  split
  · rename_i h
    rw [hp] at h
    cases h
  · rename_i q h
    rw [hp] at h
    cases h
    rfl

theorem parent_lt {p : Nat} (he : t.entries[i]? = some e) (hp : e.parent = some p) : p < i := by
  obtain ⟨hi, rfl⟩ := Array.getElem?_eq_some_iff.1 he
  exact t.earlier i hi p hp

@[simp] theorem moves_append (first second : List Node) :
    moves (first ++ second) = moves first ++ moves second :=
  List.filterMap_append

/-- An entry of a table is that of the start, or was reached by an accepted move from the entry that
it is linked to. -/
def LinkedAt (t : Table) (g : Game) (e : Entry) : Prop :=
  (e.parent = none ∧ e.node = .start g) ∨
    ∃ p e', e.parent = some p ∧ t.entries[p]? = some e' ∧ e'.node.Reaches e.node

/-- The entries of a table are linked by accepted moves. -/
def Linked (t : Table) (g : Game) : Prop := ∀ (i : Nat) e, t.entries[i]? = some e → t.LinkedAt g e

/-- **The moves along the links lead to the game of the entry**, and there are as many of them as
the entry says. -/
theorem Linked.leads_path (hl : t.Linked g) (he : t.entries[i]? = some e) :
    Game.Leads g (moves (t.path i)) e.node.game ∧ (moves (t.path i)).length = e.node.depth := by
  -- induction on the place, which gets smaller along the links
  induction i using Nat.strongRecOn generalizing e with
  | ind i ih =>
      rcases hl i e he with ⟨hp, hstart⟩ | ⟨p, e', hp, he', hreach⟩
      · rw [path_of_parent_eq_none he hp, hstart]
        exact ⟨.nil g, rfl⟩
      · obtain ⟨hrun, hlength⟩ := ih p (parent_lt he hp) he'
        obtain ⟨d, report, hmove, hvia⟩ := hreach.move
        have hlast : moves [e.node] = [d] := by simp [moves, hvia]
        rw [path_of_parent_eq_some he hp, moves_append, hlast]
        refine ⟨hrun.snoc hreach.playing hmove, ?_⟩
        rw [List.length_append, hlength, hreach.depth]
        rfl

/-- The turns of the games of a table are counted by the moves on the ways to them. -/
theorem Linked.turnNumber_eq (hl : t.Linked g) (he : t.entries[i]? = some e) :
    e.node.game.turnNumber.toNat = g.turnNumber.toNat + e.node.depth := by
  obtain ⟨hrun, hlength⟩ := hl.leads_path he
  rw [hrun.turnNumber, hlength]

/-! ### Growing tables -/

/-- Some entry of a table has a board and a state of play. -/
def Holds (t : Table) (key : Grid × PlayState) : Prop :=
  ∃ (j : Nat) (e : Entry), t.entries[j]? = some e ∧ e.node.key = key

/-- A table that has taken in some of the nodes, each of them linked to the place `i`: the old
entries stand where they stood, and the new ones behind them. -/
structure Grown (t : Table) (i : Nat) (nodes : List Node) (t' : Table) : Prop where
  old : ∀ (j : Nat) e, t.entries[j]? = some e → t'.entries[j]? = some e
  new : ∀ (j : Nat) e, t'.entries[j]? = some e →
    t.entries[j]? = some e ∨ (t.size ≤ j ∧ ∃ n ∈ nodes, e = ⟨n, some i⟩)

theorem Grown.refl (t : Table) (i : Nat) (nodes : List Node) : t.Grown i nodes t :=
  ⟨fun _ _ h => h, fun _ _ h => .inl h⟩

theorem Grown.holds {nodes : List Node} {key : Grid × PlayState} (hg : t.Grown i nodes t')
    (h : t.Holds key) : t'.Holds key := by
  obtain ⟨j, e, he, hkey⟩ := h
  exact ⟨j, e, hg.old j e he, hkey⟩

/-- Inserting a node: there is an equal one, or the node is entered at the end. -/
theorem insert_cases (t : Table) (n : Node) (h : i < t.size) :
    (t.Holds n.key ∧ t.insert n i h = t) ∨
      (t.insert n i h).entries = t.entries.push ⟨n, some i⟩ := by
  unfold insert
  split
  · rename_i hkey
    obtain ⟨e, he, hkey⟩ := (t.mem_keys n.key).1 (Std.HashSet.contains_iff_mem.1 hkey)
    obtain ⟨j, hj, he⟩ := Array.mem_iff_getElem.1 he
    exact .inl ⟨⟨j, e, Array.getElem?_eq_some_iff.2 ⟨hj, he⟩, hkey⟩, rfl⟩
  · exact .inr rfl

theorem holds_insert (t : Table) (n : Node) (h : i < t.size) : (t.insert n i h).Holds n.key := by
  rcases t.insert_cases n h with ⟨hkey, heq⟩ | heq
  · rwa [heq]
  · refine ⟨t.entries.size, ⟨n, some i⟩, ?_, rfl⟩
    rw [heq, Array.getElem?_push_size]

theorem grown_insert (t : Table) {n : Node} {nodes : List Node} (hn : n ∈ nodes)
    (h : i < t.size) : t.Grown i nodes (t.insert n i h) := by
  rcases t.insert_cases n h with ⟨_, heq⟩ | heq
  · rw [heq]
    exact .refl t i nodes
  · constructor
    · intro j e he
      obtain ⟨hj, rfl⟩ := Array.getElem?_eq_some_iff.1 he
      rw [heq, Array.getElem?_push_lt hj]
    · intro j e he
      rw [heq, Array.getElem?_push] at he
      split at he
      · rename_i hj
        cases he
        exact .inr ⟨Nat.le_of_eq hj.symm, n, hn, rfl⟩
      · exact .inl he

theorem Grown.trans {t₁ t₂ t₃ : Table} {nodes more : List Node} (h₁ : t₁.Grown i nodes t₂)
    (h₂ : t₂.Grown i more t₃) (hsize : t₁.size ≤ t₂.size) (hsub : ∀ n ∈ more, n ∈ nodes) :
    t₁.Grown i nodes t₃ := by
  constructor
  · intro j e he
    exact h₂.old j e (h₁.old j e he)
  · intro j e he
    rcases h₂.new j e he with he | ⟨hj, n, hn, rfl⟩
    · exact h₁.new j e he
    · exact .inr ⟨Nat.le_trans hsize hj, n, hsub n hn, rfl⟩

/-- When no win is among the nodes that are taken in, all of them have entries. -/
theorem grown_of_absorb {nodes : List Node} {h : i < t.size}
    (ht : absorb i nodes t h = .goOn t') :
    t.Grown i nodes t' ∧ ∀ n ∈ nodes, n.game.playState ≠ .won ∧ t'.Holds n.key := by
  induction nodes generalizing t with
  | nil =>
      cases ht
      exact ⟨.refl _ i [], fun n hn => absurd hn List.not_mem_nil⟩
  | cons n rest ih =>
      unfold absorb at ht
      split at ht
      · cases ht
      · rename_i hwon
        obtain ⟨hgrown, hall⟩ := ih ht
        refine ⟨?_, ?_⟩
        · exact (t.grown_insert (List.mem_cons_self ..) h).trans hgrown (t.size_le_insert n i h)
            fun m hm => List.mem_cons_of_mem _ hm
        · intro m hm
          rcases List.mem_cons.1 hm with rfl | hm
          · exact ⟨hwon, hgrown.holds (t.holds_insert m h)⟩
          · exact hall m hm

/-- The way that is found goes to the entry, in a table that may have grown, and on to a win. -/
theorem found_of_absorb {nodes way : List Node} {h : i < t.size}
    (ht : absorb i nodes t h = .found way) :
    ∃ t' n, t.Grown i nodes t' ∧ n ∈ nodes ∧ n.game.playState = .won ∧ way = t'.path i ++ [n] := by
  induction nodes generalizing t with
  | nil => cases ht
  | cons n rest ih =>
      unfold absorb at ht
      split at ht
      · rename_i hwon
        cases ht
        exact ⟨t, n, .refl t i _, List.mem_cons_self .., hwon, rfl⟩
      · obtain ⟨t', m, hgrown, hm, hwon, hway⟩ := ih ht
        refine ⟨t', m, ?_, List.mem_cons_of_mem _ hm, hwon, hway⟩
        exact (t.grown_insert (List.mem_cons_self ..) h).trans hgrown (t.size_le_insert n i h)
          fun m hm => List.mem_cons_of_mem _ hm

/-- A table stays linked when it takes in nodes that are reached from the entry they are linked
to. -/
theorem Linked.grown {nodes : List Node} (hl : t.Linked g) (he : t.entries[i]? = some e)
    (hreach : ∀ n ∈ nodes, e.node.Reaches n) (hg : t.Grown i nodes t') : t'.Linked g := by
  intro j e' he'
  rcases hg.new j e' he' with he' | ⟨_, n, hn, rfl⟩
  · rcases hl j e' he' with hroot | ⟨p, e'', hp, he'', hr⟩
    · exact .inl hroot
    · exact .inr ⟨p, e'', hp, hg.old p e'' he'', hr⟩
  · exact .inr ⟨i, e, rfl, hg.old i e he, hreach n hn⟩

/-- The way to a win that is found: it can be played, and has one move more than the way to the
entry from which the win is reached. -/
theorem Linked.found {nodes way : List Node} {h : i < t.size} (hl : t.Linked g)
    (he : t.entries[i]? = some e) (hreach : ∀ n ∈ nodes, e.node.Reaches n)
    (ht : absorb i nodes t h = .found way) :
    ∃ final, Game.Leads g (moves way) final ∧ final.playState = .won ∧
      (moves way).length = e.node.depth + 1 := by
  obtain ⟨t', n, hgrown, hn, hwon, rfl⟩ := found_of_absorb ht
  obtain ⟨hrun, hlength⟩ := (hl.grown he hreach hgrown).leads_path (hgrown.old i e he)
  obtain ⟨d, report, hmove, hvia⟩ := (hreach n hn).move
  have hlast : moves [n] = [d] := by simp [moves, hvia]
  refine ⟨n.game, ?_, hwon, ?_⟩
  · rw [moves_append, hlast]
    exact hrun.snoc (hreach n hn).playing hmove
  · rw [moves_append, hlast, List.length_append, hlength]
    rfl

end Table

end RuleTiles.Search
