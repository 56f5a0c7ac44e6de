/-
**The search for a shortest win.**

The search goes breadth first through the games that can be reached.  Every node that is met is
entered in a table, at the end, with the place of the node it was reached from, unless a node with
the same board and the same state of play is there already; the nodes are gone on with in the order
of the table.  The first win ends the search, and its moves are read off the links of the table.  A
lost game is never entered.  The search does not go on with a node at the largest number of moves,
nor with any node once a number of nodes have been gone on with.

Main definitions:

* `RuleTiles.SearchLimits` — how far a search goes;
* `RuleTiles.Search.Node`, `RuleTiles.Search.Node.successors` — a game that was reached, and what
  can be reached from it by one move;
* `RuleTiles.Search.Table`, with `RuleTiles.Search.Table.insert` and `RuleTiles.Search.Table.path`
  — the nodes that were met, and the way to each of them;
* `RuleTiles.Search.Progress`, `RuleTiles.Search.Progress.step`, `RuleTiles.Search.run` — going on
  with one node, and with one node after another;
* `RuleTiles.Game.search`, `RuleTiles.Game.solve` — **the search and its answer**.

Main results:

* `RuleTiles.Search.Progress.measure_step` — the search comes to an end.
-/

import RuleTiles.Game
import Std.Data.HashSet

set_option relaxedAutoImplicit false
set_option autoImplicit false

namespace RuleTiles

/-- How far a search goes. -/
structure SearchLimits where
  /-- The longest list of moves that is considered. -/
  maxMoves : Nat
  /-- How many games are gone on with before the search gives up. -/
  maxStates : Nat
  deriving DecidableEq

namespace SearchLimits

/-- A search up to a number of moves. -/
def ofMoves (maxMoves : Nat) : SearchLimits := ⟨maxMoves, 200000⟩

/-- A small search. -/
def small : SearchLimits := ⟨24, 20000⟩

/-- The number of moves considered when nothing else is said. -/
def defaultMoves : Nat := 64

/-- The search made when nothing else is said. -/
def standard : SearchLimits := ofMoves defaultMoves

end SearchLimits

namespace Search

/-! ### Nodes -/

/-- A game that was reached, the last move on the way to it and the number of moves made. -/
structure Node where
  game : Game
  via : Option Direction
  depth : Nat

namespace Node

/-- The node from which a search starts. -/
def start (g : Game) : Node := ⟨g, none, 0⟩

/-- What nodes are told apart by: the board and the state of play. -/
def key (n : Node) : Grid × PlayState := (n.game.grid, n.game.playState)

/-- The node after one more move. -/
def after (n : Node) (d : Direction) : Except Overflow Node := do
  let (game, _) ← n.game.move d
  return ⟨game, some d, n.depth + 1⟩

/-- The nodes after one more move, in the order of the directions; lost games are left out. -/
def successors (n : Node) : Except Overflow (List Node) := do
  let nodes ← Direction.all.mapM n.after
  return nodes.filter fun m => m.game.playState ≠ .lost

end Node

/-! ### The table of nodes -/

/-- A node of the table, with the place of the node it was reached from. -/
structure Entry where
  node : Node
  parent : Option Nat

/-- The nodes that were met, in the order in which they were met.  Each but the first is linked to
an earlier one, from which it was reached. -/
structure Table where
  entries : Array Entry
  /-- The boards and states of play of the nodes. -/
  keys : Std.HashSet (Grid × PlayState)
  earlier : ∀ (i : Nat) (h : i < entries.size) (p : Nat), entries[i].parent = some p → p < i
  mem_keys : ∀ k, k ∈ keys ↔ ∃ e ∈ entries, e.node.key = k

namespace Table

/-- The number of nodes in the table. -/
def size (t : Table) : Nat := t.entries.size

/-- The table with one node. -/
def start (n : Node) : Table where
  entries := #[⟨n, none⟩]
  keys := Std.HashSet.emptyWithCapacity.insert n.key
  earlier := by
    intro i h p hp
    have hi : i = 0 := by simpa using h
    subst hi
    cases hp
  mem_keys := by
    intro k
    simp [Std.HashSet.mem_insert]

/-- The table with a node at the end that was reached from the one at the place `parent`; nothing
is entered when there is a node with the same board and the same state of play. -/
def insert (t : Table) (n : Node) (parent : Nat) (h : parent < t.size) : Table :=
  if t.keys.contains n.key then t
  else
    { entries := t.entries.push ⟨n, some parent⟩
      keys := t.keys.insert n.key
      earlier := by
        intro i hi p hp
        rcases Nat.lt_or_ge i t.entries.size with hlt | hge
        · rw [Array.getElem_push_lt hlt] at hp
          exact t.earlier i hlt p hp
        · -- the entry at the end is linked to a place of the old table
          have hlast : i = t.entries.size := by
            rw [Array.size_push] at hi
            omega
          subst hlast
          rw [Array.getElem_push_eq] at hp
          cases hp
          exact h
      mem_keys := by
        intro k
        simp only [Std.HashSet.mem_insert, beq_iff_eq, t.mem_keys, Array.mem_push]
        constructor
        · rintro (hk | ⟨e, he, hk⟩)
          · exact ⟨_, .inr rfl, hk⟩
          · exact ⟨e, .inl he, hk⟩
        · rintro ⟨e, he | rfl, hk⟩
          · exact .inr ⟨e, he, hk⟩
          · exact .inl hk }

theorem size_le_insert (t : Table) (n : Node) (parent : Nat) (h : parent < t.size) :
    t.size ≤ (t.insert n parent h).size := by
  unfold insert
  split
  · exact Nat.le_refl _
  · simp [size]

/-- The nodes on the way from the first one to the one at a place, along the links. -/
def path (t : Table) (i : Nat) : List Node :=
  if h : i < t.entries.size then
    match hp : t.entries[i].parent with
    | none => [t.entries[i].node]
    | some p => t.path p ++ [t.entries[i].node]
  else []
termination_by i
decreasing_by exact t.earlier i h p hp

/-- The moves on a way. -/
def moves (way : List Node) : List Direction := way.filterMap Node.via

/-- What comes of a node that is gone on with: a larger table, or the way to a win. -/
inductive Outcome
  | goOn (table : Table)
  | found (way : List Node)

/-- Takes in the successors of the node at a place, one after another, up to the first win. -/
def absorb (i : Nat) : List Node → (t : Table) → i < t.size → Outcome
  | [], t, _ => .goOn t
  | n :: rest, t, h =>
    if n.game.playState = .won then .found (t.path i ++ [n])
    else absorb i rest (t.insert n i h) (Nat.lt_of_lt_of_le h (t.size_le_insert n i h))

end Table

/-! ### Going on -/

/-- What a search came to: the moves to a win, if one was found, and the number of nodes gone on
with. -/
structure Result where
  moves? : Option (List Direction)
  expanded : Nat
  deriving DecidableEq

/-- How far a search has come: the table, the place of the next node to go on with, and the number
of nodes gone on with. -/
structure Progress where
  table : Table
  next : Nat
  expanded : Nat

/-- A search that goes on, or that has come to its result. -/
inductive Step
  | goOn (progress : Progress)
  | done (result : Result)

namespace Progress

/-- The search before its first step. -/
def start (g : Game) : Progress := ⟨.start (.start g), 0, 0⟩

/-- Whether a node is passed over: its play has ended, or one of the limits is reached. -/
def passes (s : Progress) (limits : SearchLimits) (n : Node) : Bool :=
  n.game.isFinished || limits.maxMoves ≤ n.depth || limits.maxStates ≤ s.expanded

/-- A node is gone on with when its play has not ended and neither limit is reached. -/
theorem passes_eq_false_iff {s : Progress} {limits : SearchLimits} {n : Node} :
    s.passes limits n = false ↔
      n.game.playState = .playing ∧ n.depth < limits.maxMoves ∧ s.expanded < limits.maxStates := by
  rw [passes, Bool.or_eq_false_iff, Bool.or_eq_false_iff, Game.isFinished,
    PlayState.isFinished_eq_false_iff, decide_eq_false_iff_not, decide_eq_false_iff_not,
    Nat.not_le, Nat.not_le, and_assoc]

/-- Goes on with the next node, or passes over it. -/
def step (limits : SearchLimits) (s : Progress) (h : s.next < s.table.size) :
    Except Overflow Step :=
  if s.passes limits s.table.entries[s.next].node then .ok (.goOn { s with next := s.next + 1 })
  else do
    let nodes ← s.table.entries[s.next].node.successors
    match s.table.absorb s.next nodes h with
    | .goOn table => return .goOn ⟨table, s.next + 1, s.expanded + 1⟩
    | .found way => return .done ⟨some (Table.moves way), s.expanded + 1⟩

/-- What a step can do: it passes over the next node, or takes in its successors, or finds a win
among them. -/
theorem step_cases {limits : SearchLimits} {s : Progress} {h : s.next < s.table.size} {next : Step}
    (hs : s.step limits h = .ok next) :
    (s.passes limits s.table.entries[s.next].node = true ∧
        next = .goOn { s with next := s.next + 1 }) ∨
      (s.passes limits s.table.entries[s.next].node = false ∧
        ∃ nodes, s.table.entries[s.next].node.successors = .ok nodes ∧
          ((∃ table, s.table.absorb s.next nodes h = .goOn table ∧
              next = .goOn ⟨table, s.next + 1, s.expanded + 1⟩) ∨
            ∃ way, s.table.absorb s.next nodes h = .found way ∧
              next = .done ⟨some (Table.moves way), s.expanded + 1⟩)) := by
  unfold step at hs
  split at hs
  · rename_i hp
    cases hs
    exact .inl ⟨hp, rfl⟩
  · rename_i hp
    rw [Bool.not_eq_true] at hp
    cases hn : s.table.entries[s.next].node.successors with
    | error fault =>
      rw [hn] at hs
      cases hs
    | ok nodes =>
      rw [hn] at hs
      simp only [bind, Except.bind, pure, Except.pure] at hs
      split at hs
      · rename_i table ht
        cases hs
        exact .inr ⟨hp, nodes, rfl, .inl ⟨table, ht, rfl⟩⟩
      · rename_i way ht
        cases hs
        exact .inr ⟨hp, nodes, rfl, .inr ⟨way, ht, rfl⟩⟩

/-- A step uses up a node of the table, or one of the nodes that may be gone on with. -/
theorem measure_step {limits : SearchLimits} {s s' : Progress} {h : s.next < s.table.size}
    (hs : s.step limits h = .ok (.goOn s')) :
    Prod.Lex (· < ·) (· < ·) (limits.maxStates - s'.expanded, s'.table.size - s'.next)
      (limits.maxStates - s.expanded, s.table.size - s.next) := by
  obtain ⟨_, heq⟩ | ⟨hp, nodes, _, ⟨table, _, heq⟩ | ⟨way, _, heq⟩⟩ := step_cases hs
  · cases heq
    exact .right _ (by dsimp only; omega)
  · cases heq
    obtain ⟨_, _, hexp⟩ := passes_eq_false_iff.1 hp
    exact .left _ _ (by dsimp only; omega)
  · cases heq

end Progress

/-- Goes on with one node after another, in the order of the table. -/
def run (limits : SearchLimits) (s : Progress) : Except Overflow Result :=
  if h : s.next < s.table.size then
    match _hs : s.step limits h with
    | .error fault => .error fault
    | .ok (.done result) => .ok result
    | .ok (.goOn s') => run limits s'
  else .ok ⟨none, s.expanded⟩
termination_by (limits.maxStates - s.expanded, s.table.size - s.next)
decreasing_by exact Progress.measure_step _hs

end Search

namespace Game

/-- **The search for a shortest win** within limits. -/
def search (g : Game) (limits : SearchLimits) : Except Overflow Search.Result :=
  if g.playState = .won then .ok ⟨some [], 0⟩ else Search.run limits (.start g)

/-- The moves of a shortest win, if the search finds one. -/
def solve (g : Game) (limits : SearchLimits) : Except Overflow (Option (List Direction)) := do
  return (← g.search limits).moves?

end Game

end RuleTiles
