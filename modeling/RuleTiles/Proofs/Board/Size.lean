/-
**A board keeps its size.**

Every phase of a turn changes a board cell by cell, and a change of one cell leaves the sides of
the board as they are.  So a board has the same sides after any number of turns, and a game in which
the board has the size it had at the start stays one.

Main definitions:

* `RuleTiles.Grid.SameSize` — two boards have the same sides.

Main results:

* `RuleTiles.Grid.sameSize_foldl` — changes one after another keep the size when each of them does;
* `RuleTiles.Grid.sameSize_resolve` — **a turn keeps the size of the board**;
* `RuleTiles.Game.keepsSize_of_move` — so do moves.
-/

import RuleTiles.Proofs.Play.Run
import RuleTiles.Record.Snapshot

set_option relaxedAutoImplicit false
set_option autoImplicit false

namespace RuleTiles

namespace Grid

/-- Two boards have the same sides. -/
structure SameSize (g h : Grid) : Prop where
  width : g.width = h.width
  height : g.height = h.height

theorem SameSize.refl (g : Grid) : SameSize g g := ⟨rfl, rfl⟩

theorem SameSize.trans {g h i : Grid} (h₁ : SameSize g h) (h₂ : SameSize h i) : SameSize g i :=
  ⟨h₁.width.trans h₂.width, h₁.height.trans h₂.height⟩

/-- Boards of the same size have the same positions. -/
theorem SameSize.contains {g h : Grid} (hgh : SameSize g h) (p : Position) :
    g.contains p = h.contains p := by
  simp only [Grid.contains, hgh.width, hgh.height]

/-! ### Changes of cells -/

theorem sameSize_modify (g : Grid) (p : Position) (f : Cell → Cell) :
    SameSize g (g.modify p f) :=
  ⟨(width_modify g p f).symm, (height_modify g p f).symm⟩

theorem sameSize_take (g : Grid) (o : Object) : SameSize g (g.take o) := sameSize_modify g o.pos _

theorem sameSize_put (g : Grid) (p : Position) (k : Kind) (facing : Option Direction) :
    SameSize g (g.put p k facing) :=
  sameSize_modify g p _

theorem sameSize_turn (g : Grid) (o : Object) (d : Direction) : SameSize g (g.turn o d) :=
  sameSize_modify g o.pos _

/-- Changes one after another keep the size of a board when each of them does. -/
theorem sameSize_foldl {α : Type} {change : Grid → α → Grid}
    (h : ∀ g a, SameSize g (change g a)) (l : List α) (g : Grid) :
    SameSize g (l.foldl change g) := by
  induction l generalizing g with
  | nil => exact .refl g
  | cons a l ih => exact (h g a).trans (ih (change g a))

theorem sameSize_takeAll (g : Grid) (objects : List Object) : SameSize g (g.takeAll objects) :=
  sameSize_foldl sameSize_take objects g

/-! ### The phases of a turn -/

theorem sameSize_carryOut (g : Grid) (plan : Plan) : SameSize g (g.carryOut plan) :=
  (sameSize_takeAll g plan.keys).trans (sameSize_foldl (fun g _ => sameSize_put g _ _ _) _ _)

theorem sameSize_moveYou (g : Grid) (rules : RuleSet) (d : Direction) :
    SameSize g (g.moveYou rules d).1 :=
  (sameSize_foldl (fun g o => sameSize_turn g o d) _ g).trans (sameSize_carryOut _ _)

theorem sameSize_moveWalkers (g : Grid) (rules : RuleSet) (gen : Generator) :
    SameSize g (g.moveWalkers rules gen).1 := by
  unfold moveWalkers
  -- how the headings come about does not matter
  generalize g.headings rules (g.having rules .move) gen = headings
  dsimp only
  refine SameSize.trans ?_ (sameSize_carryOut _ _)
  exact sameSize_foldl (fun g x => sameSize_turn g x.object x.direction) headings.1 g

theorem sameSize_afterMovement (g : Grid) (rules : RuleSet) (d : Direction) (gen : Generator) :
    SameSize g (g.afterMovement rules d gen).1 :=
  (sameSize_moveYou g rules d).trans (sameSize_moveWalkers _ rules gen)

theorem sameSize_transform (g : Grid) (rules : RuleSet) : SameSize g (g.transform rules).1 :=
  (sameSize_takeAll g _).trans (sameSize_foldl (fun g _ => sameSize_put g _ _ _) _ _)

theorem SameSize.destroy {g h : Grid} (hgh : SameSize g h) (cause : Property)
    (doomed : List Object) : SameSize g (h.destroy cause doomed).1 :=
  hgh.trans (sameSize_takeAll h doomed)

theorem sameSize_afterEffects (g : Grid) (rules : RuleSet) :
    SameSize g (g.afterEffects rules).1 :=
  (((sameSize_transform g rules).destroy .defeat _).destroy .sink _).destroy .hot _

/-- **A turn keeps the size of the board.** -/
theorem sameSize_resolve (g : Grid) (rules : RuleSet) (d : Direction) (gen : Generator) :
    SameSize g (g.resolve rules d gen).grid := by
  rw [grid_resolve]
  exact (sameSize_afterMovement g rules d gen).trans (sameSize_afterEffects _ _)

end Grid

/-! ### Moves -/

namespace Game

theorem keepsSize_iff {g : Game} : g.keepsSize = true ↔ g.initialGrid.SameSize g.grid := by
  simp only [keepsSize, Bool.and_eq_true, decide_eq_true_eq]
  exact ⟨fun h => ⟨h.1, h.2⟩, fun h => ⟨h.width, h.height⟩⟩

@[simp] theorem keepsSize_start (grid : Grid) (seed : UInt64) :
    (start grid seed).keepsSize = true :=
  keepsSize_iff.2 (.refl grid)

@[simp] theorem initialGrid_advance (g : Game) (d : Direction) :
    (g.advance d).1.initialGrid = g.initialGrid := by
  simp only [advance]

theorem keepsSize_advance {g : Game} (h : g.keepsSize = true) (d : Direction) :
    (g.advance d).1.keepsSize = true := by
  rw [keepsSize_iff] at h ⊢
  rw [grid_advance, initialGrid_advance]
  exact h.trans (Grid.sameSize_resolve g.grid g.rules d _)

theorem keepsSize_of_move {g after : Game} {d : Direction} {report : Report}
    (h : g.keepsSize = true) (hmove : g.move d = .ok (after, report)) :
    after.keepsSize = true := by
  rcases move_cases hmove with ⟨_, rfl, _⟩ | ⟨_, _, rfl, _⟩
  · exact h
  · exact keepsSize_advance h d

end Game

end RuleTiles
