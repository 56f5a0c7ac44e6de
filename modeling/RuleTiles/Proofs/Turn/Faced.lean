/-
**Boards on which every object has a facing.**

A facing is lost by no change that a turn makes.  What steps or is pushed is set down with a
facing; what turns into something else hands its facing on; and an object that is set down on
another of its kind leaves it a facing.  So if every object of a board has a facing, this stays so,
and no object is ever met for which a facing has to be drawn.

Main definitions:

* `RuleTiles.Grid.Faced` — every object of a board has a facing.

Main results:

* `RuleTiles.Grid.faced_iff` — the same, entry by entry;
* `RuleTiles.Grid.Faced.resolve` — **a turn leaves every object with a facing**;
* `RuleTiles.Grid.Faced.resolve_eq` — the generator has no part in the turn of such a board.
-/

import RuleTiles.Proofs.Board.Facings
import RuleTiles.Proofs.Turn.Chance
import RuleTiles.Proofs.Turn.Cleared
import RuleTiles.Proofs.Turn.Words

set_option relaxedAutoImplicit false
set_option autoImplicit false

namespace RuleTiles

namespace Grid

/-- Every object of a board has a facing. -/
def Faced (g : Grid) : Prop := ∀ o ∈ g.objects, g.isUnfaced o = false

instance (g : Grid) : Decidable g.Faced :=
  inferInstanceAs (Decidable (∀ o ∈ g.objects, g.isUnfaced o = false))

/-- No entry of the board is one without a facing. -/
theorem faced_iff {g : Grid} : g.Faced ↔ ∀ q k, (g.cell q).get? k ≠ some none := by
  constructor
  · intro h q k hget
    have hobject : (⟨q, k⟩ : Object) ∈ g.objects := by
      rw [mem_objects, Cell.mem_kinds, hget]
      rfl
    have hfaced := h _ hobject
    simp [isUnfaced, Cell.facing, hget] at hfaced
  · intro h o ho
    obtain ⟨facing, hget⟩ := Option.isSome_iff_exists.1 (Cell.mem_kinds.1 (mem_objects.1 ho))
    cases facing with
    | none => exact absurd hget (h o.pos o.kind)
    | some d => simp [isUnfaced, Cell.facing, hget]

variable {g : Grid}

/-- On such a board an object that is there faces somewhere. -/
theorem Faced.isSome_facing (h : g.Faced) {o : Object} (ho : o ∈ g.objects) :
    ((g.cell o.pos).facing o.kind).isSome = true := by
  have hfaced := h o ho
  rw [isUnfaced, decide_eq_false_iff_not] at hfaced
  exact Option.isSome_iff_ne_none.2 hfaced

/-! ### Changes of cells -/

theorem Faced.turn (h : g.Faced) (o : Object) (d : Direction) : (g.turn o d).Faced := by
  rw [faced_iff] at h ⊢
  intro q k
  rw [get?_turn]
  split
  · cases (g.cell q).get? k with
    | none => simp
    | some facing => simp
  · exact h q k

theorem Faced.take (h : g.Faced) (o : Object) : (g.take o).Faced := by
  rw [faced_iff] at h ⊢
  intro q k
  rw [get?_take]
  split
  · simp
  · exact h q k

theorem Faced.put (h : g.Faced) (p : Position) (k : Kind) {facing : Option Direction}
    (hfacing : facing.isSome = true) : (g.put p k facing).Faced := by
  obtain ⟨d, rfl⟩ := Option.isSome_iff_exists.1 hfacing
  rw [faced_iff] at h ⊢
  intro q x
  rw [get?_put]
  split
  · simp
  · exact h q x

theorem Faced.takeAll (h : g.Faced) (objects : List Object) : (g.takeAll objects).Faced :=
  List.foldlRecOn objects _ h fun _ hg o _ => hg.take o

/-- Objects that are set down with a facing leave every object with one. -/
theorem Faced.putAll {α : Type} (h : g.Faced) (l : List α) (pos : α → Position) (kind : α → Kind)
    (facing : α → Option Direction) (hfacing : ∀ a ∈ l, (facing a).isSome = true) :
    (l.foldl (fun g a => g.put (pos a) (kind a) (facing a)) g).Faced :=
  List.foldlRecOn l _ h fun _ hg a ha => hg.put (pos a) (kind a) (hfacing a ha)

/-! ### The phases of a turn -/

theorem Faced.carryOut (h : g.Faced) (plan : Plan) : (g.carryOut plan).Faced :=
  (h.takeAll plan.keys).putAll _ _ _ _ fun _ _ => rfl

theorem Faced.moveYou (h : g.Faced) (rules : RuleSet) (d : Direction) :
    (g.moveYou rules d).1.Faced := by
  rw [moveYou_eq]
  refine Faced.carryOut ?_ _
  exact List.foldlRecOn (g.having rules .you) _ h fun _ hg o _ => hg.turn o d

theorem Faced.moveWalkers (h : g.Faced) (rules : RuleSet) (gen : Generator) :
    (g.moveWalkers rules gen).1.Faced := by
  rw [moveWalkers_eq]
  refine Faced.carryOut ?_ _
  exact List.foldlRecOn (g.headings rules (g.having rules .move) gen).1 _ h
    fun _ hg x _ => hg.turn x.object x.direction

theorem Faced.afterMovement (h : g.Faced) (rules : RuleSet) (d : Direction) (gen : Generator) :
    (g.afterMovement rules d gen).1.Faced :=
  (h.moveYou rules d).moveWalkers rules gen

theorem Faced.applyChanges (h : g.Faced) {changes : List Change}
    (hfacing : ∀ c ∈ changes, c.facing.isSome = true) : (g.applyChanges changes).Faced :=
  (h.takeAll _).putAll changes Change.pos Change.target Change.facing hfacing

/-- What turns into something else hands on the facing it has. -/
theorem Faced.transform (h : g.Faced) (rules : RuleSet) : (g.transform rules).1.Faced := by
  refine h.applyChanges fun c hc => ?_
  have hfacing := h.isSome_facing (source_mem_objects hc)
  rwa [← (mem_changes.1 hc).2.2] at hfacing

theorem Faced.destroy (h : g.Faced) (cause : Property) (doomed : List Object) :
    (g.destroy cause doomed).1.Faced :=
  h.takeAll doomed

theorem Faced.afterEffects (h : g.Faced) (rules : RuleSet) : (g.afterEffects rules).1.Faced :=
  (((h.transform rules).destroy .defeat _).destroy .sink _).destroy .hot _

/-- **A turn leaves every object with a facing.** -/
theorem Faced.resolve (h : g.Faced) (rules : RuleSet) (d : Direction) (gen : Generator) :
    (g.resolve rules d gen).grid.Faced := by
  rw [grid_resolve]
  exact (h.afterMovement rules d gen).afterEffects _

/-! ### Turns without chance -/

/-- No facing has to be drawn for an object that has one. -/
theorem Faced.unfaced_eq_nil (h : g.Faced) (rules : RuleSet) : g.unfaced rules = [] := by
  refine List.filter_eq_nil_iff.2 fun o ho => ?_
  rw [h o (mem_having.1 ho).1]
  exact Bool.false_ne_true

/-- The generator has no part in the turn of a board on which every object has a facing. -/
theorem Faced.resolve_eq (h : g.Faced) (rules : RuleSet) (d : Direction) (gen gen' : Generator) :
    (g.resolve rules d gen).grid = (g.resolve rules d gen').grid ∧
      (g.resolve rules d gen).report = (g.resolve rules d gen').report := by
  have hnone := (h.moveYou rules d).unfaced_eq_nil rules
  refine resolve_eq_of_choices_eq ?_
  rw [choices_eq_nil hnone, choices_eq_nil hnone]

end Grid

end RuleTiles
