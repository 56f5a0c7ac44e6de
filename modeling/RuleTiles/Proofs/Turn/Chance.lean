/-
**The part of chance in a turn.**

The generator is asked in one place of a turn only: for the facings of the MOVE objects that have
never faced anywhere, on the board on which the YOU objects have moved.  All that a turn leaves
behind, the next seed apart, follows from the board, the rules and the headings that these objects
come to.

Main definitions:

* `RuleTiles.Grid.unfaced` — the MOVE objects without a facing;
* `RuleTiles.Grid.choices` — the headings that they come to.

Main results:

* `RuleTiles.Grid.headings_eq_of_choices_eq` — equal choices give equal headings;
* `RuleTiles.Grid.resolve_eq_of_choices_eq` — **equal choices give equal turns**.
-/

import RuleTiles.Proofs.Turn.Planned

set_option relaxedAutoImplicit false
set_option autoImplicit false

namespace RuleTiles

namespace Grid

/-! ### Headings that are left to chance -/

/-- Whether an object of the board has never faced anywhere. -/
def isUnfaced (g : Grid) (o : Object) : Bool := (g.cell o.pos).facing o.kind = none

/-- The MOVE objects that have never faced anywhere. -/
def unfaced (g : Grid) (rules : RuleSet) : List Object := (g.having rules .move).filter g.isUnfaced

/-- The headings of the MOVE objects that have never faced anywhere, with the facings drawn for
them. -/
def choices (g : Grid) (rules : RuleSet) (gen : Generator) : List Heading :=
  (g.headings rules (g.having rules .move) gen).1.filter fun x => g.isUnfaced x.object

section

variable {g : Grid} {rules : RuleSet} {gen gen' : Generator}

/-- No facing is drawn for an object that has one. -/
theorem heading_of_faced (rules : RuleSet) {o : Object} (h : g.isUnfaced o = false)
    (gen gen' : Generator) :
    (g.heading rules o gen).1 = (g.heading rules o gen').1 ∧ (g.heading rules o gen).2 = gen := by
  cases hf : (g.cell o.pos).facing o.kind with
  | none => simp [isUnfaced, hf] at h
  | some d =>
      rw [heading_of_facing_eq_some hf, heading_of_facing_eq_some hf]
      exact ⟨rfl, rfl⟩

/-- Headings are equal when those left to chance are. -/
theorem headings_eq_of_filter_eq {objects : List Object}
    (h : (g.headings rules objects gen).1.filter (fun x => g.isUnfaced x.object) =
      (g.headings rules objects gen').1.filter (fun x => g.isUnfaced x.object)) :
    (g.headings rules objects gen).1 = (g.headings rules objects gen').1 := by
  induction objects generalizing gen gen' with
  | nil => rfl
  | cons o rest ih =>
      simp only [headings_cons, List.filter_cons, object_heading] at h ⊢
      cases ho : g.isUnfaced o with
      | false =>
          -- the first heading asks nothing of the generator, so the others ask it the same
          obtain ⟨hfirst, hgen⟩ := heading_of_faced rules ho gen gen'
          obtain ⟨_, hgen'⟩ := heading_of_faced rules ho gen' gen
          rw [ho, hgen, hgen'] at h
          rw [hfirst, hgen, hgen', ih h]
      | true =>
          rw [ho] at h
          obtain ⟨hfirst, hrest⟩ := List.cons.inj h
          rw [hfirst, ih hrest]

theorem headings_eq_of_choices_eq (h : g.choices rules gen = g.choices rules gen') :
    (g.headings rules (g.having rules .move) gen).1 =
      (g.headings rules (g.having rules .move) gen').1 :=
  headings_eq_of_filter_eq h

/-- Nothing is left to chance when every MOVE object has a facing. -/
theorem choices_eq_nil (h : g.unfaced rules = []) : g.choices rules gen = [] := by
  unfold choices
  rw [List.filter_eq_nil_iff]
  intro x hx hunfaced
  have hmem : x.object ∈ g.unfaced rules :=
    List.mem_filter.2 ⟨object_mem_of_mem_headings hx, hunfaced⟩
  rw [h] at hmem
  cases hmem

end

/-! ### Turns -/

section

variable {g : Grid} {rules : RuleSet} {d : Direction} {gen gen' : Generator}

theorem afterMovement_eq_of_choices_eq
    (h : (g.moveYou rules d).1.choices rules gen = (g.moveYou rules d).1.choices rules gen') :
    (g.afterMovement rules d gen).1 = (g.afterMovement rules d gen').1 ∧
      (g.afterMovement rules d gen).2.1 = (g.afterMovement rules d gen').2.1 := by
  have hheadings := headings_eq_of_choices_eq h
  simp only [afterMovement, moveWalkers, hheadings, and_self]

/-- **Equal choices give equal turns**, up to the next seed. -/
theorem resolve_eq_of_choices_eq
    (h : (g.moveYou rules d).1.choices rules gen = (g.moveYou rules d).1.choices rules gen') :
    (g.resolve rules d gen).grid = (g.resolve rules d gen').grid ∧
      (g.resolve rules d gen).report = (g.resolve rules d gen').report := by
  obtain ⟨hmoved, hevents⟩ := afterMovement_eq_of_choices_eq h
  have hsettled : g.settled rules d gen = g.settled rules d gen' := by
    unfold settled
    rw [hmoved]
  rw [grid_resolve, grid_resolve, report_resolve, report_resolve, hsettled, hevents]
  exact ⟨rfl, rfl⟩

end

end Grid

end RuleTiles
