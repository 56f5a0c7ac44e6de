/-
**How many objects of a kind there are.**

The objects of a board are listed once each.  So when one board comes from another by moving
objects, the objects of a kind can be counted by the place that they come to, and as a cell holds a
kind at most once, of those that come to one place one is left.

Main definitions:

* `RuleTiles.Grid.number` — the number of objects of a kind;
* `RuleTiles.Plan.target` — where a plan brings an object.

Main results:

* `RuleTiles.Grid.nodup_positions`, `RuleTiles.Grid.nodup_objects` — positions and objects are
  listed once each;
* `RuleTiles.Grid.number_add_merged` — moving objects loses those that come to one place but for
  one;
* `RuleTiles.Grid.mem_objects_carryOut` — **carrying out a plan brings every object to its
  target**.
-/

import Mathlib.Algebra.BigOperators.Group.List.Basic
import Mathlib.Data.List.Nodup
import RuleTiles.Proofs.Board.Facings

set_option relaxedAutoImplicit false
set_option autoImplicit false

namespace RuleTiles

namespace Grid

/-! ### Lists without repetition -/

/-- The positions of a board are listed once each. -/
theorem nodup_positions (g : Grid) : g.positions.Nodup :=
  g.ascending_positions.imp Ascending.ne_of_lt

/-- The objects of a board are listed once each. -/
theorem nodup_objects (g : Grid) : g.objects.Nodup :=
  g.ascending_objects.imp Ascending.ne_of_lt

/-- So are the objects that have a property. -/
theorem nodup_having (g : Grid) (rules : RuleSet) (p : Property) : (g.having rules p).Nodup := by
  rw [having_eq]
  exact g.nodup_objects.filter _

/-! ### Numbers of objects -/

/-- The number of objects of a kind on a board. -/
def number (g : Grid) (k : Kind) : Nat := g.objects.countP fun o => o.kind = k

/-- What passes a test is counted one by one. -/
theorem countP_eq_sum {α : Type} (l : List α) (test : α → Bool) :
    l.countP test = (l.map fun a => if test a then 1 else 0).sum := by
  induction l with
  | nil => rfl
  | cons a l ih => rw [List.countP_cons, List.map_cons, List.sum_cons, ih, Nat.add_comm]

/-- The number of objects of a kind is that of the cells that hold it. -/
theorem number_eq_sum (g : Grid) (k : Kind) :
    g.number k = (g.positions.map fun q => if k ∈ (g.cell q).kinds then 1 else 0).sum := by
  rw [number, objects, List.countP_flatMap]
  refine congrArg _ (List.map_congr_left fun q _ => ?_)
  have hnodup : (g.cell q).kinds.Nodup := (g.cell q).contents.nodup_keys
  rw [Function.comp_apply, List.countP_map, ← hnodup.count, List.count_eq_countP]
  exact List.countP_congr fun k' _ => by simp

/-- What goes to places of a list that names each place once is counted place by place. -/
theorem length_eq_sum_countP {α : Type} {ps : List Position} (hps : ps.Nodup) {l : List α}
    {place : α → Position} (h : ∀ a ∈ l, place a ∈ ps) :
    l.length = (ps.map fun q => l.countP fun a => place a = q).sum := by
  induction l with
  | nil => simp
  | cons a l ih =>
      obtain ⟨ha, hl⟩ := List.forall_mem_cons.1 h
      have hone : (ps.map fun q => if decide (place a = q) = true then 1 else 0).sum = 1 := by
        rw [← countP_eq_sum, ← List.count_eq_one_of_mem hps ha, List.count_eq_countP]
        exact List.countP_congr fun q _ => by rw [decide_eq_true_eq, beq_iff_eq, eq_comm]
      simp only [List.countP_cons, List.sum_map_add, hone, List.length_cons, ih hl]

/-- **Moving objects loses those that come to one place but for one.**  The number of objects of a
kind after the move, and for each place the number of those that came there less one, make up the
number before. -/
theorem number_add_merged {g h : Grid} {k : Kind} (move : Object → Object)
    (hkind : ∀ o, (move o).kind = o.kind)
    (hmem : ∀ o, o ∈ h.objects ↔ ∃ o' ∈ g.objects, move o' = o) :
    h.number k + (h.positions.map fun q =>
      (g.objects.countP fun o => move o = ⟨q, k⟩) - 1).sum = g.number k := by
  have hplaces : ∀ o ∈ g.objects.filter (fun o => o.kind = k), (move o).pos ∈ h.positions := by
    intro o ho
    have hmoved := (hmem (move o)).2 ⟨o, (List.mem_filter.1 ho).1, rfl⟩
    exact mem_positions.2 (contains_of_mem_kinds (mem_objects.1 hmoved))
  rw [number_eq_sum h, ← List.sum_map_add, number, List.countP_eq_length_filter,
    length_eq_sum_countP h.nodup_positions hplaces]
  refine congrArg _ (List.map_congr_left fun q _ => ?_)
  have hcount : (g.objects.filter fun o => o.kind = k).countP (fun o => (move o).pos = q) =
      g.objects.countP fun o => move o = ⟨q, k⟩ := by
    rw [List.countP_filter]
    refine List.countP_congr fun o _ => ?_
    simp [Object.ext_iff, hkind]
  have hheld : k ∈ (h.cell q).kinds ↔ 0 < g.objects.countP fun o => move o = ⟨q, k⟩ := by
    rw [List.countP_pos_iff]
    simpa using (mem_objects (o := ⟨q, k⟩)).symm.trans (hmem ⟨q, k⟩)
  rw [hcount]
  split
  · rename_i hk
    have := hheld.1 hk
    omega
  · rename_i hk
    have := mt hheld.2 hk
    omega

end Grid

/-! ### Targets -/

/-- Where a plan brings an object: one cell further on, if it is planned. -/
def Plan.target (plan : Plan) (o : Object) : Object :=
  match plan.get? o with
  | some d => ⟨o.pos.step d, o.kind⟩
  | none => o

@[simp] theorem Plan.kind_target (plan : Plan) (o : Object) : (plan.target o).kind = o.kind := by
  unfold Plan.target
  split
  · rfl
  · rfl

namespace Grid

/-- **Carrying out a plan brings every object to its target**, and puts nothing else on the board.
-/
theorem mem_objects_carryOut {g : Grid} {plan : Plan}
    (hplan : ∀ e ∈ plan.entries, e.1 ∈ g.objects ∧ g.contains (e.1.pos.step e.2) = true)
    {o : Object} :
    o ∈ (g.carryOut plan).objects ↔ ∃ o' ∈ g.objects, plan.target o' = o := by
  obtain ⟨q, k⟩ := o
  rw [mem_objects, carryOut]
  refine (mem_kinds_putAll plan.entries (fun e => e.1.pos.step e.2) (fun e => e.1.kind)
    fun e => some e.2).trans ?_
  rw [mem_kinds_takeAll, contains_takeAll]
  constructor
  · rintro (⟨hk, hfree⟩ | ⟨e, he, rfl, rfl, _⟩)
    · refine ⟨⟨q, k⟩, mem_objects.2 hk, ?_⟩
      rw [SortedMap.mem_keys, Bool.not_eq_true, Option.isSome_eq_false_iff,
        Option.isNone_iff_eq_none] at hfree
      rw [Plan.target, hfree]
    · refine ⟨e.1, (hplan e he).1, ?_⟩
      rw [Plan.target, SortedMap.get?_eq_some_iff.2 he]
  · rintro ⟨o', ho', htarget⟩
    cases hget : plan.get? o' with
    | none =>
        rw [Plan.target, hget] at htarget
        subst htarget
        refine .inl ⟨mem_objects.1 ho', ?_⟩
        rw [SortedMap.mem_keys, hget]
        exact Bool.false_ne_true
    | some d =>
        rw [Plan.target, hget] at htarget
        cases htarget
        have he := SortedMap.get?_eq_some_iff.1 hget
        have hk := mem_objects.1 ho'
        exact .inr ⟨(o', d), he, rfl, rfl, (hplan _ he).2, Cell.isPlaceable_of_mem_kinds hk⟩

end Grid

end RuleTiles
