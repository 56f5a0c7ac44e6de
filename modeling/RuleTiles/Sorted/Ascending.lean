/-
**Ascending lists are determined by their elements.**

Sets and maps are kept as lists in strictly ascending order.  This module holds the fact about
such lists that makes equality of sets and maps a matter of their members.

Main results:

* `RuleTiles.Ascending.eq_of_mem_iff` — two lists, each in ascending order of one asymmetric
  relation, are equal when they have the same elements.
-/

set_option relaxedAutoImplicit false
set_option autoImplicit false

namespace RuleTiles.Ascending

variable {α : Type}

/-- A comparison that is strictly less is not so the other way round. -/
theorem asymm [Ord α] [Std.OrientedOrd α] {a b : α} (h : compare a b = .lt) :
    ¬compare b a = .lt := by
  rw [← Std.OrientedCmp.gt_iff_lt, h]
  exact fun h => by cases h

/-- What comes before something else is different from it. -/
theorem ne_of_lt [Ord α] [Std.ReflOrd α] {a b : α} (h : compare a b = .lt) : a ≠ b := by
  rintro rfl
  rw [Std.ReflOrd.compare_self] at h
  cases h

/-- **Two lists in ascending order of an asymmetric relation are equal when they have the same
elements.** -/
theorem eq_of_mem_iff {less : α → α → Prop} (asymm : ∀ {a b}, less a b → ¬less b a)
    {l m : List α} (hl : l.Pairwise less) (hm : m.Pairwise less) (h : ∀ x, x ∈ l ↔ x ∈ m) :
    l = m := by
  have irrefl : ∀ {a}, ¬less a a := fun h => asymm h h
  induction l generalizing m with
  | nil =>
    cases m with
    | nil => rfl
    | cons b m => exact absurd ((h b).2 (List.mem_cons_self ..)) (by simp)
  | cons a l ih =>
    cases m with
    | nil => exact absurd ((h a).1 (List.mem_cons_self ..)) (by simp)
    | cons b m =>
      obtain ⟨ha, hl'⟩ := List.pairwise_cons.1 hl
      obtain ⟨hb, hm'⟩ := List.pairwise_cons.1 hm
      -- each head is in the other list, and stands before all that follows its own head
      have hab : a = b := by
        rcases List.mem_cons.1 ((h a).1 (List.mem_cons_self ..)) with hab | hab
        · exact hab
        · rcases List.mem_cons.1 ((h b).2 (List.mem_cons_self ..)) with hba | hba
          · exact hba.symm
          · exact absurd (ha b hba) (asymm (hb a hab))
      subst hab
      -- the head is in neither tail, so the tails have the same elements too
      refine congrArg (a :: ·) (ih hl' hm' fun x => ?_)
      have hx := h x
      simp only [List.mem_cons] at hx
      constructor
      · intro hxl
        rcases hx.1 (.inr hxl) with rfl | hxm
        · exact absurd (ha x hxl) irrefl
        · exact hxm
      · intro hxm
        rcases hx.2 (.inr hxm) with rfl | hxl
        · exact absurd (hb x hxm) irrefl
        · exact hxl

end RuleTiles.Ascending
