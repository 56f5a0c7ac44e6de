/-
**Results that may fail.**

Many functions give a result or a fault, and they are put together so that the first fault ends the
whole.  So the whole gives a result just when each of its parts does.  This module says so for one
step after another and for the elements of a list, whose results are related to them one by one.

Main results:

* `RuleTiles.bind_eq_ok_iff` — one step after another;
* `RuleTiles.mapM_eq_ok_iff` — **the elements of a list, one by one**;
* `RuleTiles.exists_forall₂_iff` — every element is related to something just when the list is
  related to a list.
-/

import Mathlib.Data.List.Forall2

set_option relaxedAutoImplicit false
set_option autoImplicit false

namespace RuleTiles

variable {α β γ ε : Type}

/-! ### Lists that are related one by one -/

theorem forall₂_congr_of_mem {R S : α → β → Prop} {l : List α} {m : List β}
    (h : ∀ a ∈ l, ∀ b, R a b ↔ S a b) : List.Forall₂ R l m ↔ List.Forall₂ S l m := by
  constructor
  · intro hR
    exact ((List.forall₂_and_left l m).2 ⟨h, hR⟩).imp fun a b hab => (hab.1 b).1 hab.2
  · intro hS
    exact ((List.forall₂_and_left l m).2 ⟨h, hS⟩).imp fun a b hab => (hab.1 b).2 hab.2

/-- What is made of things that are related one by one is made of a list of such things. -/
theorem forall₂_exists_eq_iff {R : α → β → Prop} {f : β → γ} {l : List α} {m : List γ} :
    List.Forall₂ (fun a c => ∃ b, R a b ∧ c = f b) l m ↔
      ∃ bs, List.Forall₂ R l bs ∧ m = bs.map f := by
  constructor
  · intro h
    induction h with
    | nil => exact ⟨[], .nil, rfl⟩
    | cons hab _ ih =>
        obtain ⟨b, hb, rfl⟩ := hab
        obtain ⟨bs, hbs, rfl⟩ := ih
        exact ⟨b :: bs, .cons hb hbs, rfl⟩
  · rintro ⟨bs, hbs, rfl⟩
    rw [List.forall₂_map_right_iff]
    exact hbs.imp fun a b hab => ⟨b, hab, rfl⟩

/-- Every element is related to something just when the list is related to a list. -/
theorem exists_forall₂_iff {R : α → β → Prop} {l : List α} :
    (∃ m, List.Forall₂ R l m) ↔ ∀ a ∈ l, ∃ b, R a b := by
  constructor
  · rintro ⟨m, h⟩
    exact ((List.forall₂_and_left l m).1 (h.imp fun a b hab => ⟨⟨b, hab⟩, hab⟩)).1
  · intro h
    induction l with
    | nil => exact ⟨[], .nil⟩
    | cons a l ih =>
        obtain ⟨hfirst, hothers⟩ := List.forall_mem_cons.1 h
        obtain ⟨b, hb⟩ := hfirst
        obtain ⟨m, hm⟩ := ih hothers
        exact ⟨b :: m, .cons hb hm⟩

/-! ### Results -/

theorem bind_eq_ok_iff {x : Except ε α} {f : α → Except ε β} {b : β} :
    x >>= f = .ok b ↔ ∃ a, x = .ok a ∧ f a = .ok b := by
  cases x <;> simp [bind, Except.bind]

theorem pure_eq_ok_iff {a b : α} : (pure a : Except ε α) = .ok b ↔ b = a := by
  simp [pure, Except.pure, eq_comm]

section List

variable {f : α → Except ε β} {l : List α} {m : List β}

/-- **All elements give results just when each of them does**, in the same order. -/
theorem mapM_eq_ok_iff : l.mapM f = .ok m ↔ List.Forall₂ (fun a b => f a = .ok b) l m := by
  induction l generalizing m with
  | nil => simp [pure_eq_ok_iff]
  | cons a l ih =>
      rw [List.mapM_cons, List.forall₂_cons_left_iff, bind_eq_ok_iff]
      simp only [bind_eq_ok_iff, ih, pure_eq_ok_iff]
      constructor
      · rintro ⟨b, hb, bs, hbs, rfl⟩
        exact ⟨b, bs, hb, hbs, rfl⟩
      · rintro ⟨b, bs, hb, hbs, rfl⟩
        exact ⟨b, hb, bs, hbs, rfl⟩

theorem mem_of_mapM_eq_ok (h : l.mapM f = .ok m) {b : β} : b ∈ m ↔ ∃ a ∈ l, f a = .ok b := by
  have hrel := mapM_eq_ok_iff.1 h
  clear h
  induction hrel with
  | nil => simp
  | cons hab _ ih => simp [hab, ih, eq_comm]

theorem exists_mapM_eq_ok (h : ∀ a ∈ l, ∃ b, f a = .ok b) : ∃ m, l.mapM f = .ok m := by
  simp only [mapM_eq_ok_iff]
  exact exists_forall₂_iff.2 h

end List

end RuleTiles
