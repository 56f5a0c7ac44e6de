/-
**Facings after changes.**

The entry of a cell for a kind says whether the kind lies there and which way it faces.  This
module follows one entry through the changes of a phase: turning objects, lifting them, and setting
them down one after another.  Only what is set down at the place of the entry and is of its kind
has a part in it, in the order in which it is set down; the last facing that is given stays.

Main definitions:

* `RuleTiles.Plan.arriving` — what a plan sets down on a cell of one kind.

Main results:

* `RuleTiles.Grid.get?_turnEach`, `RuleTiles.Grid.get?_turnAll` — an entry after objects have
  turned;
* `RuleTiles.Grid.get?_putAll` — **an entry after objects have been set down**;
* `RuleTiles.Grid.get?_carryOut` — **an entry after a plan was carried out**.
-/

import Mathlib.Data.List.Induction
import RuleTiles.Proofs.Board.Places
import RuleTiles.Turn.Movement

set_option relaxedAutoImplicit false
set_option autoImplicit false

namespace RuleTiles

/-! ### One cell -/

namespace Cell

theorem get?_eq_none_iff {c : Cell} {k : Kind} : c.get? k = none ↔ k ∉ c.kinds := by
  rw [mem_kinds, Bool.not_eq_true, Option.isSome_eq_false_iff, Option.isNone_iff_eq_none]

/-- A cell is determined by its kinds and their facings. -/
theorem ext_facing {c c' : Cell} (hkinds : ∀ k, k ∈ c.kinds ↔ k ∈ c'.kinds)
    (hfacing : ∀ k, c.facing k = c'.facing k) : c = c' := by
  refine ext_get? fun k => ?_
  have hk := hkinds k
  have hf := hfacing k
  rw [mem_kinds, mem_kinds] at hk
  rw [facing, facing] at hf
  cases hget : c.get? k with
  | none =>
      rw [hget] at hk
      cases hget' : c'.get? k with
      | none => rfl
      | some f => simp [hget'] at hk
  | some f =>
      rw [hget] at hk hf
      cases hget' : c'.get? k with
      | none => simp [hget'] at hk
      | some f' =>
          rw [hget'] at hf
          exact congrArg some hf

end Cell

namespace Grid

variable {g : Grid} {q : Position} {k : Kind}

/-- There is no entry off the board, and none for a kind that cannot be placed. -/
theorem get?_eq_none (h : ¬(g.contains q = true ∧ k.isPlaceable = true)) :
    (g.cell q).get? k = none := by
  rw [Cell.get?_eq_none_iff]
  intro hk
  exact h ⟨contains_of_mem_kinds hk, Cell.isPlaceable_of_mem_kinds hk⟩

/-! ### Turning -/

theorem get?_turn (g : Grid) (o : Object) (d : Direction) (q : Position) (k : Kind) :
    ((g.turn o d).cell q).get? k =
      if (⟨q, k⟩ : Object) = o then ((g.cell q).get? k).map fun _ => some d
      else (g.cell q).get? k := by
  rw [cell_turn]
  by_cases ho : (⟨q, k⟩ : Object) = o
  · subst ho
    rw [if_pos rfl]
    cases hq : g.contains q with
    | false => simp [get?_eq_none (g := g) (q := q) (k := k) (by simp [hq])]
    | true =>
        rw [if_pos ⟨rfl, rfl⟩, Cell.get?_turn]
        cases hget : (g.cell q).get? k with
        | none => simp [Cell.get?_eq_none_iff.1 hget]
        | some facing => simp [Cell.mem_kinds, hget]
  · rw [if_neg ho]
    split
    · rename_i h
      obtain ⟨rfl, _⟩ := h
      rw [Cell.get?_turn, if_neg]
      rintro ⟨rfl, _⟩
      exact ho rfl
    · rfl

/-- An entry after objects have turned, each in its own direction. -/
theorem get?_turnEach (g : Grid) (os : List Object) (direction : Object → Direction) (q : Position)
    (k : Kind) :
    ((os.foldl (fun g o => g.turn o (direction o)) g).cell q).get? k =
      if (⟨q, k⟩ : Object) ∈ os then ((g.cell q).get? k).map fun _ => some (direction ⟨q, k⟩)
      else (g.cell q).get? k := by
  induction os generalizing g with
  | nil => simp
  | cons o os ih =>
      rw [List.foldl_cons, ih, get?_turn]
      by_cases ho : (⟨q, k⟩ : Object) = o
      · simp [ho, Function.comp_def]
      · simp [ho]

/-- An entry after objects have turned the same way. -/
theorem get?_turnAll (g : Grid) (os : List Object) (d : Direction) (q : Position) (k : Kind) :
    ((g.turnAll os d).cell q).get? k =
      if (⟨q, k⟩ : Object) ∈ os then ((g.cell q).get? k).map fun _ => some d
      else (g.cell q).get? k :=
  get?_turnEach g os (fun _ => d) q k

/-! ### Setting down -/

theorem get?_put (g : Grid) (p : Position) (x : Kind) (facing : Option Direction) (q : Position)
    (k : Kind) :
    ((g.put p x facing).cell q).get? k =
      if (p = q ∧ x = k) ∧ g.contains q = true ∧ k.isPlaceable = true then
        some (facing.or ((g.cell q).get? k).join)
      else (g.cell q).get? k := by
  rw [cell_put]
  by_cases hp : p = q
  · subst hp
    by_cases hx : x = k
    · subst hx
      cases hcontains : g.contains p with
      | false => simp
      | true => simp [Cell.get?_put, Cell.facing]
    · split
      · rw [Cell.get?_put]
        simp [hx, Ne.symm hx]
      · simp [hx]
  · simp [hp, Ne.symm hp]

variable {α : Type}

/-- **An entry after objects have been set down** one after another: those that are set down at its
place and are of its kind enter it in their order, and a facing that is given replaces the one
before. -/
theorem get?_putAll (l : List α) (pos : α → Position) (kind : α → Kind)
    (facing : α → Option Direction) (hq : g.contains q = true) (hk : k.isPlaceable = true) :
    ((l.foldl (fun g a => g.put (pos a) (kind a) (facing a)) g).cell q).get? k =
      (l.filter fun a => pos a = q ∧ kind a = k).foldl
        (fun entry a => some ((facing a).or entry.join)) ((g.cell q).get? k) := by
  induction l generalizing g with
  | nil => rfl
  | cons a l ih =>
      rw [List.foldl_cons, ih (by rw [contains_put]; exact hq), get?_put, List.filter_cons]
      by_cases ha : pos a = q ∧ kind a = k
      · rw [if_pos ⟨ha, hq, hk⟩, if_pos (decide_eq_true ha), List.foldl_cons]
      · rw [if_neg (fun h => ha h.1), if_neg (by simpa using ha)]

/-! ### Carrying out a plan -/

/-- When every object that is entered has a facing, the last of them decides. -/
theorem foldl_facing (l : List α) (direction : α → Direction) (entry : Option (Option Direction)) :
    l.foldl (fun entry a => some ((some (direction a)).or entry.join)) entry =
      (l.getLast?.map fun a => some (direction a)).or entry := by
  induction l using List.reverseRecOn with
  | nil => rfl
  | append_singleton l a _ => simp

end Grid

/-- The entries of a plan that go to a position and are of one kind, in the order of the plan. -/
def Plan.arriving (plan : Plan) (q : Position) (k : Kind) : List (Object × Direction) :=
  plan.entries.filter fun e => e.1.pos.step e.2 = q ∧ e.1.kind = k

theorem Plan.mem_arriving {plan : Plan} {q : Position} {k : Kind} {e : Object × Direction} :
    e ∈ plan.arriving q k ↔ e ∈ plan.entries ∧ e.1.pos.step e.2 = q ∧ e.1.kind = k := by
  simp [Plan.arriving]

/-- What is planned goes where its direction leads. -/
theorem Plan.mem_arriving_of_get? {plan : Plan} {o : Object} {x : Direction}
    (h : plan.get? o = some x) : (o, x) ∈ plan.arriving (o.pos.step x) o.kind :=
  Plan.mem_arriving.2 ⟨SortedMap.get?_eq_some_iff.1 h, rfl, rfl⟩

namespace Grid

variable {g : Grid} {plan : Plan} {q : Position} {k : Kind}

/-- **An entry after a plan was carried out**: it faces as the last that arrived; without an arrival
it is gone if it was lifted, and else as before. -/
theorem get?_carryOut (hq : g.contains q = true) (hk : k.isPlaceable = true) :
    ((g.carryOut plan).cell q).get? k =
      ((plan.arriving q k).getLast?.map fun e => some e.2).or
        (if (⟨q, k⟩ : Object) ∈ plan.keys then none else (g.cell q).get? k) := by
  rw [carryOut, get?_putAll plan.entries (fun e => e.1.pos.step e.2) (fun e => e.1.kind)
    (fun e => some e.2) (by rw [contains_takeAll]; exact hq) hk, foldl_facing, get?_takeAll]
  rfl

/-- Where something arrives, it lies afterwards and faces as one that arrived. -/
theorem exists_get?_carryOut (hq : g.contains q = true) (hk : k.isPlaceable = true)
    {e : Object × Direction} (he : e ∈ plan.arriving q k) :
    ∃ e' ∈ plan.arriving q k, ((g.carryOut plan).cell q).get? k = some (some e'.2) := by
  rw [get?_carryOut hq hk]
  cases hlast : (plan.arriving q k).getLast? with
  | none =>
      rw [List.getLast?_eq_none_iff] at hlast
      rw [hlast] at he
      cases he
  | some e' => exact ⟨e', List.mem_of_getLast? hlast, rfl⟩

@[simp] theorem contains_carryOut (g : Grid) (plan : Plan) (q : Position) :
    (g.carryOut plan).contains q = g.contains q :=
  ((sameSize_carryOut g plan).contains q).symm

/-- Where nothing arrives, also off the board, only lifting matters. -/
theorem get?_carryOut_of_arriving_eq_nil (h : plan.arriving q k = []) :
    ((g.carryOut plan).cell q).get? k =
      if (⟨q, k⟩ : Object) ∈ plan.keys then none else (g.cell q).get? k := by
  by_cases hsite : g.contains q = true ∧ k.isPlaceable = true
  · rw [get?_carryOut hsite.1 hsite.2, h]
    rfl
  · rw [get?_eq_none hsite, get?_eq_none (by rwa [contains_carryOut]), ite_self]

end Grid

end RuleTiles
