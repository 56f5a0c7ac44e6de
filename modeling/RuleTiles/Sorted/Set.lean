/-
**Finite sets as ascending lists.**

A set over an ordered type is kept as the list of its members in strictly ascending order, so
that two sets with the same members are equal and listing a set needs no sorting.

Main definitions:

* `RuleTiles.SortedSet` — a strictly ascending list;
* `RuleTiles.SortedSet.insert`, `RuleTiles.SortedSet.ofList`, `RuleTiles.SortedSet.filter`,
  `RuleTiles.SortedSet.diff`.

Main results:

* `RuleTiles.SortedSet.mem_insert`, `RuleTiles.SortedSet.mem_ofList`,
  `RuleTiles.SortedSet.mem_filter`, `RuleTiles.SortedSet.mem_diff` — what each operation does to
  membership;
* `RuleTiles.SortedSet.ext_mem` — **a set is determined by its members**.
-/

import RuleTiles.Sorted.Ascending

set_option relaxedAutoImplicit false
set_option autoImplicit false

namespace RuleTiles

variable {α : Type} [Ord α]

/-- A finite set, kept as the list of its members in strictly ascending order. -/
structure SortedSet (α : Type) [Ord α] where
  /-- The members in ascending order. -/
  toList : List α
  ascending : toList.Pairwise fun a b => compare a b = .lt

namespace SortedSet

instance [DecidableEq α] : DecidableEq (SortedSet α) := fun s t =>
  if h : s.toList = t.toList then isTrue (by cases s; cases t; cases h; rfl)
  else isFalse fun h' => h (h' ▸ rfl)

theorem ext_toList {s t : SortedSet α} (h : s.toList = t.toList) : s = t := by
  cases s; cases t; cases h; rfl

/-- The set without members. -/
def empty : SortedSet α := ⟨[], .nil⟩

instance : EmptyCollection (SortedSet α) := ⟨empty⟩

instance : Inhabited (SortedSet α) := ⟨empty⟩

instance : Membership α (SortedSet α) := ⟨fun s a => a ∈ s.toList⟩

theorem mem_def {s : SortedSet α} {a : α} : a ∈ s ↔ a ∈ s.toList := Iff.rfl

instance [DecidableEq α] (a : α) (s : SortedSet α) : Decidable (a ∈ s) :=
  inferInstanceAs (Decidable (a ∈ s.toList))

@[simp] theorem not_mem_empty (a : α) : ¬a ∈ (empty : SortedSet α) := by
  simp [mem_def, empty]

/-- The number of members. -/
def size (s : SortedSet α) : Nat := s.toList.length

theorem nodup_toList [Std.ReflOrd α] (s : SortedSet α) : s.toList.Nodup :=
  s.ascending.imp Ascending.ne_of_lt

/-! ### Insertion -/

/-- Inserts `a` into an ascending list, at its place; an equal element is replaced. -/
def insertList (a : α) : List α → List α
  | [] => [a]
  | b :: l =>
    match compare a b with
    | .lt => a :: b :: l
    | .eq => a :: l
    | .gt => b :: insertList a l

theorem mem_insertList [Std.LawfulEqOrd α] {a x : α} {l : List α} :
    x ∈ insertList a l ↔ x = a ∨ x ∈ l := by
  induction l with
  | nil => simp [insertList]
  | cons b l ih =>
    unfold insertList
    split
    · simp
    · rename_i h
      cases Std.LawfulEqOrd.eq_of_compare h
      simp
    · simp only [List.mem_cons, ih]
      exact or_left_comm

theorem insertList_ascending [Std.TransOrd α] [Std.LawfulEqOrd α] {a : α} {l : List α}
    (h : l.Pairwise fun a b => compare a b = .lt) :
    (insertList a l).Pairwise fun a b => compare a b = .lt := by
  induction l with
  | nil => simp [insertList]
  | cons b l ih =>
    obtain ⟨hb, hl⟩ := List.pairwise_cons.1 h
    unfold insertList
    split
    · rename_i hab
      refine List.pairwise_cons.2 ⟨fun x hx => ?_, h⟩
      rcases List.mem_cons.1 hx with rfl | hx
      · exact hab
      · exact Std.TransCmp.lt_trans hab (hb x hx)
    · rename_i hab
      cases Std.LawfulEqOrd.eq_of_compare hab
      exact h
    · rename_i hab
      refine List.pairwise_cons.2 ⟨fun x hx => ?_, ih hl⟩
      rcases mem_insertList.1 hx with rfl | hx
      · exact Std.OrientedCmp.gt_iff_lt.1 hab
      · exact hb x hx

variable [Std.TransOrd α] [Std.LawfulEqOrd α]

/-- The set with one more member. -/
def insert (s : SortedSet α) (a : α) : SortedSet α :=
  ⟨insertList a s.toList, insertList_ascending s.ascending⟩

@[simp] theorem mem_insert {s : SortedSet α} {a x : α} : x ∈ s.insert a ↔ x = a ∨ x ∈ s :=
  mem_insertList

/-- The set of the elements of a list. -/
def ofList (l : List α) : SortedSet α := l.foldl insert empty

theorem mem_foldl_insert {l : List α} {s : SortedSet α} {x : α} :
    x ∈ l.foldl insert s ↔ x ∈ s ∨ x ∈ l := by
  induction l generalizing s with
  | nil => simp
  | cons a l ih =>
    simp only [List.foldl_cons, ih, mem_insert, List.mem_cons]
    grind

@[simp] theorem mem_ofList {l : List α} {x : α} : x ∈ ofList l ↔ x ∈ l := by
  simp [ofList, mem_foldl_insert]

/-! ### Selection -/

/-- The members that pass a test. -/
def filter (s : SortedSet α) (keep : α → Bool) : SortedSet α :=
  ⟨s.toList.filter keep, s.ascending.filter _⟩

omit [Std.TransOrd α] [Std.LawfulEqOrd α] in
@[simp] theorem mem_filter {s : SortedSet α} {keep : α → Bool} {x : α} :
    x ∈ s.filter keep ↔ x ∈ s ∧ keep x = true :=
  List.mem_filter

/-- The members of the first set that are not in the second. -/
def diff [DecidableEq α] (s t : SortedSet α) : SortedSet α := s.filter fun a => decide (a ∉ t)

omit [Std.TransOrd α] [Std.LawfulEqOrd α] in
@[simp] theorem mem_diff [DecidableEq α] {s t : SortedSet α} {x : α} :
    x ∈ s.diff t ↔ x ∈ s ∧ x ∉ t := by
  simp [diff]

/-! ### Equality -/

omit [Std.LawfulEqOrd α] in
/-- **A set is determined by its members.** -/
theorem ext_mem {s t : SortedSet α} (h : ∀ x, x ∈ s ↔ x ∈ t) : s = t :=
  ext_toList (Ascending.eq_of_mem_iff Ascending.asymm s.ascending t.ascending h)

/-- A set is made again from the list of its members. -/
@[simp] theorem ofList_toList (s : SortedSet α) : ofList s.toList = s := ext_mem fun _ => mem_ofList

end SortedSet

end RuleTiles
