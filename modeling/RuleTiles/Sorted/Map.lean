/-
**Finite maps as ascending lists of entries.**

A map from an ordered type of keys is kept as the list of its entries with strictly ascending
keys, so that two maps with the same look-ups are equal and listing a map follows its keys.

Main definitions:

* `RuleTiles.SortedMap` — entries with strictly ascending keys;
* `RuleTiles.SortedMap.get?`, `RuleTiles.SortedMap.keys`, `RuleTiles.SortedMap.insert`,
  `RuleTiles.SortedMap.erase`.

Main results:

* `RuleTiles.SortedMap.get?_insert`, `RuleTiles.SortedMap.get?_erase` — what each operation does
  to look-ups;
* `RuleTiles.SortedMap.mem_keys` — the keys are where a look-up succeeds;
* `RuleTiles.SortedMap.ext_get?` — **a map is determined by its look-ups**.
-/

import RuleTiles.Sorted.Ascending

set_option relaxedAutoImplicit false
set_option autoImplicit false

namespace RuleTiles

variable {κ ν : Type} [Ord κ]

/-- A finite map, kept as the list of its entries with strictly ascending keys. -/
structure SortedMap (κ ν : Type) [Ord κ] where
  /-- The entries in ascending order of their keys. -/
  entries : List (κ × ν)
  ascending : entries.Pairwise fun a b => compare a.1 b.1 = .lt

namespace SortedMap

instance [DecidableEq κ] [DecidableEq ν] : DecidableEq (SortedMap κ ν) := fun s t =>
  if h : s.entries = t.entries then isTrue (by cases s; cases t; cases h; rfl)
  else isFalse fun h' => h (h' ▸ rfl)

instance [Hashable κ] [Hashable ν] : Hashable (SortedMap κ ν) := ⟨fun m => hash m.entries⟩

theorem ext_entries {s t : SortedMap κ ν} (h : s.entries = t.entries) : s = t := by
  cases s; cases t; cases h; rfl

/-- The map without entries. -/
def empty : SortedMap κ ν := ⟨[], .nil⟩

instance : EmptyCollection (SortedMap κ ν) := ⟨empty⟩

instance : Inhabited (SortedMap κ ν) := ⟨empty⟩

/-- The keys in ascending order. -/
def keys (m : SortedMap κ ν) : List κ := m.entries.map Prod.fst

/-- The number of entries. -/
def size (m : SortedMap κ ν) : Nat := m.entries.length

/-- Whether there is no entry. -/
def isEmpty (m : SortedMap κ ν) : Bool := m.entries.isEmpty

/-! ### Look-up -/

/-- The value of the first entry with key `k`. -/
def getList (k : κ) : List (κ × ν) → Option ν
  | [] => none
  | (k', v) :: l =>
    match compare k k' with
    | .lt => none
    | .eq => some v
    | .gt => getList k l

/-- The value at a key. -/
def get? (m : SortedMap κ ν) (k : κ) : Option ν := getList k m.entries

/-- Whether there is an entry for a key. -/
def contains (m : SortedMap κ ν) (k : κ) : Bool := (m.get? k).isSome

/-- In an ascending list a key is found with exactly the value it is entered with. -/
theorem getList_eq_some_iff [Std.TransOrd κ] [Std.LawfulEqOrd κ] {k : κ} {v : ν}
    {l : List (κ × ν)} (h : l.Pairwise fun a b => compare a.1 b.1 = .lt) :
    getList k l = some v ↔ (k, v) ∈ l := by
  induction l with
  | nil => simp [getList]
  | cons e l ih =>
    obtain ⟨k', v'⟩ := e
    obtain ⟨he, hl⟩ := List.pairwise_cons.1 h
    unfold getList
    have irrefl : ∀ {x : κ}, ¬compare x x = .lt := by
      intro x hx
      rw [Std.ReflOrd.compare_self] at hx
      cases hx
    split
    · -- the key stands before the first entry, and so before all of them
      rename_i hk
      constructor
      · intro h'; cases h'
      · intro hm
        rcases List.mem_cons.1 hm with hm | hm
        · cases hm; exact absurd hk irrefl
        · exact absurd (Std.TransCmp.lt_trans hk (he _ hm)) irrefl
    · -- the key is that of the first entry, and of no later one
      rename_i hk
      cases Std.LawfulEqOrd.eq_of_compare hk
      constructor
      · intro h'; cases h'; exact List.mem_cons_self ..
      · intro hm
        rcases List.mem_cons.1 hm with hm | hm
        · cases hm; rfl
        · exact absurd (he _ hm) irrefl
    · rename_i hk
      rw [ih hl, List.mem_cons]
      constructor
      · exact Or.inr
      · rintro (hm | hm)
        · cases hm
          rw [Std.ReflOrd.compare_self] at hk
          cases hk
        · exact hm

/-- A key is found with exactly the value it is entered with. -/
theorem get?_eq_some_iff [Std.TransOrd κ] [Std.LawfulEqOrd κ] {m : SortedMap κ ν} {k : κ}
    {v : ν} : m.get? k = some v ↔ (k, v) ∈ m.entries :=
  getList_eq_some_iff m.ascending

/-- The keys are where a look-up succeeds. -/
theorem mem_keys [Std.TransOrd κ] [Std.LawfulEqOrd κ] {m : SortedMap κ ν} {k : κ} :
    k ∈ m.keys ↔ (m.get? k).isSome = true := by
  simp only [keys, List.mem_map, Option.isSome_iff_exists, get?_eq_some_iff, Prod.exists,
    exists_and_right, exists_eq_right]

theorem keys_ascending (m : SortedMap κ ν) : m.keys.Pairwise fun a b => compare a b = .lt :=
  List.pairwise_map.2 m.ascending

theorem nodup_keys [Std.ReflOrd κ] (m : SortedMap κ ν) : m.keys.Nodup :=
  m.keys_ascending.imp Ascending.ne_of_lt

/-! ### Insertion -/

/-- Enters `v` at `k` in a list with ascending keys, at its place; the value of an equal key is
replaced. -/
def insertList (k : κ) (v : ν) : List (κ × ν) → List (κ × ν)
  | [] => [(k, v)]
  | (k', v') :: l =>
    match compare k k' with
    | .lt => (k, v) :: (k', v') :: l
    | .eq => (k, v) :: l
    | .gt => (k', v') :: insertList k v l

theorem key_of_mem_insertList {k : κ} {v : ν} {e : κ × ν} {l : List (κ × ν)}
    (h : e ∈ insertList k v l) : e = (k, v) ∨ e ∈ l := by
  induction l with
  | nil => exact .inl (List.mem_singleton.1 h)
  | cons e' l ih =>
    unfold insertList at h
    split at h
    · rcases List.mem_cons.1 h with h | h
      · exact .inl h
      · exact .inr h
    · rcases List.mem_cons.1 h with h | h
      · exact .inl h
      · exact .inr (List.mem_cons_of_mem _ h)
    · rcases List.mem_cons.1 h with h | h
      · exact .inr (h ▸ List.mem_cons_self ..)
      · exact (ih h).imp_right (List.mem_cons_of_mem _)

theorem insertList_ascending [Std.TransOrd κ] [Std.LawfulEqOrd κ] {k : κ} {v : ν}
    {l : List (κ × ν)} (h : l.Pairwise fun a b => compare a.1 b.1 = .lt) :
    (insertList k v l).Pairwise fun a b => compare a.1 b.1 = .lt := by
  induction l with
  | nil => simp [insertList]
  | cons e l ih =>
    obtain ⟨k', v'⟩ := e
    obtain ⟨he, hl⟩ := List.pairwise_cons.1 h
    unfold insertList
    split
    · rename_i hk
      refine List.pairwise_cons.2 ⟨fun x hx => ?_, h⟩
      rcases List.mem_cons.1 hx with rfl | hx
      · exact hk
      · exact Std.TransCmp.lt_trans hk (he x hx)
    · rename_i hk
      cases Std.LawfulEqOrd.eq_of_compare hk
      exact List.pairwise_cons.2 ⟨he, hl⟩
    · rename_i hk
      refine List.pairwise_cons.2 ⟨fun x hx => ?_, ih hl⟩
      rcases key_of_mem_insertList hx with rfl | hx
      · exact Std.OrientedCmp.gt_iff_lt.1 hk
      · exact he x hx

theorem getList_insertList [Std.TransOrd κ] [Std.LawfulEqOrd κ] [DecidableEq κ] {k x : κ}
    {v : ν} {l : List (κ × ν)} :
    getList x (insertList k v l) = if x = k then some v else getList x l := by
  induction l with
  | nil =>
    unfold insertList getList getList
    split
    · rename_i h
      rw [if_neg]
      rintro rfl
      rw [Std.ReflOrd.compare_self] at h
      cases h
    · rename_i h
      rw [if_pos (Std.LawfulEqOrd.eq_of_compare h)]
    · rename_i h
      rw [if_neg]
      rintro rfl
      rw [Std.ReflOrd.compare_self] at h
      cases h
  | cons e l ih =>
    obtain ⟨k', v'⟩ := e
    unfold insertList
    split
    · -- the entry is set before the first one; a key before it is before both
      rename_i hk
      by_cases hx : x = k
      · subst hx
        simp [getList, Std.ReflOrd.compare_self]
      · rw [if_neg hx, getList]
        split
        · rename_i hxk
          rw [getList, Std.TransCmp.lt_trans hxk hk]
        · rename_i hxk
          exact absurd (Std.LawfulEqOrd.eq_of_compare hxk) hx
        · rfl
    · -- the entry takes the place of the first one
      rename_i hk
      cases Std.LawfulEqOrd.eq_of_compare hk
      by_cases hx : x = k
      · subst hx
        simp [getList, Std.ReflOrd.compare_self]
      · rw [if_neg hx, getList, getList]
        split
        · rfl
        · rename_i hxk
          exact absurd (Std.LawfulEqOrd.eq_of_compare hxk) hx
        · rfl
    · -- the entry is set after the first one, which keeps its place
      rename_i hk
      by_cases hx : x = k
      · subst hx
        rw [getList, hk]
        simpa using ih
      · rw [if_neg hx, getList, getList]
        split
        · rfl
        · rfl
        · rw [ih, if_neg hx]

/-- The map with the value at `k` set to `v`. -/
def insert [Std.TransOrd κ] [Std.LawfulEqOrd κ] (m : SortedMap κ ν) (k : κ) (v : ν) :
    SortedMap κ ν :=
  ⟨insertList k v m.entries, insertList_ascending m.ascending⟩

@[simp] theorem get?_insert [Std.TransOrd κ] [Std.LawfulEqOrd κ] [DecidableEq κ]
    (m : SortedMap κ ν) (k x : κ) (v : ν) :
    (m.insert k v).get? x = if x = k then some v else m.get? x :=
  getList_insertList

/-! ### Removal -/

/-- The map without an entry for `k`. -/
def erase [DecidableEq κ] (m : SortedMap κ ν) (k : κ) : SortedMap κ ν :=
  ⟨m.entries.filter fun e => decide (e.1 ≠ k), m.ascending.filter _⟩

@[simp] theorem get?_erase [Std.TransOrd κ] [Std.LawfulEqOrd κ] [DecidableEq κ]
    (m : SortedMap κ ν) (k x : κ) :
    (m.erase k).get? x = if x = k then none else m.get? x := by
  refine Option.ext fun v => ?_
  rw [get?_eq_some_iff]
  simp only [erase, List.mem_filter, decide_eq_true_eq]
  split
  · rename_i h
    simp [h]
  · rename_i h
    rw [get?_eq_some_iff]
    simp [h]

/-! ### Equality -/

/-- **A map is determined by its look-ups.** -/
theorem ext_get? [Std.TransOrd κ] [Std.LawfulEqOrd κ] {m n : SortedMap κ ν}
    (h : ∀ k, m.get? k = n.get? k) : m = n := by
  refine ext_entries
    (Ascending.eq_of_mem_iff Ascending.asymm m.ascending n.ascending fun e => ?_)
  rw [← get?_eq_some_iff, ← get?_eq_some_iff, h]

end SortedMap

end RuleTiles
