/-
**What lies on a board after changes.**

Every phase of a turn changes the board by putting, taking and turning objects one after another.
This module says what such a sequence of changes does to the kinds on a cell.  Facings do not
matter here: turning changes no kind, and a kind is put on a cell whatever it is to face.

Main results:

* `RuleTiles.Grid.mem_kinds_takeAll` — taking objects removes them and nothing else;
* `RuleTiles.Grid.mem_kinds_putAll` — putting objects one after another adds those that can be
  placed and nothing else;
* `RuleTiles.Grid.kinds_turnEach` — turning objects changes no kind.
-/

import RuleTiles.Grid

set_option relaxedAutoImplicit false
set_option autoImplicit false

namespace RuleTiles

/-! ### One cell -/

namespace Cell

/-- A kind that can be placed is held by a cell just when it is one of its kinds. -/
theorem has_iff_mem_kinds {c : Cell} {k : Kind} (hk : k.isPlaceable = true) :
    c.has k = true ↔ k ∈ c.kinds := by
  rw [mem_kinds]
  unfold has
  split
  · cases hk
  · cases hk
  · rfl

theorem mem_kinds_put {c : Cell} {k x : Kind} {facing : Option Direction} :
    x ∈ (c.put k facing).kinds ↔ x ∈ c.kinds ∨ (x = k ∧ k.isPlaceable = true) := by
  rw [mem_kinds, mem_kinds, get?_put]
  split
  · rename_i h
    simp [h]
  · rename_i h
    simp [h]

theorem mem_kinds_take {c : Cell} {k x : Kind} :
    x ∈ (c.take k).kinds ↔ x ∈ c.kinds ∧ x ≠ k := by
  rw [mem_kinds, mem_kinds, get?_take]
  split
  · rename_i h
    simp [h]
  · rename_i h
    simp [h]

theorem mem_kinds_turn {c : Cell} {k x : Kind} {d : Direction} :
    x ∈ (c.turn k d).kinds ↔ x ∈ c.kinds := by
  rw [mem_kinds, mem_kinds, get?_turn]
  split
  · rename_i h
    obtain ⟨rfl, hk⟩ := h
    simp [mem_kinds.1 hk]
  · rfl

/-- The kinds on a cell are listed in catalog order, so only which they are matters. -/
theorem kinds_ext {c c' : Cell} (h : ∀ k, k ∈ c.kinds ↔ k ∈ c'.kinds) : c.kinds = c'.kinds :=
  Ascending.eq_of_mem_iff Ascending.asymm c.contents.keys_ascending c'.contents.keys_ascending h

/-- Turning changes no kind on a cell. -/
theorem kinds_turn (c : Cell) (k : Kind) (d : Direction) : (c.turn k d).kinds = c.kinds :=
  kinds_ext fun _ => mem_kinds_turn

end Cell

namespace Grid

/-! ### One change -/

theorem mem_kinds_put {g : Grid} {p q : Position} {k x : Kind} {facing : Option Direction} :
    x ∈ ((g.put p k facing).cell q).kinds ↔
      x ∈ (g.cell q).kinds ∨
        (p = q ∧ k = x ∧ g.contains p = true ∧ k.isPlaceable = true) := by
  rw [cell_put]
  split
  · rename_i h
    obtain ⟨rfl, hp⟩ := h
    rw [Cell.mem_kinds_put]
    constructor
    · rintro (hx | ⟨rfl, hk⟩)
      · exact .inl hx
      · exact .inr ⟨rfl, rfl, hp, hk⟩
    · rintro (hx | ⟨_, rfl, _, hk⟩)
      · exact .inl hx
      · exact .inr ⟨rfl, hk⟩
  · rename_i h
    constructor
    · exact .inl
    · rintro (hx | ⟨rfl, _, hp, _⟩)
      · exact hx
      · exact absurd ⟨rfl, hp⟩ h

theorem mem_kinds_take {g : Grid} {o : Object} {q : Position} {x : Kind} :
    x ∈ ((g.take o).cell q).kinds ↔ x ∈ (g.cell q).kinds ∧ (⟨q, x⟩ : Object) ≠ o := by
  rw [cell_take]
  split
  · rename_i h
    obtain ⟨rfl, _⟩ := h
    rw [Cell.mem_kinds_take]
    simp [Object.ext_iff]
  · rename_i h
    -- an object at the place of `o` would be on the board
    constructor
    · intro hx
      refine ⟨hx, ?_⟩
      rintro rfl
      exact h ⟨rfl, contains_of_mem_kinds hx⟩
    · exact And.left

theorem kinds_turn (g : Grid) (o : Object) (d : Direction) (q : Position) :
    ((g.turn o d).cell q).kinds = (g.cell q).kinds := by
  rw [cell_turn]
  split
  · exact Cell.kinds_turn _ _ _
  · rfl

@[simp] theorem contains_put (g : Grid) (p q : Position) (k : Kind) (facing : Option Direction) :
    (g.put p k facing).contains q = g.contains q :=
  contains_modify g p q _

@[simp] theorem contains_take (g : Grid) (o : Object) (q : Position) :
    (g.take o).contains q = g.contains q :=
  contains_modify g o.pos q _

/-! ### Changes one after another -/

@[simp] theorem contains_takeAll (g : Grid) (objects : List Object) (q : Position) :
    (g.takeAll objects).contains q = g.contains q := by
  induction objects generalizing g with
  | nil => rfl
  | cons o rest ih =>
      rw [takeAll, List.foldl_cons]
      exact (ih (g.take o)).trans (contains_take g o q)

/-- **Taking objects removes them and nothing else.** -/
theorem mem_kinds_takeAll {g : Grid} {objects : List Object} {q : Position} {x : Kind} :
    x ∈ ((g.takeAll objects).cell q).kinds ↔
      x ∈ (g.cell q).kinds ∧ (⟨q, x⟩ : Object) ∉ objects := by
  induction objects generalizing g with
  | nil => simp [takeAll]
  | cons o rest ih =>
      rw [takeAll, List.foldl_cons]
      refine (ih (g := g.take o)).trans ?_
      rw [mem_kinds_take, List.mem_cons, not_or, and_assoc]

variable {α : Type}

/-- **Putting objects one after another adds those that can be placed and nothing else.** -/
theorem mem_kinds_putAll {g : Grid} {q : Position} {x : Kind} (l : List α) (pos : α → Position)
    (kind : α → Kind) (facing : α → Option Direction) :
    x ∈ ((l.foldl (fun g a => g.put (pos a) (kind a) (facing a)) g).cell q).kinds ↔
      x ∈ (g.cell q).kinds ∨
        ∃ a ∈ l, pos a = q ∧ kind a = x ∧ g.contains q = true ∧ x.isPlaceable = true := by
  induction l generalizing g with
  | nil => simp
  | cons a l ih =>
      rw [List.foldl_cons, ih, mem_kinds_put, contains_put]
      constructor
      · rintro ((hx | ⟨rfl, rfl, hp, hk⟩) | ⟨b, hb, h⟩)
        · exact .inl hx
        · exact .inr ⟨a, List.mem_cons_self .., rfl, rfl, hp, hk⟩
        · exact .inr ⟨b, List.mem_cons_of_mem _ hb, h⟩
      · rintro (hx | ⟨b, hb, h⟩)
        · exact .inl (.inl hx)
        · rcases List.mem_cons.1 hb with rfl | hb
          · obtain ⟨rfl, rfl, hp, hk⟩ := h
            exact .inl (.inr ⟨rfl, rfl, hp, hk⟩)
          · exact .inr ⟨b, hb, h⟩

/-- **Turning objects changes no kind.** -/
theorem kinds_turnEach (g : Grid) (q : Position) (l : List α) (object : α → Object)
    (direction : α → Direction) :
    ((l.foldl (fun g a => g.turn (object a) (direction a)) g).cell q).kinds =
      (g.cell q).kinds := by
  induction l generalizing g with
  | nil => rfl
  | cons a l ih => rw [List.foldl_cons, ih, kinds_turn]

end Grid

end RuleTiles
