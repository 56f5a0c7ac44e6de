/-
**Only what lies on the board is moved.**

The plan of a phase of movement names objects: the steppers, and what they push.  This module shows
that every one of them lies on the board for which the plan was made, whatever the rules are.  So
movement brings no kind to a board on which that kind did not lie.

Main definitions:

* `RuleTiles.Grid.Carries` — some object of a kind lies on the board;
* `RuleTiles.Grid.headingFrom` — the heading of an object that sets out in a direction.

Main results:

* `RuleTiles.Grid.mem_objects_of_mem_plan` — **what is planned lies on the board**;
* `RuleTiles.Grid.mem_kinds_carryOut` — where the kinds come from when a plan is carried out;
* `RuleTiles.Grid.carries_of_afterMovement` — **movement brings no new kind**.
-/

import RuleTiles.Proofs.Board.Contents
import RuleTiles.Turn

set_option relaxedAutoImplicit false
set_option autoImplicit false

namespace RuleTiles

/-! ### Entries of a plan -/

namespace SortedMap

variable {κ ν α : Type} [Ord κ] [Std.TransOrd κ] [Std.LawfulEqOrd κ]

theorem mem_entries_of_mem_insert {m : SortedMap κ ν} {k : κ} {v : ν} {e : κ × ν}
    (h : e ∈ (m.insert k v).entries) : e = (k, v) ∨ e ∈ m.entries :=
  key_of_mem_insertList h

/-- What is entered one after another is all that is there besides the old entries. -/
theorem mem_entries_of_mem_insertAll {m : SortedMap κ ν} {l : List α} {key : α → κ}
    {value : α → ν} {e : κ × ν}
    (h : e ∈ (l.foldl (fun m a => m.insert (key a) (value a)) m).entries) :
    e ∈ m.entries ∨ ∃ a ∈ l, e = (key a, value a) := by
  induction l generalizing m with
  | nil => exact .inl h
  | cons a l ih =>
      rcases ih h with h | ⟨b, hb, he⟩
      · rcases mem_entries_of_mem_insert h with rfl | h
        · exact .inr ⟨a, List.mem_cons_self .., rfl⟩
        · exact .inl h
      · exact .inr ⟨b, List.mem_cons_of_mem _ hb, he⟩

/-- The keys are the old ones and those that are entered. -/
theorem mem_keys_insertAll [DecidableEq κ] {m : SortedMap κ ν} {l : List α} {key : α → κ}
    {value : α → ν} {k : κ} :
    k ∈ (l.foldl (fun m a => m.insert (key a) (value a)) m).keys ↔
      k ∈ m.keys ∨ ∃ a ∈ l, key a = k := by
  induction l generalizing m with
  | nil => simp
  | cons a l ih =>
      rw [List.foldl_cons, ih, mem_keys, get?_insert, mem_keys]
      by_cases hk : k = key a
      · simp [hk]
      · simp [hk, Ne.symm hk]

end SortedMap

/-- A chain adds to a plan only what lies on the cells ahead. -/
theorem Plan.mem_entries_of_mem_push {rules : RuleSet} {d : Direction}
    {ahead : List (Position × Cell)} {plan : Plan} {e : Object × Direction}
    (h : e ∈ (Plan.push rules d ahead plan).entries) :
    e ∈ plan.entries ∨ ∃ c, (e.1.pos, c) ∈ ahead ∧ e.1.kind ∈ c.kinds := by
  induction ahead generalizing plan with
  | nil => exact .inl h
  | cons qc rest ih =>
      obtain ⟨q, c⟩ := qc
      unfold Plan.push at h
      dsimp only at h
      split at h
      · exact .inl h
      · rcases ih h with h | ⟨c', hc', hk⟩
        · rcases SortedMap.mem_entries_of_mem_insertAll h with h | ⟨k, hk, rfl⟩
          · exact .inl h
          · exact .inr ⟨c, List.mem_cons_self .., (List.mem_filter.1 hk).1⟩
        · exact .inr ⟨c', List.mem_cons_of_mem _ hc', hk⟩

/-- The account of a plan says of each planned object where it goes, and of nothing else. -/
theorem Plan.moved_mem_events_iff {plan : Plan} {k : Kind} {p q : Position} :
    Event.moved k p q ∈ plan.events ↔ ∃ x, plan.get? ⟨p, k⟩ = some x ∧ q = p.step x := by
  rw [Plan.events, List.mem_map]
  constructor
  · rintro ⟨⟨⟨p', k'⟩, x⟩, he, hevent⟩
    cases hevent
    exact ⟨x, SortedMap.get?_eq_some_iff.2 he, rfl⟩
  · rintro ⟨x, hget, rfl⟩
    exact ⟨(⟨p, k⟩, x), SortedMap.get?_eq_some_iff.1 hget, rfl⟩

/-- The account of a plan names every planned object once. -/
theorem Plan.nodup_events (plan : Plan) : plan.events.Nodup := by
  refine List.pairwise_map.2 (plan.ascending.imp fun {e e'} hlt heq => ?_)
  injection heq with hkind hpos _
  exact Ascending.ne_of_lt hlt (Object.ext hpos hkind)

namespace Grid

/-- The cells ahead are cells of the board. -/
theorem eq_cell_of_mem_rayWithin {g : Grid} {d : Direction} {n : Nat} {p q : Position} {c : Cell}
    (h : (q, c) ∈ g.rayWithin d n p) : c = g.cell q := by
  induction n generalizing p with
  | zero => cases h
  | succ n ih =>
      unfold rayWithin at h
      split at h
      · cases h
      · rename_i c' hc'
        rcases List.mem_cons.1 h with h | h
        · cases h
          simp [cell, hc']
        · exact ih h

theorem eq_cell_of_mem_ray {g : Grid} {d : Direction} {p q : Position} {c : Cell}
    (h : (q, c) ∈ g.ray p d) : c = g.cell q :=
  eq_cell_of_mem_rayWithin h

/-- What is planned is a stepper or lies on the board. -/
theorem mem_steppers_or_mem_objects {g : Grid} {rules : RuleSet}
    {steppers : List (Object × Direction)} {e : Object × Direction}
    (h : e ∈ (g.plan rules steppers).entries) :
    (∃ s ∈ steppers, e.1 = s.1) ∨ e.1 ∈ g.objects := by
  -- what the chains of a part of the steppers add to a plan lies on the board
  have chains : ∀ (l : List (Object × Direction)) (plan : Plan),
      e ∈ (l.foldl (fun plan s => Plan.push rules s.2 (g.ray s.1.pos s.2) plan) plan).entries →
        e ∈ plan.entries ∨ e.1 ∈ g.objects := by
    intro l
    induction l with
    | nil => intro plan he; exact .inl he
    | cons s l ih =>
        intro plan he
        rcases ih _ he with he | he
        · rcases Plan.mem_entries_of_mem_push he with he | ⟨c, hc, hk⟩
          · exact .inl he
          · rw [eq_cell_of_mem_ray hc] at hk
            exact .inr (mem_objects.2 hk)
        · exact .inr he
  rcases chains steppers _ h with he | he
  · rcases SortedMap.mem_entries_of_mem_insertAll he with he | ⟨s, hs, rfl⟩
    · cases he
    · exact .inl ⟨s, hs, rfl⟩
  · exact .inr he

/-- **What is planned lies on the board**, when the steppers do. -/
theorem mem_objects_of_mem_plan {g : Grid} {rules : RuleSet}
    {steppers : List (Object × Direction)} (hs : ∀ s ∈ steppers, s.1 ∈ g.objects)
    {e : Object × Direction} (h : e ∈ (g.plan rules steppers).entries) : e.1 ∈ g.objects := by
  rcases mem_steppers_or_mem_objects h with ⟨s, hmem, he⟩ | he
  · rw [he]
    exact hs s hmem
  · exact he

/-! ### Kinds after movement -/

/-- When a plan is carried out a cell holds what it held before and what arrives on it, and
nothing else. -/
theorem mem_kinds_carryOut {g : Grid} {plan : Plan} {q : Position} {k : Kind}
    (h : k ∈ ((g.carryOut plan).cell q).kinds) :
    k ∈ (g.cell q).kinds ∨ ∃ e ∈ plan.entries, e.1.pos.step e.2 = q ∧ e.1.kind = k := by
  rcases (mem_kinds_putAll plan.entries (fun e => e.1.pos.step e.2) (fun e => e.1.kind)
    (fun e => some e.2)).1 h with h | ⟨e, he, hq, hk, _⟩
  · exact .inl (mem_kinds_takeAll.1 h).1
  · exact .inr ⟨e, he, hq, hk⟩

/-- Some object of a kind lies on the board. -/
def Carries (g : Grid) (k : Kind) : Prop := ∃ p, k ∈ (g.cell p).kinds

theorem carries_iff {g : Grid} {k : Kind} : g.Carries k ↔ ∃ o ∈ g.objects, o.kind = k := by
  constructor
  · rintro ⟨p, hp⟩
    exact ⟨⟨p, k⟩, mem_objects.2 hp, rfl⟩
  · rintro ⟨o, ho, rfl⟩
    exact ⟨o.pos, mem_objects.1 ho⟩

/-- A plan that was made for a board brings no new kind to a board with the same kinds on its
cells. -/
theorem carries_of_carryOut {g turned : Grid} {rules : RuleSet}
    {steppers : List (Object × Direction)} {k : Kind}
    (hkinds : ∀ q, (turned.cell q).kinds = (g.cell q).kinds)
    (hs : ∀ s ∈ steppers, s.1 ∈ g.objects)
    (h : (turned.carryOut (g.plan rules steppers)).Carries k) : g.Carries k := by
  obtain ⟨q, hq⟩ := h
  rcases mem_kinds_carryOut hq with hq | ⟨e, he, _, rfl⟩
  · rw [hkinds] at hq
    exact ⟨q, hq⟩
  · exact carries_iff.2 ⟨e.1, mem_objects_of_mem_plan hs he, rfl⟩

/-- The steppers of the first phase lie on the board. -/
theorem stepper_mem_objects {g : Grid} {rules : RuleSet} {d : Direction} {s : Object × Direction}
    (hs : s ∈ ((g.having rules .you).filter fun o => g.canStep rules o.pos d).map (·, d)) :
    s.1 ∈ g.objects := by
  obtain ⟨o, ho, rfl⟩ := List.mem_map.1 hs
  exact (mem_having.1 (List.mem_filter.1 ho).1).1

theorem carries_of_moveYou {g : Grid} {rules : RuleSet} {d : Direction} {k : Kind}
    (h : (g.moveYou rules d).1.Carries k) : g.Carries k :=
  carries_of_carryOut (fun q => kinds_turnEach g q _ (fun o => o) fun _ => d)
    (fun _ hs => stepper_mem_objects hs) h

/-! ### Headings -/

/-- The heading of an object that sets out in a direction. -/
def headingFrom (g : Grid) (rules : RuleSet) (o : Object) (d : Direction) : Heading :=
  if g.canStep rules o.pos d then ⟨o, d, true⟩
  else ⟨o, d.reverse, g.canStep rules o.pos d.reverse⟩

section

variable {g : Grid} {rules : RuleSet} {gen : Generator} {o : Object} {d : Direction}

@[simp] theorem object_headingFrom (g : Grid) (rules : RuleSet) (o : Object) (d : Direction) :
    (g.headingFrom rules o d).object = o := by
  unfold headingFrom
  split
  · rfl
  · rfl

theorem headingFrom_of_canStep (h : g.canStep rules o.pos d = true) :
    g.headingFrom rules o d = ⟨o, d, true⟩ :=
  if_pos h

theorem headingFrom_of_barred (h : g.canStep rules o.pos d = false) :
    g.headingFrom rules o d = ⟨o, d.reverse, g.canStep rules o.pos d.reverse⟩ :=
  if_neg (by simp [h])

theorem heading_of_facing_eq_some (h : (g.cell o.pos).facing o.kind = some d) :
    g.heading rules o gen = (g.headingFrom rules o d, gen) := by
  unfold heading headingFrom
  rw [h]
  dsimp only
  split
  · rfl
  · rfl

theorem heading_of_facing_eq_none (h : (g.cell o.pos).facing o.kind = none) :
    g.heading rules o gen = (g.headingFrom rules o gen.facing.1, gen.facing.2) := by
  unfold heading headingFrom
  rw [h]
  dsimp only
  split
  · rfl
  · rfl

end

@[simp] theorem object_heading (g : Grid) (rules : RuleSet) (o : Object) (gen : Generator) :
    (g.heading rules o gen).1.object = o := by
  cases hf : (g.cell o.pos).facing o.kind with
  | some d => rw [heading_of_facing_eq_some hf, object_headingFrom]
  | none => rw [heading_of_facing_eq_none hf, object_headingFrom]

theorem headings_cons (g : Grid) (rules : RuleSet) (o : Object) (rest : List Object)
    (gen : Generator) :
    g.headings rules (o :: rest) gen =
      ((g.heading rules o gen).1 :: (g.headings rules rest (g.heading rules o gen).2).1,
        (g.headings rules rest (g.heading rules o gen).2).2) := rfl

/-- Headings are those of the objects they are asked for. -/
theorem object_mem_of_mem_headings {g : Grid} {rules : RuleSet} {objects : List Object}
    {gen : Generator} {x : Heading} (h : x ∈ (g.headings rules objects gen).1) :
    x.object ∈ objects := by
  induction objects generalizing gen with
  | nil => cases h
  | cons o rest ih =>
      rw [headings_cons] at h
      rcases List.mem_cons.1 h with rfl | h
      · rw [object_heading]
        exact List.mem_cons_self ..
      · exact List.mem_cons_of_mem _ (ih h)

/-- The steppers of the second phase lie on the board. -/
theorem walker_mem_objects {g : Grid} {rules : RuleSet} {gen : Generator}
    {s : Object × Direction}
    (hs : s ∈ ((g.headings rules (g.having rules .move) gen).1.filter Heading.steps).map
      fun x => (x.object, x.direction)) : s.1 ∈ g.objects := by
  obtain ⟨x, hx, rfl⟩ := List.mem_map.1 hs
  have hobject := object_mem_of_mem_headings (List.mem_filter.1 hx).1
  exact (mem_having.1 hobject).1

theorem carries_of_moveWalkers {g : Grid} {rules : RuleSet} {gen : Generator} {k : Kind}
    (h : (g.moveWalkers rules gen).1.Carries k) : g.Carries k :=
  carries_of_carryOut (fun q => kinds_turnEach g q _ Heading.object Heading.direction)
    (fun _ hs => walker_mem_objects hs) h

/-- **Movement brings no new kind to a board.** -/
theorem carries_of_afterMovement {g : Grid} {rules : RuleSet} {d : Direction} {gen : Generator}
    {k : Kind} (h : (g.afterMovement rules d gen).1.Carries k) : g.Carries k :=
  carries_of_moveYou (carries_of_moveWalkers h)

end Grid

end RuleTiles
