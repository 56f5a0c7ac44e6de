/-
**What a move shifts.**

In the first phase of a turn the YOU objects that can step go one cell in the direction of the
move, and with them goes everything in an unbroken line of cells ahead of them that has to be
pushed.  This module shows that nothing else goes, and what becomes of every object.  The plan of
the phase may cut a chain short where others have planned its continuation already; that the rest
is planned in the end follows from the way of everything planned being clear, by induction along
the line.

Main definitions:

* `RuleTiles.Grid.SetsOut` — a YOU object that can step;
* `RuleTiles.Grid.PushedFrom` — an object in an unbroken line of pushing from a position;
* `RuleTiles.Grid.Shifted` — **an object that the first phase shifts**.

Main results:

* `RuleTiles.Grid.get?_plan_cases`, `RuleTiles.Grid.get?_plan_you` — what is planned;
* `RuleTiles.Grid.Shifted.get?_moveYou`, `RuleTiles.Grid.get?_moveYou_of_no_arrival` — every entry
  of the board after the first phase;
* `RuleTiles.Grid.mem_events_moveYou` — its account;
* `RuleTiles.Grid.number_moveYou` — the number of objects of a PUSH kind is kept;
* `RuleTiles.Grid.moveYou_shifts` — **what the first phase shifts, and what it leaves**.
-/

import RuleTiles.Proofs.Turn.Merged

set_option relaxedAutoImplicit false
set_option autoImplicit false

namespace RuleTiles

namespace Grid

/-- A YOU object that can step in the direction of the move. -/
def SetsOut (g : Grid) (rules : RuleSet) (d : Direction) (o : Object) : Prop :=
  o ∈ g.having rules .you ∧ g.canStep rules o.pos d = true

/-- An object that has to be pushed by what steps off a position: it lies some steps away, and on
every cell in between lies something that has to be pushed, too. -/
def PushedFrom (g : Grid) (rules : RuleSet) (d : Direction) (p : Position) (o : Object) : Prop :=
  o ∈ g.having rules .push ∧ ∃ n, 1 ≤ n ∧ o.pos = p.along d n ∧
    ∀ i, 1 ≤ i → i < n → rules.pushable (g.cell (p.along d i)) = true

/-- **An object that the first phase shifts**: a YOU object that can step, or one that such an
object pushes. -/
def Shifted (g : Grid) (rules : RuleSet) (d : Direction) (o : Object) : Prop :=
  g.SetsOut rules d o ∨ ∃ s, g.SetsOut rules d s ∧ g.PushedFrom rules d s.pos o

variable {g : Grid} {rules : RuleSet} {d : Direction} {plan : Plan} {p : Position} {o : Object}
  {x : Direction}

/-! ### What is planned -/

/-- What is pushed from the next cell is pushed from this one, when something there is. -/
theorem PushedFrom.of_step (h : g.PushedFrom rules d (p.step d) o)
    (hpush : rules.pushable (g.cell (p.step d)) = true) : g.PushedFrom rules d p o := by
  obtain ⟨ho, n, hn, hpos, hline⟩ := h
  refine ⟨ho, n + 1, Nat.le_add_left _ _, by rw [hpos, Position.along_step], fun i hi hin => ?_⟩
  obtain ⟨i, rfl⟩ := Nat.exists_eq_add_of_le' hi
  cases i with
  | zero => simpa using hpush
  | succ i =>
      rw [← Position.along_step]
      exact hline (i + 1) (Nat.le_add_left _ _) (by omega)

/-- A chain adds only what is pushed from where it begins. -/
theorem get?_push_cases (h : (Plan.push rules d (g.ray p d) plan).get? o = some x) :
    plan.get? o = some x ∨ x = d ∧ g.PushedFrom rules d p o := by
  induction p using walk_induction (g := g) (d := d) generalizing plan with
  | edge p hedge =>
      rw [ray_eq, if_neg (by simp [hedge])] at h
      exact .inl h
  | ahead p hstep ih =>
      rw [ray_eq, if_pos hstep] at h
      unfold Plan.push at h
      dsimp only at h
      split at h
      · exact .inl h
      · rename_i hsome
        obtain ⟨k, hk⟩ := List.exists_mem_of_ne_nil _ (mt List.isEmpty_iff.2 hsome)
        obtain ⟨hk, hpush, _⟩ := Plan.mem_pushed.1 hk
        have hpushable := RuleSet.pushable_of_mem hk hpush
        rcases ih h with hinserted | ⟨rfl, hbeyond⟩
        · rw [Plan.get?_insertEach] at hinserted
          split at hinserted
          · rename_i hnew
            obtain ⟨hpos, hkind⟩ := hnew
            obtain ⟨hkind, hgrants, _⟩ := Plan.mem_pushed.1 hkind
            cases hinserted
            rw [← hpos] at hkind
            refine .inr ⟨rfl, mem_having.2 ⟨mem_objects.2 hkind, hgrants⟩, 1, Nat.le_refl 1, ?_, ?_⟩
            · rw [hpos, Position.along_one]
            · intro i hi hlt
              omega
          · exact .inl hinserted
        · exact .inr ⟨rfl, hbeyond.of_step hpushable⟩

/-- Chains one after another add only what is pushed by one of their steppers. -/
theorem get?_foldl_push_cases {steppers : List (Object × Direction)}
    (h : (steppers.foldl (fun plan s => Plan.push rules s.2 (g.ray s.1.pos s.2) plan) plan).get? o =
      some x) :
    plan.get? o = some x ∨ ∃ s ∈ steppers, x = s.2 ∧ g.PushedFrom rules s.2 s.1.pos o := by
  induction steppers generalizing plan with
  | nil => exact .inl h
  | cons s steppers ih =>
      rcases ih h with hfirst | ⟨s', hs', hpushed⟩
      · rcases get?_push_cases hfirst with hold | ⟨hx, hpushed⟩
        · exact .inl hold
        · exact .inr ⟨s, List.mem_cons_self .., hx, hpushed⟩
      · exact .inr ⟨s', List.mem_cons_of_mem _ hs', hpushed⟩

/-- **What is planned** is a stepper, or is pushed by one of the steppers. -/
theorem get?_plan_cases {steppers : List (Object × Direction)}
    (h : (g.plan rules steppers).get? o = some x) :
    (o, x) ∈ steppers ∨ ∃ s ∈ steppers, x = s.2 ∧ g.PushedFrom rules s.2 s.1.pos o := by
  rcases get?_foldl_push_cases h with hstepper | hpushed
  · exact .inl (Plan.mem_of_get?_ofSteppers hstepper)
  · exact .inr hpushed

/-- An object keeps its direction when the chains are added. -/
theorem get?_foldl_push {steppers : List (Object × Direction)} (h : plan.get? o = some x) :
    (steppers.foldl (fun plan s => Plan.push rules s.2 (g.ray s.1.pos s.2) plan) plan).get? o =
      some x := by
  induction steppers generalizing plan with
  | nil => exact h
  | cons s steppers ih => exact ih (Plan.get?_push h)

/-- A stepper is planned, in a direction of its own. -/
theorem exists_get?_plan_of_stepper {steppers : List (Object × Direction)} {s : Object × Direction}
    (hs : s ∈ steppers) : ∃ x, (s.1, x) ∈ steppers ∧ (g.plan rules steppers).get? s.1 = some x := by
  have hkey : s.1 ∈ (Plan.ofSteppers steppers).keys := by
    rw [Plan.ofSteppers, SortedMap.mem_keys_insertAll]
    exact .inr ⟨s, hs, rfl⟩
  obtain ⟨x, hx⟩ := Option.isSome_iff_exists.1 (SortedMap.mem_keys.1 hkey)
  exact ⟨x, Plan.mem_of_get?_ofSteppers hx, get?_foldl_push hx⟩

/-- Every stepper is planned. -/
theorem stepper_mem_plan {steppers : List (Object × Direction)} {s : Object × Direction}
    (hs : s ∈ steppers) : s.1 ∈ (g.plan rules steppers).keys := by
  obtain ⟨x, _, hx⟩ := exists_get?_plan_of_stepper hs
  rw [SortedMap.mem_keys, hx]
  rfl

/-! ### The plan of the first phase -/

theorem mem_youSteppers {s : Object × Direction} :
    s ∈ g.youSteppers rules d ↔ g.SetsOut rules d s.1 ∧ s.2 = d := by
  obtain ⟨o, x⟩ := s
  simp only [youSteppers, List.mem_map, List.mem_filter, Prod.mk.injEq, SetsOut]
  constructor
  · rintro ⟨o', ho', rfl, rfl⟩
    exact ⟨ho', rfl⟩
  · rintro ⟨ho, rfl⟩
    exact ⟨o, ho, rfl, rfl⟩

/-- In the first phase everything goes the same way. -/
theorem direction_of_planned (h : (g.plan rules (g.youSteppers rules d)).get? o = some x) :
    x = d := by
  rcases get?_plan_cases h with hs | ⟨s, hs, rfl, _⟩
  · exact (mem_youSteppers.1 hs).2
  · exact (mem_youSteppers.1 hs).2

theorem get?_of_mem_keys (h : o ∈ (g.plan rules (g.youSteppers rules d)).keys) :
    (g.plan rules (g.youSteppers rules d)).get? o = some d := by
  obtain ⟨x, hx⟩ := Option.isSome_iff_exists.1 (SortedMap.mem_keys.1 h)
  rw [hx, direction_of_planned hx]

/-- Along the line ahead of a stepper everything that has to be pushed is planned, up to the first
cell without it. -/
theorem mem_keys_of_along {s : Object} (hs : g.SetsOut rules d s) {n : Nat}
    (hline : ∀ i, 1 ≤ i → i < n + 1 → rules.pushable (g.cell (s.pos.along d i)) = true) {k : Kind}
    (hk : k ∈ (g.cell (s.pos.along d (n + 1))).kinds) (hpush : rules.grants k .push = true) :
    (⟨s.pos.along d (n + 1), k⟩ : Object) ∈ (g.plan rules (g.youSteppers rules d)).keys := by
  have hfree := g.free_you rules d
  induction n generalizing k with
  | zero =>
      have hstepper : (s, d) ∈ g.youSteppers rules d := mem_youSteppers.2 ⟨hs, rfl⟩
      have hmem : s ∈ (g.plan rules (g.youSteppers rules d)).keys := stepper_mem_plan hstepper
      have hplanned := get?_of_mem_keys hmem
      rw [Nat.zero_add, Position.along_one] at hk ⊢
      exact (cleared_plan hfree hplanned).planned k hk hpush
  | succ n ih =>
      -- something on the cell before is planned, and its way is clear
      obtain ⟨k', hk', hpush'⟩ :=
        List.any_eq_true.1 (hline (n + 1) (Nat.le_add_left _ _) (Nat.lt_succ_self _))
      have hplanned := get?_of_mem_keys
        (ih (fun i hi hin => hline i hi (Nat.lt_succ_of_lt hin)) hk' hpush')
      rw [← Position.step_along] at hk ⊢
      exact (cleared_plan hfree hplanned).planned k hk hpush

/-- **What is planned in the first phase** is what is shifted, all in the direction of the move. -/
theorem get?_plan_you :
    (g.plan rules (g.youSteppers rules d)).get? o = some x ↔ x = d ∧ g.Shifted rules d o := by
  constructor
  · intro h
    refine ⟨direction_of_planned h, ?_⟩
    rcases get?_plan_cases h with hs | ⟨s, hs, _, hpushed⟩
    · exact .inl (mem_youSteppers.1 hs).1
    · obtain ⟨hsets, hdirection⟩ := mem_youSteppers.1 hs
      rw [hdirection] at hpushed
      exact .inr ⟨s.1, hsets, hpushed⟩
  · rintro ⟨rfl, hsets | ⟨s, hsets, ho, n, hn, hpos, hline⟩⟩
    · exact get?_of_mem_keys
        (stepper_mem_plan (s := (o, x)) (mem_youSteppers.2 ⟨hsets, rfl⟩))
    · obtain ⟨hobject, hpush⟩ := mem_having.1 ho
      have hk := mem_objects.1 hobject
      obtain ⟨n, rfl⟩ := Nat.exists_eq_add_of_le' hn
      rw [hpos] at hk
      have hmem := mem_keys_of_along hsets hline hk hpush
      rw [← hpos] at hmem
      exact get?_of_mem_keys hmem

theorem mem_entries_plan_you {e : Object × Direction} :
    e ∈ (g.plan rules (g.youSteppers rules d)).entries ↔ e.2 = d ∧ g.Shifted rules d e.1 := by
  rw [← get?_plan_you, SortedMap.get?_eq_some_iff]

theorem mem_keys_plan_you :
    o ∈ (g.plan rules (g.youSteppers rules d)).keys ↔ g.Shifted rules d o := by
  rw [SortedMap.mem_keys, Option.isSome_iff_exists]
  constructor
  · rintro ⟨x, hx⟩
    exact (get?_plan_you.1 hx).2
  · intro h
    exact ⟨d, get?_plan_you.2 ⟨rfl, h⟩⟩

/-! ### What is shifted -/

theorem Shifted.mem_objects (h : g.Shifted rules d o) : o ∈ g.objects := by
  rcases h with hsets | ⟨_, _, hpushed⟩
  · exact (mem_having.1 hsets.1).1
  · exact (mem_having.1 hpushed.1).1

theorem Shifted.cleared (h : g.Shifted rules d o) :
    g.Cleared rules (g.plan rules (g.youSteppers rules d)) o.pos d :=
  cleared_plan (g.free_you rules d) (get?_plan_you.2 ⟨rfl, h⟩)

/-- What is shifted can step. -/
theorem Shifted.canStep (h : g.Shifted rules d o) : g.canStep rules o.pos d = true := by
  rcases h with hsets | ⟨s, hsets, ho, n, _, hpos, hline⟩
  · exact hsets.2
  · obtain ⟨hobject, hpush⟩ := mem_having.1 ho
    have hlast := RuleSet.pushable_of_mem (Grid.mem_objects.1 hobject) hpush
    rw [hpos] at hlast ⊢
    -- the way stays open along the line
    have open_along : ∀ m, m ≤ n → g.canStep rules (s.pos.along d m) d = true := by
      intro m
      induction m with
      | zero =>
          intro _
          rw [Position.along_zero]
          exact hsets.2
      | succ m ih =>
          intro hm
          rw [← Position.step_along]
          refine canStep_of_pushable (ih (by omega)) ?_
          rw [Position.step_along]
          rcases Nat.lt_or_eq_of_le hm with hlt | rfl
          · exact hline (m + 1) (Nat.le_add_left _ _) hlt
          · exact hlast
    exact open_along n (Nat.le_refl n)

/-- Different objects of a kind are shifted to different cells. -/
theorem Shifted.eq_of_step {o' : Object} (h : g.Shifted rules d o) (h' : g.Shifted rules d o')
    (hkind : o.kind = o'.kind) (hstep : o.pos.step d = o'.pos.step d) : o = o' := by
  have hp := contains_of_mem_kinds (Grid.mem_objects.1 h.mem_objects)
  have hp' := contains_of_mem_kinds (Grid.mem_objects.1 h'.mem_objects)
  exact Object.ext (step_inj hp hp' hstep) hkind

/-! ### The board after the phase -/

/-- The YOU objects have turned, and nothing else. -/
theorem get?_youTurned (g : Grid) (rules : RuleSet) (d : Direction) (q : Position) (k : Kind) :
    ((g.youTurned rules d).cell q).get? k =
      if rules.grants k .you then ((g.cell q).get? k).map fun _ => some d
      else (g.cell q).get? k := by
  rw [youTurned, get?_turnAll]
  simp only [mem_having, Grid.mem_objects]
  by_cases hk : k ∈ (g.cell q).kinds
  · simp only [hk, true_and]
  · simp only [hk, false_and, Cell.get?_eq_none_iff.2 hk, Option.map_none, ite_self]

/-- What arrives on a cell faces the direction of the move. -/
theorem Shifted.get?_moveYou (h : g.Shifted rules d o) :
    ((g.moveYou rules d).1.cell (o.pos.step d)).get? o.kind = some (some d) := by
  have hcontains : (g.youTurned rules d).contains (o.pos.step d) = true := by
    rw [← (g.sameSize_youTurned rules d).contains]
    exact h.cleared.contains
  have hplaceable : o.kind.isPlaceable = true :=
    Cell.isPlaceable_of_mem_kinds (Grid.mem_objects.1 h.mem_objects)
  have harriving := Plan.mem_arriving_of_get? (get?_plan_you.2 ⟨rfl, h⟩)
  obtain ⟨e, he, hget⟩ := exists_get?_carryOut hcontains hplaceable harriving
  rw [moveYou_eq, hget, (mem_entries_plan_you.1 (Plan.mem_arriving.1 he).1).1]

/-- Where no object of its kind arrives, what is shifted is gone and the rest has at most turned. -/
theorem get?_moveYou_of_no_arrival {q : Position} {k : Kind}
    (h : ∀ o, g.Shifted rules d o → ¬(o.pos.step d = q ∧ o.kind = k)) :
    (g.Shifted rules d ⟨q, k⟩ → ((g.moveYou rules d).1.cell q).get? k = none) ∧
      (¬g.Shifted rules d ⟨q, k⟩ → ((g.moveYou rules d).1.cell q).get? k =
        if rules.grants k .you then ((g.cell q).get? k).map fun _ => some d
        else (g.cell q).get? k) := by
  have hnone : (g.plan rules (g.youSteppers rules d)).arriving q k = [] := by
    refine List.eq_nil_iff_forall_not_mem.2 fun e he => ?_
    obtain ⟨he, hstep, hkind⟩ := Plan.mem_arriving.1 he
    obtain ⟨hdirection, hshifted⟩ := mem_entries_plan_you.1 he
    rw [hdirection] at hstep
    exact h e.1 hshifted ⟨hstep, hkind⟩
  rw [moveYou_eq, get?_carryOut_of_arriving_eq_nil hnone]
  refine ⟨fun hshifted => if_pos (mem_keys_plan_you.2 hshifted), fun hshifted => ?_⟩
  rw [if_neg (mt mem_keys_plan_you.1 hshifted), get?_youTurned]

/-- **The number of objects of a kind that has to be pushed is kept**: no two arrive on one cell. -/
theorem number_moveYou {k : Kind} (hpush : rules.grants k .push = true) :
    (g.moveYou rules d).1.number k = g.number k := by
  have hmerged : g.merged (g.plan rules (g.youSteppers rules d)).events k = 0 := by
    refine merged_eq_zero_iff.2 fun q _ => ?_
    rw [arrivals_events]
    have hnodup : ((g.plan rules (g.youSteppers rules d)).arriving q k).Nodup :=
      (SortedMap.nodup_keys _).of_map.filter _
    have hsame : ∀ e ∈ (g.plan rules (g.youSteppers rules d)).arriving q k,
        ∀ e' ∈ (g.plan rules (g.youSteppers rules d)).arriving q k, e = e' := by
      intro e he e' he'
      obtain ⟨he, hstep, hkind⟩ := Plan.mem_arriving.1 he
      obtain ⟨he', hstep', hkind'⟩ := Plan.mem_arriving.1 he'
      obtain ⟨hdirection, hshifted⟩ := mem_entries_plan_you.1 he
      obtain ⟨hdirection', hshifted'⟩ := mem_entries_plan_you.1 he'
      rw [hdirection] at hstep
      rw [hdirection'] at hstep'
      exact Prod.ext (hshifted.eq_of_step hshifted' (hkind.trans hkind'.symm)
        (hstep.trans hstep'.symm)) (hdirection.trans hdirection'.symm)
    cases harriving : (g.plan rules (g.youSteppers rules d)).arriving q k with
    | nil => exact Nat.zero_le 1
    | cons e es =>
        rw [harriving] at hnodup hsame
        have hsub : e :: es ⊆ [e] := fun e' he' =>
          List.mem_singleton.2 (hsame e' he' e (List.mem_cons_self ..))
        exact (List.subperm_of_subset hnodup hsub).length_le
  rw [moveYou_eq, ← number_carryOut (g.free_you rules d) (g.sameSize_youTurned rules d)
    (g.kinds_youTurned rules d) hpush, hmerged, Nat.add_zero]

/-- One event is told for each object that is shifted, and for nothing else. -/
theorem mem_events_moveYou {e : Event} :
    e ∈ (g.moveYou rules d).2 ↔
      ∃ o, g.Shifted rules d o ∧ e = .moved o.kind o.pos (o.pos.step d) := by
  rw [moveYou_eq, Plan.events, List.mem_map]
  constructor
  · rintro ⟨e, he, rfl⟩
    obtain ⟨hdirection, hshifted⟩ := mem_entries_plan_you.1 he
    exact ⟨e.1, hshifted, by rw [hdirection]⟩
  · rintro ⟨o, ho, rfl⟩
    exact ⟨(o, d), mem_entries_plan_you.2 ⟨rfl, ho⟩, rfl⟩

/-- **What the first phase of a turn shifts, and what it leaves.**  One event is told for each
object that is shifted and for nothing else.  Each of them lands on the board, one cell further on
and facing the direction of the move, and no two of a kind land on one cell.  Where no object of
its kind lands, what was shifted has left its cell, and every other object is as before, but that
YOU objects have turned.  A YOU object that cannot step is not even pushed.  The number of objects
of a kind that has to be pushed, and so of every word, is kept. -/
theorem moveYou_shifts (g : Grid) (rules : RuleSet) (d : Direction) :
    ((g.moveYou rules d).2.Nodup ∧ ∀ e, e ∈ (g.moveYou rules d).2 ↔
      ∃ o, g.Shifted rules d o ∧ e = .moved o.kind o.pos (o.pos.step d)) ∧
    (∀ o, g.Shifted rules d o → g.contains (o.pos.step d) = true ∧
      ((g.moveYou rules d).1.cell (o.pos.step d)).get? o.kind = some (some d)) ∧
    (∀ q k, (∀ o, g.Shifted rules d o → ¬(o.pos.step d = q ∧ o.kind = k)) →
      (g.Shifted rules d ⟨q, k⟩ → ((g.moveYou rules d).1.cell q).get? k = none) ∧
        (¬g.Shifted rules d ⟨q, k⟩ → ((g.moveYou rules d).1.cell q).get? k =
          if rules.grants k .you then ((g.cell q).get? k).map fun _ => some d
          else (g.cell q).get? k)) ∧
    (∀ o ∈ g.having rules .you, g.canStep rules o.pos d = false →
      ¬g.Shifted rules d o ∧ ((g.moveYou rules d).1.cell o.pos).get? o.kind = some (some d)) ∧
    (∀ k, rules.grants k .push = true ∨ k.isText = true →
      (g.moveYou rules d).1.number k = g.number k) ∧
    (∀ o o', g.Shifted rules d o → g.Shifted rules d o' → o.kind = o'.kind →
      o.pos.step d = o'.pos.step d → o = o') := by
  refine ⟨⟨Plan.nodup_events _, fun e => mem_events_moveYou⟩,
    fun o ho => ⟨ho.cleared.contains, ho.get?_moveYou⟩, fun q k => get?_moveYou_of_no_arrival,
    fun o ho hblocked => ?_, fun k hk => ?_, fun o o' ho ho' => ho.eq_of_step ho'⟩
  · have hfixed : ¬g.Shifted rules d o := by
      intro hshifted
      rw [hshifted.canStep] at hblocked
      cases hblocked
    refine ⟨hfixed, ?_⟩
    by_cases harrival : ∃ s, g.Shifted rules d s ∧ s.pos.step d = o.pos ∧ s.kind = o.kind
    · obtain ⟨s, hs, hstep, hkind⟩ := harrival
      rw [← hstep, ← hkind]
      exact hs.get?_moveYou
    · -- it has turned on its cell
      have hstays := (get?_moveYou_of_no_arrival (q := o.pos) (k := o.kind)
        fun s hs h => harrival ⟨s, hs, h⟩).2 hfixed
      obtain ⟨hobject, hyou⟩ := mem_having.1 ho
      obtain ⟨facing, hget⟩ :=
        Option.isSome_iff_exists.1 (Cell.mem_kinds.1 (Grid.mem_objects.1 hobject))
      rw [hstays, if_pos hyou, hget]
      rfl
  · rcases hk with hpush | htext
    · exact number_moveYou hpush
    · exact number_moveYou (RuleSet.grants_push_of_isText htext)

end Grid

end RuleTiles
