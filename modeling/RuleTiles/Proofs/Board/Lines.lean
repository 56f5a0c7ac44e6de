/-
**Lines of cells.**

Looking ahead from a position means looking along a line of cells up to the edge of the board.  A
board is never so large that the look has to stop short of the edge, so the line ahead is the next
cell followed by the line ahead of that one.  What is true at the edge, and true one step before
wherever it is true, is therefore true everywhere.

Main definitions:

* `RuleTiles.Position.along` — the position some number of steps away;
* `RuleTiles.Grid.runway` — the number of cells ahead.

Main results:

* `RuleTiles.Grid.step_step_reverse`, `RuleTiles.Grid.step_inj` — on the board a step can be taken
  back;
* `RuleTiles.Grid.ray_eq` — **the line ahead, cell by cell**;
* `RuleTiles.Grid.walk_induction` — induction from the edge;
* `RuleTiles.Grid.canStep_eq_true`, `RuleTiles.Grid.canStep_of_pushable` — what it takes to step.
-/

import RuleTiles.Turn.Push

set_option relaxedAutoImplicit false
set_option autoImplicit false

namespace RuleTiles

/-! ### Positions in a line -/

namespace Position

/-- The position `n` steps away. -/
def along (p : Position) (d : Direction) (n : Nat) : Position :=
  .clamp (p.row.val + n * d.offset.1) (p.col.val + n * d.offset.2)

@[simp] theorem along_zero (p : Position) (d : Direction) : p.along d 0 = p := by
  simp [along, clamp]

@[simp] theorem along_one (p : Position) (d : Direction) : p.along d 1 = p.step d := by
  simp [along, step, clamp]

/-- One more step, also where the range of coordinates ends. -/
theorem step_along (p : Position) (d : Direction) (n : Nat) :
    (p.along d n).step d = p.along d (n + 1) := by
  have hrow := p.row.lower
  have hrow' := p.row.upper
  have hcol := p.col.lower
  have hcol' := p.col.upper
  refine Position.ext (Coord.ext ?_) (Coord.ext ?_)
  · cases d <;> simp only [along, step, clamp, Direction.offset, Coord.val_clamp] <;> omega
  · cases d <;> simp only [along, step, clamp, Direction.offset, Coord.val_clamp] <;> omega

/-- The first of the steps may be taken before the others. -/
theorem along_step (p : Position) (d : Direction) (n : Nat) :
    (p.step d).along d n = p.along d (n + 1) := by
  induction n with
  | zero => rw [along_zero, Nat.zero_add, along_one]
  | succ n ih => rw [← step_along, ih, step_along]

end Position

/-- A cell with something that has to be pushed is one to push. -/
theorem RuleSet.pushable_of_mem {rules : RuleSet} {c : Cell} {k : Kind} (hk : k ∈ c.kinds)
    (hpush : rules.grants k .push = true) : rules.pushable c = true :=
  List.any_eq_true.2 ⟨k, hk, hpush⟩

namespace Grid

variable {g : Grid} {rules : RuleSet} {d : Direction} {p q : Position}

/-- The coordinates of a position next to the board are exact. -/
theorem val_step (hp : g.contains p = true) (d : Direction) :
    (p.step d).row.val = p.row.val + d.offset.1 ∧ (p.step d).col.val = p.col.val + d.offset.2 := by
  obtain ⟨hrow, hcol, hrow_lt, hcol_lt⟩ := contains_iff.1 hp
  have hheight := g.height_le
  have hwidth := g.width_le
  unfold maxDimension at hheight hwidth
  cases d <;> simp only [Position.step, Direction.offset, Coord.val_clamp] <;> omega

/-- On the board a step can be taken back. -/
theorem step_step_reverse (hp : g.contains p = true) (d : Direction) :
    (p.step d).step d.reverse = p := by
  obtain ⟨hrow, hcol⟩ := val_step hp d
  have hlower := p.row.lower
  have hupper := p.row.upper
  have hlower' := p.col.lower
  have hupper' := p.col.upper
  refine Position.ext (Coord.ext ?_) (Coord.ext ?_)
  · rw [Position.step, Coord.val_clamp, hrow]
    cases d <;> simp only [Direction.reverse, Direction.offset] <;> omega
  · rw [Position.step, Coord.val_clamp, hcol]
    cases d <;> simp only [Direction.reverse, Direction.offset] <;> omega

/-- Steps in one direction from different positions of the board end at different positions. -/
theorem step_inj (hp : g.contains p = true) (hq : g.contains q = true)
    (h : p.step d = q.step d) : p = q := by
  rw [← step_step_reverse hp d, h, step_step_reverse hq d]

/-! ### The line ahead -/

/-- The number of cells ahead of a position of the board. -/
def runway (g : Grid) (d : Direction) (p : Position) : Nat :=
  match d with
  | .up => p.row.val.toNat
  | .down => g.height - 1 - p.row.val.toNat
  | .left => p.col.val.toNat
  | .right => g.width - 1 - p.col.val.toNat

/-- One step brings the edge one cell nearer. -/
theorem runway_step (hp : g.contains p = true) (hstep : g.contains (p.step d) = true) :
    g.runway d (p.step d) + 1 = g.runway d p := by
  obtain ⟨hrow, hcol⟩ := val_step hp d
  obtain ⟨hr, hc, hr_lt, hc_lt⟩ := contains_iff.1 hp
  obtain ⟨hr', hc', hr_lt', hc_lt'⟩ := contains_iff.1 hstep
  cases d <;> simp only [Direction.offset] at hrow hcol <;> simp only [runway] <;> omega

theorem runway_lt (hp : g.contains p = true) (d : Direction) :
    g.runway d p < max g.width g.height := by
  obtain ⟨hr, hc, hr_lt, hc_lt⟩ := contains_iff.1 hp
  cases d <;> simp only [runway] <;> omega

theorem rayWithin_succ (g : Grid) (d : Direction) (n : Nat) (p : Position) :
    g.rayWithin d (n + 1) p =
      if g.contains (p.step d) then (p.step d, g.cell (p.step d)) :: g.rayWithin d n (p.step d)
      else [] := by
  conv => lhs; unfold rayWithin
  cases hstep : g.contains (p.step d) with
  | true => simp [at?_eq_some_cell hstep]
  | false => simp [at?_eq_none_iff.2 hstep]

/-- At the edge nothing is ahead. -/
theorem rayWithin_of_runway_eq_zero (hp : g.contains p = true) (hzero : g.runway d p = 0)
    (n : Nat) : g.rayWithin d n p = [] := by
  cases n with
  | zero => rfl
  | succ n =>
      rw [rayWithin_succ, if_neg]
      intro hstep
      have hrunway := runway_step hp hstep
      omega

/-- However far the look may go, it ends at the edge. -/
theorem rayWithin_eq_of_le (hp : g.contains p = true) {n m : Nat} (hn : g.runway d p ≤ n)
    (hm : g.runway d p ≤ m) : g.rayWithin d n p = g.rayWithin d m p := by
  induction n generalizing p m with
  | zero =>
      have hzero : g.runway d p = 0 := Nat.le_zero.1 hn
      rw [rayWithin_of_runway_eq_zero hp hzero, rayWithin_of_runway_eq_zero hp hzero]
  | succ n ih =>
      cases m with
      | zero =>
          have hzero : g.runway d p = 0 := Nat.le_zero.1 hm
          rw [rayWithin_of_runway_eq_zero hp hzero, rayWithin_of_runway_eq_zero hp hzero]
      | succ m =>
          rw [rayWithin_succ, rayWithin_succ]
          split
          · rename_i hstep
            have hrunway := runway_step hp hstep
            rw [ih hstep (m := m) (by omega) (by omega)]
          · rfl

/-- **The line ahead, cell by cell.** -/
theorem ray_eq (g : Grid) (p : Position) (d : Direction) :
    g.ray p d =
      if g.contains (p.step d) then (p.step d, g.cell (p.step d)) :: g.ray (p.step d) d
      else [] := by
  have hwidth := g.width_pos
  obtain ⟨n, hn⟩ : ∃ n, max g.width g.height = n + 1 := ⟨max g.width g.height - 1, by omega⟩
  unfold ray
  rw [hn, rayWithin_succ]
  split
  · rename_i hstep
    have hrunway := runway_lt hstep d
    rw [rayWithin_eq_of_le hstep (n := n) (m := n + 1) (by omega) (by omega)]
  · rfl

/-- **Induction from the edge**: what holds where no cell is ahead, and one step before wherever it
holds, holds everywhere. -/
theorem walk_induction {motive : Position → Prop}
    (edge : ∀ p, g.contains (p.step d) = false → motive p)
    (ahead : ∀ p, g.contains (p.step d) = true → motive (p.step d) → motive p) (p : Position) :
    motive p := by
  -- on the board the cells ahead become fewer
  have onBoard : ∀ n p, g.contains p = true → g.runway d p = n → motive p := by
    intro n
    induction n with
    | zero =>
        intro p hp hn
        refine edge p (Bool.eq_false_iff.2 fun hstep => ?_)
        have := runway_step hp hstep
        omega
    | succ n ih =>
        intro p hp hn
        cases hstep : g.contains (p.step d) with
        | false => exact edge p hstep
        | true =>
            have hrunway := runway_step hp hstep
            exact ahead p hstep (ih (p.step d) hstep (by omega))
  cases hstep : g.contains (p.step d) with
  | false => exact edge p hstep
  | true => exact ahead p hstep (onBoard _ _ hstep rfl)

/-! ### Whether an object can step -/

/-- **What it takes to step**: the next cell is on the board, nothing on it bars the way, and if
something on it has to be pushed, the same holds one cell further on. -/
theorem canStep_eq_true :
    g.canStep rules p d = true ↔
      g.contains (p.step d) = true ∧ (∀ k ∈ (g.cell (p.step d)).kinds, rules.bars k = false) ∧
        (rules.pushable (g.cell (p.step d)) = true → g.canStep rules (p.step d) d = true) := by
  unfold canStep
  rw [ray_eq g p d]
  cases hstep : g.contains (p.step d) with
  | false => simp [RuleSet.isOpen]
  | true =>
      rw [if_pos rfl, RuleSet.isOpen]
      cases hbars : (g.cell (p.step d)).kinds.any rules.bars with
      | true =>
          obtain ⟨k, hk, hbar⟩ := List.any_eq_true.1 hbars
          simp only [if_true, Bool.false_eq_true, true_and, false_iff, not_and]
          intro hclear
          rw [hclear k hk] at hbar
          cases hbar
      | false =>
          have hclear : ∀ k ∈ (g.cell (p.step d)).kinds, rules.bars k = false := by
            intro k hk
            simpa using List.any_eq_false.1 hbars k hk
          cases hpush : rules.pushable (g.cell (p.step d)) with
          | true => simpa using fun _ => hclear
          | false => simpa using hclear

/-- Who can step onto a cell with something to push lets the pushed step on, too. -/
theorem canStep_of_pushable (h : g.canStep rules p d = true)
    (hpush : rules.pushable (g.cell (p.step d)) = true) :
    g.canStep rules (p.step d) d = true :=
  (canStep_eq_true.1 h).2.2 hpush

end Grid

end RuleTiles
