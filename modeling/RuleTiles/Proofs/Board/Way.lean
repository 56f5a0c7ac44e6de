/-
**Whether the way is open.**

Whether an object can step is a matter of recursion: the next cell has to be on the board, nothing
on it may bar the way, and every object on it that has to be pushed has to be able to step itself.
The recursion branches over the objects of a cell, but they all stand on one cell and ask the same
question, so that it comes to a single walk along the cells ahead.  The walk is made here round by
round, each round with one pass over the objects of one cell.  It ends, from whatever position it
starts: its first step leads onto the board or ends it, and on the board the edge comes nearer with
every step.

Main definitions:

* `RuleTiles.RuleSet.survey` — one pass over the kinds on a cell;
* `RuleTiles.Grid.look`, `RuleTiles.Grid.Looks` — one round of the walk, and the walk;
* `RuleTiles.Grid.MayStep` — the recursion over objects;
* `RuleTiles.Grid.OpenAfter` — the way is open after some number of cells.

Main results:

* `RuleTiles.Grid.exists_looks`, `RuleTiles.Grid.Looks.eq_canStep` — the walk ends, with the
  answer whether the object can step and with no other;
* `RuleTiles.Grid.canStep_iff_mayStep` — the answer is that of the recursion;
* `RuleTiles.Grid.canStep_iff_openAfter` — the cells along an open way;
* `RuleTiles.Grid.canStep_decides_mayStep` — **the walk decides the recursion**.
-/

import RuleTiles.Proofs.Board.Lines

set_option relaxedAutoImplicit false
set_option autoImplicit false

namespace RuleTiles

/-! ### One cell -/

namespace RuleSet

variable {rules : RuleSet}

/-- One pass over the kinds on a cell: nothing when one of them bars the way, and otherwise whether
one of them, or one before, has to be pushed. -/
def survey (rules : RuleSet) (pushes : Bool) : List Kind → Option Bool
  | [] => some pushes
  | k :: rest =>
    if rules.grants k .push then rules.survey true rest
    else if rules.grants k .stop then none
    else rules.survey pushes rest

/-- An object bars the way when it is STOP without being PUSH. -/
theorem bars_eq_false {k : Kind} :
    rules.bars k = false ↔ (rules.grants k .stop = true → rules.grants k .push = true) := by
  unfold bars
  cases rules.grants k .stop <;> cases rules.grants k .push <;> decide

/-- **What one pass finds out**: whether the way is barred, and whether there is something to
push. -/
theorem survey_eq (rules : RuleSet) (pushes : Bool) (ks : List Kind) :
    rules.survey pushes ks =
      if ks.any rules.bars then none
      else some (pushes || ks.any fun k => rules.grants k .push) := by
  induction ks generalizing pushes with
  | nil => simp [survey]
  | cons k rest ih =>
      rw [survey, List.any_cons, List.any_cons]
      cases hpush : rules.grants k .push with
      | true => simp [ih, bars, hpush]
      | false =>
          cases hstop : rules.grants k .stop with
          | true => simp [bars, hpush, hstop]
          | false => simp [ih, bars, hpush, hstop]

end RuleSet

namespace Grid

/-! ### The walk -/

/-- One round of the walk: it looks at the next cell, and ends with an answer or goes on from
there. -/
def look (g : Grid) (rules : RuleSet) (d : Direction) (p : Position) : Bool ⊕ Position :=
  match g.at? (p.step d) with
  | none => .inl false
  | some c =>
    match rules.survey false c.kinds with
    | none => .inl false
    | some false => .inl true
    | some true => .inr (p.step d)

/-- The walk from a position ends after some number of rounds, with an answer. -/
inductive Looks (g : Grid) (rules : RuleSet) (d : Direction) : Position → Nat → Bool → Prop
  /-- The round is the last one. -/
  | last {p : Position} {answer : Bool} (h : g.look rules d p = .inl answer) :
      Looks g rules d p 1 answer
  /-- The walk goes on. -/
  | onward {p q : Position} {n : Nat} {answer : Bool} (h : g.look rules d p = .inr q)
      (hrest : Looks g rules d q n answer) : Looks g rules d p (n + 1) answer

variable {g : Grid} {rules : RuleSet} {d : Direction} {p : Position}

/-- **What one round finds out.** -/
theorem look_eq (g : Grid) (rules : RuleSet) (d : Direction) (p : Position) :
    g.look rules d p =
      if g.contains (p.step d) = true ∧ ∀ k ∈ (g.cell (p.step d)).kinds, rules.bars k = false then
        if rules.pushable (g.cell (p.step d)) then .inr (p.step d) else .inl true
      else .inl false := by
  unfold look
  cases hstep : g.contains (p.step d) with
  | false =>
      rw [at?_eq_none_iff.2 hstep]
      simp
  | true =>
      rw [at?_eq_some_cell hstep]
      dsimp only
      rw [RuleSet.survey_eq]
      cases hbars : (g.cell (p.step d)).kinds.any rules.bars with
      | true =>
          obtain ⟨k, hk, hbar⟩ := List.any_eq_true.1 hbars
          rw [if_pos rfl, if_neg]
          rintro ⟨_, hclear⟩
          rw [hclear k hk] at hbar
          cases hbar
      | false =>
          have hclear : ∀ k ∈ (g.cell (p.step d)).kinds, rules.bars k = false := by
            intro k hk
            simpa using List.any_eq_false.1 hbars k hk
          rw [if_neg Bool.false_ne_true, if_pos ⟨rfl, hclear⟩, Bool.false_or]
          change (match some (rules.pushable (g.cell (p.step d))) with
            | none => _
            | some false => _
            | some true => _) = _
          cases rules.pushable (g.cell (p.step d)) with
          | true => rfl
          | false => rfl

/-- A round that ends the walk ends it with the answer. -/
theorem canStep_of_look_inl {answer : Bool} (h : g.look rules d p = .inl answer) :
    g.canStep rules p d = answer := by
  rw [Bool.eq_iff_iff, canStep_eq_true]
  rw [look_eq] at h
  split at h
  · rename_i hclear
    split at h
    · cases h
    · rename_i hpush
      cases h
      exact iff_of_true ⟨hclear.1, hclear.2, fun h => absurd h hpush⟩ rfl
  · rename_i hbarred
    cases h
    simp only [Bool.false_eq_true, iff_false]
    rintro ⟨hstep, hclear, _⟩
    exact hbarred ⟨hstep, hclear⟩

/-- A walk that goes on goes on from the next cell, and the answer there is the answer here. -/
theorem canStep_of_look_inr {q : Position} (h : g.look rules d p = .inr q) :
    q = p.step d ∧ g.contains q = true ∧ g.canStep rules p d = g.canStep rules q d := by
  rw [look_eq] at h
  split at h
  · rename_i hclear
    split at h
    · rename_i hpush
      cases h
      refine ⟨rfl, hclear.1, ?_⟩
      rw [Bool.eq_iff_iff, canStep_eq_true]
      exact ⟨fun h => h.2.2 hpush, fun h => ⟨hclear.1, hclear.2, fun _ => h⟩⟩
    · cases h
  · cases h

/-- However the walk ends, it ends with the answer whether the object can step. -/
theorem Looks.eq_canStep {n : Nat} {answer : Bool} (h : g.Looks rules d p n answer) :
    answer = g.canStep rules p d := by
  induction h with
  | last h => exact (canStep_of_look_inl h).symm
  | onward h _ ih => rw [ih, (canStep_of_look_inr h).2.2]

/-- The walk ends, at the edge of the board at the latest. -/
theorem exists_looks (g : Grid) (rules : RuleSet) (p : Position) (d : Direction) :
    ∃ n ≤ max g.width g.height + 1, g.Looks rules d p n (g.canStep rules p d) := by
  -- on the board there are no more rounds than cells ahead, and one at the edge
  have key : ∃ n, n ≤ max g.width g.height + 1 ∧
      (g.contains p = true → n ≤ g.runway d p + 1) ∧ g.Looks rules d p n (g.canStep rules p d) := by
    induction p using walk_induction (g := g) (d := d) with
    | edge p hedge =>
        have hlook : g.look rules d p = .inl false := by
          rw [look_eq, if_neg]
          rintro ⟨hstep, _⟩
          rw [hedge] at hstep
          cases hstep
        refine ⟨1, Nat.le_add_left _ _, fun _ => Nat.le_add_left _ _, ?_⟩
        rw [canStep_of_look_inl hlook]
        exact .last hlook
    | ahead p hstep ih =>
        obtain ⟨n, _, hrunway, hlooks⟩ := ih
        cases hlook : g.look rules d p with
        | inl answer =>
            refine ⟨1, Nat.le_add_left _ _, fun _ => Nat.le_add_left _ _, ?_⟩
            rw [canStep_of_look_inl hlook]
            exact .last hlook
        | inr q =>
            obtain ⟨rfl, _, hanswer⟩ := canStep_of_look_inr hlook
            have hahead := hrunway hstep
            have hshort := runway_lt hstep d
            refine ⟨n + 1, by omega, fun hp => ?_, ?_⟩
            · have hnearer := runway_step hp hstep
              omega
            · rw [hanswer]
              exact .onward hlook hlooks
  obtain ⟨n, hn, _, hlooks⟩ := key
  exact ⟨n, hn, hlooks⟩

/-! ### The recursion -/

/-- What it takes to step, object by object: the next cell is on the board, every object on it that
is PUSH can step itself, and none is STOP without being PUSH. -/
inductive MayStep (g : Grid) (rules : RuleSet) (d : Direction) : Position → Prop
  | intro {p : Position} (contains : g.contains (p.step d) = true)
      (pushed : ∀ o ∈ g.objects, o.pos = p.step d → rules.grants o.kind .push = true →
        MayStep g rules d o.pos)
      (unbarred : ∀ o ∈ g.objects, o.pos = p.step d → rules.grants o.kind .stop = true →
        rules.grants o.kind .push = true) : MayStep g rules d p

/-- What can step by the recursion can step. -/
theorem MayStep.canStep (h : g.MayStep rules d p) : g.canStep rules p d = true := by
  induction h with
  | intro hstep _ hunbarred ih =>
      refine canStep_eq_true.2 ⟨hstep, fun k hk => ?_, fun hpush => ?_⟩
      · exact RuleSet.bars_eq_false.2 (hunbarred ⟨_, k⟩ (mem_objects.2 hk) rfl)
      · obtain ⟨k, hk, hgrants⟩ := List.any_eq_true.1 hpush
        exact ih ⟨_, k⟩ (mem_objects.2 hk) rfl hgrants

/-- What can step can do so by the recursion. -/
theorem mayStep_of_canStep (h : g.canStep rules p d = true) : g.MayStep rules d p := by
  induction p using walk_induction (g := g) (d := d) with
  | edge p hedge =>
      rw [canStep_eq_true, hedge] at h
      cases h.1
  | ahead p hstep ih =>
      obtain ⟨_, hclear, hnext⟩ := canStep_eq_true.1 h
      refine .intro hstep (fun o ho hpos hpush => ?_) fun o ho hpos => ?_
      · have hk := mem_objects.1 ho
        rw [hpos] at hk ⊢
        exact ih (hnext (RuleSet.pushable_of_mem hk hpush))
      · have hk := mem_objects.1 ho
        rw [hpos] at hk
        exact RuleSet.bars_eq_false.1 (hclear o.kind hk)

theorem canStep_iff_mayStep : g.canStep rules p d = true ↔ g.MayStep rules d p :=
  ⟨mayStep_of_canStep, MayStep.canStep⟩

/-! ### The cells along an open way -/

/-- The way from a position is open after `n` cells: they are all on the board and nothing on them
bars the way, each but the last has something to push, and the last has nothing. -/
structure OpenAfter (g : Grid) (rules : RuleSet) (d : Direction) (p : Position) (n : Nat) :
    Prop where
  contains : ∀ i, 1 ≤ i → i ≤ n → g.contains (p.along d i) = true
  unbarred : ∀ i, 1 ≤ i → i ≤ n → ∀ k ∈ (g.cell (p.along d i)).kinds,
    rules.grants k .stop = true → rules.grants k .push = true
  pushed : ∀ i, 1 ≤ i → i < n → ∃ k ∈ (g.cell (p.along d i)).kinds, rules.grants k .push = true
  clear : ∀ k ∈ (g.cell (p.along d n)).kinds, rules.grants k .push = false

/-- A way along which something is pushed is open after one cell more. -/
theorem OpenAfter.of_step {n : Nat} (h : g.OpenAfter rules d (p.step d) n)
    (hstep : g.contains (p.step d) = true)
    (hclear : ∀ k ∈ (g.cell (p.step d)).kinds, rules.bars k = false)
    (hpush : rules.pushable (g.cell (p.step d)) = true) : g.OpenAfter rules d p (n + 1) := by
  constructor
  case contains =>
    intro i hi hin
    obtain ⟨i, rfl⟩ := Nat.exists_eq_add_of_le' hi
    cases i with
    | zero => simpa using hstep
    | succ i =>
        rw [← Position.along_step]
        exact h.contains (i + 1) (Nat.le_add_left _ _) (by omega)
  case unbarred =>
    intro i hi hin
    obtain ⟨i, rfl⟩ := Nat.exists_eq_add_of_le' hi
    cases i with
    | zero =>
        rw [Nat.zero_add, Position.along_one]
        exact fun k hk => RuleSet.bars_eq_false.1 (hclear k hk)
    | succ i =>
        rw [← Position.along_step]
        exact h.unbarred (i + 1) (Nat.le_add_left _ _) (by omega)
  case pushed =>
    intro i hi hin
    obtain ⟨i, rfl⟩ := Nat.exists_eq_add_of_le' hi
    cases i with
    | zero =>
        rw [Nat.zero_add, Position.along_one]
        exact List.any_eq_true.1 hpush
    | succ i =>
        rw [← Position.along_step]
        exact h.pushed (i + 1) (Nat.le_add_left _ _) (by omega)
  case clear =>
    rw [← Position.along_step]
    exact h.clear

/-- The way that is open after more than one cell is so from the next one on. -/
theorem OpenAfter.step {n : Nat} (h : g.OpenAfter rules d p (n + 1)) :
    g.OpenAfter rules d (p.step d) n := by
  constructor
  case contains =>
    intro i _ hin
    rw [Position.along_step]
    exact h.contains (i + 1) (Nat.le_add_left _ _) (by omega)
  case unbarred =>
    intro i _ hin
    rw [Position.along_step]
    exact h.unbarred (i + 1) (Nat.le_add_left _ _) (by omega)
  case pushed =>
    intro i _ hin
    rw [Position.along_step]
    exact h.pushed (i + 1) (Nat.le_add_left _ _) (by omega)
  case clear =>
    rw [Position.along_step]
    exact h.clear

/-- Along an open way an object can step. -/
theorem OpenAfter.canStep {n : Nat} (hn : 1 ≤ n) (h : g.OpenAfter rules d p n) :
    g.canStep rules p d = true := by
  obtain ⟨n, rfl⟩ := Nat.exists_eq_add_of_le' hn
  induction n generalizing p with
  | zero =>
      have hclear := h.clear
      have hcontains := h.contains 1 (Nat.le_refl 1) (Nat.le_refl 1)
      have hunbarred := h.unbarred 1 (Nat.le_refl 1) (Nat.le_refl 1)
      rw [Nat.zero_add, Position.along_one] at hclear
      rw [Position.along_one] at hcontains hunbarred
      refine canStep_eq_true.2
        ⟨hcontains, fun k hk => RuleSet.bars_eq_false.2 (hunbarred k hk), fun hpush => ?_⟩
      -- nothing on the only cell has to be pushed
      obtain ⟨k, hk, hgrants⟩ := List.any_eq_true.1 hpush
      rw [hclear k hk] at hgrants
      cases hgrants
  | succ n ih =>
      have hcontains := h.contains 1 (Nat.le_refl 1) (by omega)
      have hunbarred := h.unbarred 1 (Nat.le_refl 1) (by omega)
      rw [Position.along_one] at hcontains hunbarred
      exact canStep_eq_true.2 ⟨hcontains, fun k hk => RuleSet.bars_eq_false.2 (hunbarred k hk),
        fun _ => ih (Nat.le_add_left _ _) h.step⟩

/-- An object can step just when the way is open after one cell or more. -/
theorem canStep_iff_openAfter :
    g.canStep rules p d = true ↔ ∃ n, 1 ≤ n ∧ g.OpenAfter rules d p n := by
  refine ⟨fun h => ?_, fun ⟨n, hn, hopen⟩ => hopen.canStep hn⟩
  induction p using walk_induction (g := g) (d := d) with
  | edge p hedge =>
      rw [canStep_eq_true, hedge] at h
      cases h.1
  | ahead p hstep ih =>
      obtain ⟨_, hclear, hnext⟩ := canStep_eq_true.1 h
      cases hpush : rules.pushable (g.cell (p.step d)) with
      | true =>
          obtain ⟨n, _, hopen⟩ := ih (hnext hpush)
          exact ⟨n + 1, Nat.le_add_left _ _, hopen.of_step hstep hclear hpush⟩
      | false =>
          -- the way is open at the next cell
          refine ⟨1, Nat.le_refl 1, ?_, ?_, ?_, ?_⟩
          · intro i hi hi'
            rw [Nat.le_antisymm hi' hi, Position.along_one]
            exact hstep
          · intro i hi hi'
            rw [Nat.le_antisymm hi' hi, Position.along_one]
            exact fun k hk => RuleSet.bars_eq_false.1 (hclear k hk)
          · intro i hi hi'
            omega
          · rw [Position.along_one]
            intro k hk
            simpa using List.any_eq_false.1 hpush k hk

/-- **The walk decides the recursion.**  From any position, on the board or off it, the walk ahead
ends, with no more rounds than the board has rows or columns and one more.  Its answer is that of
the recursion over objects, and it is yes just when the way is open after some number of cells. -/
theorem canStep_decides_mayStep (g : Grid) (rules : RuleSet) (p : Position) (d : Direction) :
    (∃ n ≤ max g.width g.height + 1, g.Looks rules d p n (g.canStep rules p d)) ∧
      (∀ n answer, g.Looks rules d p n answer → answer = g.canStep rules p d) ∧
      (g.canStep rules p d = true ↔ g.MayStep rules d p) ∧
      (g.canStep rules p d = true ↔ ∃ n, 1 ≤ n ∧ g.OpenAfter rules d p n) :=
  ⟨exists_looks g rules p d, fun _ _ h => h.eq_canStep, canStep_iff_mayStep, canStep_iff_openAfter⟩

end Grid

end RuleTiles
