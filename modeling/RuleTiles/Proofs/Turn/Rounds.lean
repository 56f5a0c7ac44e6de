/-
**One walker after another.**

The second phase of movement can be run as a loop over the MOVE objects.  Each of them in turn reads
its facing off the board on which those before it have turned already, is given the next random
facing if it has none, looks ahead on that board, and turns.  The plan is made on the board on which
all of them have turned.  This module shows that the loop comes to what `moveWalkers` says: a turn
changes neither the facing of another object nor the kinds on any cell, and whether an object can
step, and what it pushes, is a matter of kinds.  So every MOVE object sees what lay on the board
before the phase.

Main definitions:

* `RuleTiles.Grid.SameKinds` — boards that differ at most in facings;
* `RuleTiles.Round`, `RuleTiles.Round.setOut`, `RuleTiles.Round.attempt`, `RuleTiles.Round.pass` —
  where the loop stands, and what one MOVE object does;
* `RuleTiles.Grid.walkInTurn` — the second phase as a loop.

Main results:

* `RuleTiles.Grid.SameKinds.canStep`, `RuleTiles.Grid.SameKinds.plan` — facings do not matter for
  stepping and pushing;
* `RuleTiles.Round.attempt_eq`, `RuleTiles.Round.pass_eq`, `RuleTiles.Round.foldl_pass` — one MOVE
  object, and all of them;
* `RuleTiles.Grid.walkInTurn_eq` — **the loop comes to the second phase**.
-/

import RuleTiles.Proofs.Board.Facings
import RuleTiles.Proofs.Board.Numbers
import RuleTiles.Proofs.Turn.Cleared

set_option relaxedAutoImplicit false
set_option autoImplicit false

namespace RuleTiles

/-! ### Boards with the same kinds -/

namespace Grid

/-- Two boards of one size with the same kinds on every cell.  Facings may differ. -/
structure SameKinds (g h : Grid) : Prop where
  size : g.SameSize h
  kinds : ∀ q, (h.cell q).kinds = (g.cell q).kinds

namespace SameKinds

variable {g h i : Grid}

theorem refl (g : Grid) : g.SameKinds g := ⟨.refl g, fun _ => rfl⟩

theorem trans (hgh : g.SameKinds h) (hhi : h.SameKinds i) : g.SameKinds i :=
  ⟨hgh.size.trans hhi.size, fun q => (hhi.kinds q).trans (hgh.kinds q)⟩

theorem turn (hgh : g.SameKinds h) (o : Object) (d : Direction) : g.SameKinds (h.turn o d) :=
  hgh.trans ⟨sameSize_turn h o d, kinds_turn h o d⟩

/-- Whether an object can step is a matter of kinds. -/
theorem canStep (hgh : g.SameKinds h) (rules : RuleSet) (p : Position) (d : Direction) :
    h.canStep rules p d = g.canStep rules p d := by
  induction p using walk_induction (g := g) (d := d) with
  | edge p hedge =>
      rw [Bool.eq_iff_iff, canStep_eq_true (g := h), canStep_eq_true (g := g),
        ← hgh.size.contains, hedge]
      simp only [Bool.false_eq_true, false_and]
  | ahead p _ ih =>
      rw [Bool.eq_iff_iff, canStep_eq_true (g := h), canStep_eq_true (g := g),
        ← hgh.size.contains, RuleSet.pushable, RuleSet.pushable, hgh.kinds, ih]

/-- So is what a stepper pushes. -/
theorem push (hgh : g.SameKinds h) (rules : RuleSet) (p : Position) (d : Direction)
    (plan : Plan) : Plan.push rules d (h.ray p d) plan = Plan.push rules d (g.ray p d) plan := by
  induction p using walk_induction (g := g) (d := d) generalizing plan with
  | edge p hedge =>
      rw [ray_eq h, ray_eq g, ← hgh.size.contains, hedge]
      rfl
  | ahead p hstep ih =>
      rw [ray_eq h, ray_eq g, ← hgh.size.contains, if_pos hstep, if_pos hstep]
      simp only [Plan.push, hgh.kinds, ih]

theorem plan (hgh : g.SameKinds h) (rules : RuleSet) (steppers : List (Object × Direction)) :
    h.plan rules steppers = g.plan rules steppers := by
  simp only [Grid.plan, hgh.push]

end SameKinds

theorem sameKinds_walkersTurned (g : Grid) (rules : RuleSet) (gen : Generator) :
    g.SameKinds (g.walkersTurned rules gen) :=
  ⟨g.sameSize_walkersTurned rules gen, g.kinds_walkersTurned rules gen⟩

/-! ### Turning -/

variable {g : Grid} {o o' : Object} {d d' : Direction}

/-- An object turns alone. -/
theorem facing_turn_of_ne (h : o' ≠ o) :
    ((g.turn o d).cell o'.pos).facing o'.kind = (g.cell o'.pos).facing o'.kind := by
  rw [Cell.facing, get?_turn, if_neg h, Cell.facing]

/-- An object that turns the way it faces stays as it is. -/
theorem turn_eq_self (h : (g.cell o.pos).facing o.kind = some d) : g.turn o d = g := by
  refine (ext_cell (sameSize_turn g o d) fun q => Cell.ext_get? fun k => ?_).symm
  rw [get?_turn]
  split
  · rename_i ho
    subst ho
    rw [Cell.facing] at h
    rw [Option.join_eq_some_iff.1 h, Option.map_some]
  · rfl

/-- Of two turns of an object the second counts. -/
theorem turn_turn (g : Grid) (o : Object) (d d' : Direction) :
    (g.turn o d).turn o d' = g.turn o d' := by
  have hsize := (sameSize_turn g o d).trans (sameSize_turn (g.turn o d) o d')
  have hsize' := sameSize_turn g o d'
  refine ext_cell ⟨hsize.width.symm.trans hsize'.width, hsize.height.symm.trans hsize'.height⟩ ?_
  intro q
  refine Cell.ext_get? fun k => ?_
  rw [get?_turn, get?_turn, get?_turn]
  split
  · rw [Option.map_map]
    rfl
  · rfl

end Grid

/-! ### The loop -/

/-- Where the loop over the MOVE objects stands: the board on which some of them have turned, the
generator, and those of them that are going to step. -/
structure Round where
  board : Grid
  generator : Generator
  steppers : List (Object × Direction)

namespace Round

/-- An object that faces somewhere sets out that way.  Another one is given a random facing, to
which it turns. -/
def setOut (s : Round) (o : Object) : Direction × Round :=
  match (s.board.cell o.pos).facing o.kind with
  | some d => (d, s)
  | none =>
    let (d, gen) := s.generator.facing
    (d, { s with board := s.board.turn o d, generator := gen })

/-- It steps the way it sets out, or else turns around and steps back, or else has only turned. -/
def attempt (rules : RuleSet) (s : Round) (o : Object) (d : Direction) : Round :=
  if s.board.canStep rules o.pos d then { s with steppers := s.steppers ++ [(o, d)] }
  else
    let s := { s with board := s.board.turn o d.reverse }
    if s.board.canStep rules o.pos d.reverse then
      { s with steppers := s.steppers ++ [(o, d.reverse)] }
    else s

/-- What one MOVE object does. -/
def pass (rules : RuleSet) (s : Round) (o : Object) : Round :=
  let (d, s) := s.setOut o
  s.attempt rules o d

/-- The loop with the heading of one MOVE object added. -/
def follow (s : Round) (x : Heading) (gen : Generator) : Round where
  board := s.board.turn x.object x.direction
  generator := gen
  steppers := s.steppers ++ if x.steps then [(x.object, x.direction)] else []

variable {g : Grid} {rules : RuleSet} {s : Round} {o : Object}

/-- An object that has turned to the way it sets out comes to the heading that it has on the board
before the phase. -/
theorem attempt_eq {d : Direction} (hkinds : g.SameKinds s.board)
    (hturned : s.board.turn o d = s.board) :
    s.attempt rules o d = s.follow (g.headingFrom rules o d) s.generator := by
  unfold attempt
  dsimp only
  rw [hkinds.canStep, (hkinds.turn o d.reverse).canStep]
  cases hahead : g.canStep rules o.pos d with
  | true =>
      rw [Grid.headingFrom_of_canStep hahead, follow, hturned]
      rfl
  | false =>
      rw [Grid.headingFrom_of_barred hahead]
      cases g.canStep rules o.pos d.reverse with
      | true => rfl
      | false => simp [follow]

/-- **One MOVE object** comes to the heading that it has on the board before the phase. -/
theorem pass_eq (hkinds : g.SameKinds s.board)
    (hfacing : (s.board.cell o.pos).facing o.kind = (g.cell o.pos).facing o.kind) :
    pass rules s o =
      s.follow (g.heading rules o s.generator).1 (g.heading rules o s.generator).2 := by
  unfold pass setOut
  rw [hfacing]
  cases hf : (g.cell o.pos).facing o.kind with
  | some d =>
      rw [Grid.heading_of_facing_eq_some hf]
      exact attempt_eq hkinds (Grid.turn_eq_self (hfacing.trans hf))
  | none =>
      rw [Grid.heading_of_facing_eq_none hf]
      have hturned := Grid.turn_turn s.board o s.generator.facing.1 s.generator.facing.1
      refine (attempt_eq
        (s := ⟨s.board.turn o s.generator.facing.1, s.generator.facing.2, s.steppers⟩)
        (hkinds.turn o s.generator.facing.1) hturned).trans ?_
      simp only [follow, Grid.object_headingFrom, Grid.turn_turn]

/-- **All MOVE objects** come to the headings that they have on the board before the phase. -/
theorem foldl_pass {objects : List Object} (hnodup : objects.Nodup)
    (hkinds : g.SameKinds s.board)
    (hfacing : ∀ o ∈ objects,
      (s.board.cell o.pos).facing o.kind = (g.cell o.pos).facing o.kind) :
    objects.foldl (pass rules) s =
      ⟨(g.headings rules objects s.generator).1.foldl
          (fun g x => g.turn x.object x.direction) s.board,
        (g.headings rules objects s.generator).2,
        s.steppers ++ ((g.headings rules objects s.generator).1.filter Heading.steps).map
          fun x => (x.object, x.direction)⟩ := by
  induction objects generalizing s with
  | nil => simp [Grid.headings]
  | cons o rest ih =>
      obtain ⟨hnew, hnodup⟩ := List.nodup_cons.1 hnodup
      rw [List.foldl_cons, pass_eq hkinds (hfacing o (List.mem_cons_self ..)), Grid.headings_cons]
      -- the others find their facings as they were
      rw [ih hnodup (hkinds.turn _ _) fun o' ho' => ?_]
      · simp only [follow, List.foldl_cons, List.filter_cons, List.append_assoc, mk.injEq, true_and,
          List.append_cancel_left_eq]
        split
        · rfl
        · rfl
      · have hne : o' ≠ o := by
          rintro rfl
          exact hnew ho'
        rw [follow, Grid.object_heading, Grid.facing_turn_of_ne hne]
        exact hfacing o' (List.mem_cons_of_mem _ ho')

end Round

namespace Grid

/-- The second phase as a loop.  Without MOVE objects nothing is done. -/
def walkInTurn (g : Grid) (rules : RuleSet) (gen : Generator) : Grid × List Event × Generator :=
  let walkers := g.having rules .move
  if walkers.isEmpty then (g, [], gen)
  else
    let s := walkers.foldl (Round.pass rules) ⟨g, gen, []⟩
    let plan := s.board.plan rules s.steppers
    (s.board.carryOut plan, plan.events, s.generator)

/-- **The loop comes to the second phase.** -/
theorem walkInTurn_eq (g : Grid) (rules : RuleSet) (gen : Generator) :
    g.walkInTurn rules gen = g.moveWalkers rules gen := by
  unfold walkInTurn
  dsimp only
  split
  · rename_i hnone
    rw [moveWalkers_of_having_eq_nil (List.isEmpty_iff.1 hnone)]
  · rw [Round.foldl_pass (g.nodup_having rules .move) (.refl g) fun _ _ => rfl, moveWalkers_eq,
      ← (g.sameKinds_walkersTurned rules gen).plan]
    rfl

end Grid

end RuleTiles
