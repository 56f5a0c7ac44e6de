/-
**Objects that come together.**

A cell holds a kind at most once.  Objects of one kind that arrive on one cell in the same phase of
movement, each from its own side, are one object from then on.  Nothing else is lost when a plan is
carried out: no step leads over the edge, and an object of a kind that has to be pushed does not
stay on a cell where another arrives.  So the number of objects of such a kind after a phase can be
told from its account, which names every arrival.

Main definitions:

* `RuleTiles.Event.brings`, `RuleTiles.arrivals` — the objects of a kind that an account brings to a
  position;
* `RuleTiles.Grid.merged` — the number of objects of a kind that an account makes one with another.

Main results:

* `RuleTiles.Grid.merged_eq_zero_iff` — nothing is merged when no two of a kind come to one cell;
* `RuleTiles.Grid.number_carryOut` — the number of objects of a PUSH kind when a plan is carried
  out;
* `RuleTiles.Grid.number_moveWalkers` — **what the second phase leaves of the objects of a PUSH
  kind**.
-/

import RuleTiles.Proofs.Board.Numbers
import RuleTiles.Proofs.Turn.Cleared

set_option relaxedAutoImplicit false
set_option autoImplicit false

namespace RuleTiles

/-! ### Arrivals -/

/-- Whether an event brings an object of a kind to a position. -/
def Event.brings (k : Kind) (q : Position) : Event → Bool
  | moved k' _ q' => k' = k && q' = q
  | _ => false

/-- The number of objects of a kind that an account brings to a position. -/
def arrivals (events : List Event) (k : Kind) (q : Position) : Nat :=
  events.countP (Event.brings k q)

/-- The arrivals that a plan tells of are those that it plans. -/
theorem arrivals_events (plan : Plan) (k : Kind) (q : Position) :
    arrivals plan.events k q = (plan.arriving q k).length := by
  rw [arrivals, Plan.events, List.countP_map, Plan.arriving, List.countP_eq_length_filter]
  refine congrArg _ (List.filter_congr fun e _ => ?_)
  simp [Event.brings, and_comm]

namespace Grid

/-- The number of objects of a kind that become one with another: on each cell to which an account
brings some, all but one. -/
def merged (g : Grid) (events : List Event) (k : Kind) : Nat :=
  (g.positions.map fun q => arrivals events k q - 1).sum

theorem merged_eq_zero_iff {g : Grid} {events : List Event} {k : Kind} :
    g.merged events k = 0 ↔ ∀ q, g.contains q = true → arrivals events k q ≤ 1 := by
  rw [merged, List.sum_eq_zero_iff_forall_eq_nat]
  simp only [List.mem_map, mem_positions, forall_exists_index, and_imp, forall_apply_eq_imp_iff₂,
    Nat.sub_eq_zero_iff_le]

/-! ### Plans carried out -/

section

variable {g turned : Grid} {rules : RuleSet} {steppers : List (Object × Direction)} {k : Kind}
  {q : Position}

/-- Where an object of a PUSH kind arrives, the objects that come there are those that arrive: none
of the kind stays there. -/
theorem objects_target_perm (hfree : g.Free rules steppers) (hpush : rules.grants k .push = true)
    (harrival : (g.plan rules steppers).arriving q k ≠ []) :
    (g.objects.filter fun o => (g.plan rules steppers).target o = ⟨q, k⟩).Perm
      (((g.plan rules steppers).arriving q k).map Prod.fst) := by
  have hnodup : (((g.plan rules steppers).arriving q k).map Prod.fst).Nodup :=
    (g.plan rules steppers).nodup_keys.sublist (List.filter_sublist.map _)
  refine (List.perm_ext_iff_of_nodup (g.nodup_objects.filter _) hnodup).2 fun o => ?_
  rw [List.mem_filter, decide_eq_true_eq, List.mem_map]
  constructor
  · rintro ⟨ho, htarget⟩
    cases hget : (g.plan rules steppers).get? o with
    | none =>
        -- it would stay where another arrives, but then it is planned, too
        have hk := mem_objects.1 ho
        rw [Plan.target, hget] at htarget
        subst htarget
        obtain ⟨e, he⟩ := List.exists_mem_of_ne_nil _ harrival
        obtain ⟨he, hstep, _⟩ := Plan.mem_arriving.1 he
        have hcleared := cleared_plan hfree (SortedMap.get?_eq_some_iff.2 he)
        have hplanned := hcleared.planned k
        rw [hstep] at hplanned
        have hkey := SortedMap.mem_keys.1 (hplanned hk hpush)
        rw [hget] at hkey
        cases hkey
    | some x =>
        rw [Plan.target, hget] at htarget
        cases htarget
        exact ⟨(o, x), Plan.mem_arriving_of_get? hget, rfl⟩
  · rintro ⟨e, he, rfl⟩
    obtain ⟨he, hstep, hkind⟩ := Plan.mem_arriving.1 he
    refine ⟨mem_objects_of_mem_plan (fun s hs => (hfree s hs).1) he, ?_⟩
    rw [Plan.target, SortedMap.get?_eq_some_iff.2 he, ← hstep, ← hkind]

/-- Where nothing of a kind arrives, at most the one object that lay there comes there. -/
theorem countP_target_le_one {plan : Plan} (hnone : plan.arriving q k = []) :
    (g.objects.countP fun o => plan.target o = ⟨q, k⟩) ≤ 1 := by
  have hstays : ∀ o, plan.target o = ⟨q, k⟩ → o = ⟨q, k⟩ := by
    intro o htarget
    cases hget : plan.get? o with
    | none => rwa [Plan.target, hget] at htarget
    | some x =>
        rw [Plan.target, hget] at htarget
        cases htarget
        have harrives := Plan.mem_arriving_of_get? hget
        rw [hnone] at harrives
        cases harrives
  refine Nat.le_trans ?_ (List.nodup_iff_count_le_one.1 g.nodup_objects ⟨q, k⟩)
  rw [List.count_eq_countP]
  exact List.countP_mono_left fun o _ ho => by simpa using hstays o (of_decide_eq_true ho)

/-- A plan for free steppers brings every object to its target, also on a board on which objects
have turned. -/
theorem mem_objects_carryOut_plan (hfree : g.Free rules steppers) (hsize : g.SameSize turned)
    (hkinds : ∀ q, (turned.cell q).kinds = (g.cell q).kinds) {o : Object} :
    o ∈ (turned.carryOut (g.plan rules steppers)).objects ↔
      ∃ o' ∈ g.objects, (g.plan rules steppers).target o' = o := by
  have hobjects : ∀ o, o ∈ turned.objects ↔ o ∈ g.objects := by
    intro o
    rw [mem_objects, hkinds, mem_objects]
  have hplan : ∀ e ∈ (g.plan rules steppers).entries,
      e.1 ∈ turned.objects ∧ turned.contains (e.1.pos.step e.2) = true := by
    intro e he
    rw [hobjects, ← hsize.contains]
    exact ⟨mem_objects_of_mem_plan (fun s hs => (hfree s hs).1) he,
      (cleared_plan hfree (SortedMap.get?_eq_some_iff.2 he)).contains⟩
  rw [mem_objects_carryOut hplan]
  simp only [hobjects]

/-- **The number of objects of a PUSH kind when a plan is carried out**: it is what it was, less
those that become one with another on arrival. -/
theorem number_carryOut (hfree : g.Free rules steppers) (hsize : g.SameSize turned)
    (hkinds : ∀ q, (turned.cell q).kinds = (g.cell q).kinds) (hpush : rules.grants k .push = true) :
    (turned.carryOut (g.plan rules steppers)).number k +
      g.merged (g.plan rules steppers).events k = g.number k := by
  have hmoved := number_add_merged (k := k) (g.plan rules steppers).target (Plan.kind_target _)
    fun _ => mem_objects_carryOut_plan hfree hsize hkinds
  have hpositions : (turned.carryOut (g.plan rules steppers)).positions = g.positions := by
    obtain ⟨hwidth, hheight⟩ := hsize.trans (sameSize_carryOut turned (g.plan rules steppers))
    rw [positions, positions, hwidth, hheight]
  rw [← hmoved, hpositions, merged]
  refine congrArg _ (congrArg _ (List.map_congr_left fun q _ => ?_))
  rw [arrivals_events]
  by_cases harrival : (g.plan rules steppers).arriving q k = []
  · have hone := countP_target_le_one (g := g) harrival
    rw [harrival, List.length_nil]
    omega
  · have hperm := objects_target_perm hfree hpush harrival
    rw [List.countP_eq_length_filter, hperm.length_eq, List.length_map]

end

/-! ### The second phase -/

/-- **What the second phase leaves of the objects of a PUSH kind**, words among them.  Their number
is what it was, but that of several that arrive on one cell one is left; so it is kept just when no
two of them arrive on one cell.  The account names every arrival: what it says to have moved was on
the board, has gone one cell and lies there. -/
theorem number_moveWalkers (g : Grid) (rules : RuleSet) (gen : Generator) {k : Kind}
    (h : rules.grants k .push = true ∨ k.isText = true) :
    (g.moveWalkers rules gen).1.number k + g.merged (g.moveWalkers rules gen).2.1 k = g.number k ∧
      ((g.moveWalkers rules gen).1.number k = g.number k ↔
        ∀ q, g.contains q = true → arrivals (g.moveWalkers rules gen).2.1 k q ≤ 1) ∧
      ((g.moveWalkers rules gen).2.1.Nodup ∧
        ∀ p q, Event.moved k p q ∈ (g.moveWalkers rules gen).2.1 →
          (⟨p, k⟩ : Object) ∈ g.objects ∧ (∃ x, q = p.step x) ∧
            (⟨q, k⟩ : Object) ∈ (g.moveWalkers rules gen).1.objects) := by
  have hpush : rules.grants k .push = true := by
    rcases h with hpush | htext
    · exact hpush
    · exact RuleSet.grants_push_of_isText htext
  have hnumber := number_carryOut (g.free_walkers rules gen) (g.sameSize_walkersTurned rules gen)
    (g.kinds_walkersTurned rules gen) hpush
  rw [moveWalkers_eq]
  dsimp only
  refine ⟨hnumber, ?_, Plan.nodup_events _, fun p q hmoved => ?_⟩
  · rw [← merged_eq_zero_iff]
    omega
  · obtain ⟨x, hget, rfl⟩ := Plan.moved_mem_events_iff.1 hmoved
    have hobject := mem_objects_of_mem_plan (fun _ hs => walker_mem_objects hs)
      (SortedMap.get?_eq_some_iff.1 hget)
    refine ⟨hobject, ⟨x, rfl⟩, ?_⟩
    rw [mem_objects_carryOut_plan (g.free_walkers rules gen) (g.sameSize_walkersTurned rules gen)
      (g.kinds_walkersTurned rules gen)]
    exact ⟨⟨p, k⟩, hobject, by rw [Plan.target, hget]⟩

/-- The level
```
BABA  IS   YOU  .    baba
SKULL IS   MOVE .    .
skull ROCK .    ROCK skull
```
on which the skulls walk towards each other, each with a word ahead of it. -/
def pincer : Grid :=
  .ofFitting 5 3
    #[.ofKinds [.word .baba], .ofKinds [.is], .ofKinds [.property .you], .empty,
      .ofKinds [.icon .baba],
      .ofKinds [.word .skull], .ofKinds [.is], .ofKinds [.property .move], .empty, .empty,
      .ofPieces [⟨.icon .skull, some .right⟩], .ofKinds [.word .rock], .empty,
      .ofKinds [.word .rock], .ofPieces [⟨.icon .skull, some .left⟩]]
    (by decide)

/-- The two words become one. -/
theorem number_moveWalkers_pincer :
    (pincer.rules.grants (.word .rock) .push = true ∨ (Kind.word .rock).isText = true) ∧
      pincer.number (.word .rock) = 2 ∧
      (pincer.moveWalkers pincer.rules (.ofSeed 1)).1.number (.word .rock) +
        pincer.merged (pincer.moveWalkers pincer.rules (.ofSeed 1)).2.1 (.word .rock) = 2 ∧
      arrivals (pincer.moveWalkers pincer.rules (.ofSeed 1)).2.1 (.word .rock) (.clamp 2 2) =
        2 := by
  have htwo : pincer.number (.word .rock) = 2 := by decide +kernel
  have hword : pincer.rules.grants (.word .rock) .push = true ∨ (Kind.word .rock).isText = true :=
    .inr rfl
  have hnumber := (number_moveWalkers pincer pincer.rules (.ofSeed 1) hword).1
  have harrivals : arrivals (pincer.moveWalkers pincer.rules (.ofSeed 1)).2.1 (.word .rock)
      (.clamp 2 2) = 2 := by decide +kernel
  exact ⟨hword, htwo, hnumber.trans htwo, harrivals⟩

/-- The number of objects of a PUSH kind is not always kept: two words pushed onto one cell are
one. -/
theorem not_number_moveWalkers_pincer :
    ¬∀ (g : Grid) (rules : RuleSet) (gen : Generator) (k : Kind), rules.grants k .push = true →
      (g.moveWalkers rules gen).1.number k = g.number k := by
  intro hkept
  have hone : (pincer.moveWalkers pincer.rules (.ofSeed 1)).1.number (.word .rock) = 1 := by
    decide +kernel
  have htwo : pincer.number (.word .rock) = 2 := by decide +kernel
  have hsame := hkept pincer pincer.rules (.ofSeed 1) (.word .rock)
    (RuleSet.grants_push_of_isText rfl)
  omega

end Grid

end RuleTiles
