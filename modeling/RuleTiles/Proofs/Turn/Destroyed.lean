/-
**What is destroyed, and on account of what.**

When the win has been looked for, objects are destroyed in three passes: YOU objects by DEFEAT, then
everything on a cell with a SINK object that is not alone, then MELT objects by HOT.  Each pass
gathers its victims on the board that the one before it has left.  So what becomes of a cell is a
matter of that cell and the rules, and the three passes can be described on one cell.  An object may
be victim and cause at once.  A later pass only removes, so it brings about nothing that an earlier
one would destroy, and after the last pass nothing is left to be destroyed.

Main definitions:

* `RuleTiles.Cell.purge`, `RuleTiles.Cell.drown`, `RuleTiles.Cell.remains` — **what the passes leave
  of a cell**;
* `RuleTiles.Cell.DestroyedBy` — the pass that destroys a kind on a cell;
* `RuleTiles.Cell.Settled` — a cell on which nothing is to be destroyed;
* `RuleTiles.Grid.destructions` — the three passes;
* `RuleTiles.Grid.reap`, `RuleTiles.Grid.destroyInTurn` — the passes as loops.

Main results:

* `RuleTiles.Grid.afterEffects_eq` — the passes come after the transformation;
* `RuleTiles.Grid.destroyInTurn_eq` — the loops come to the passes;
* `RuleTiles.Grid.cell_destructions`, `RuleTiles.Grid.mem_events_destructions`,
  `RuleTiles.Grid.countP_destructions` — the cells that are left, and the account;
* `RuleTiles.Cell.settled_remains`, `RuleTiles.Grid.destructions_of_settled` — nothing is left to be
  destroyed;
* `RuleTiles.Grid.destructions_settle` — **the three passes together**.
-/

import RuleTiles.Proofs.Board.Numbers
import RuleTiles.Proofs.Turn.Words

set_option relaxedAutoImplicit false
set_option autoImplicit false

namespace RuleTiles

/-! ### One cell -/

namespace SortedMap

variable {κ ν : Type} [Ord κ]

/-- The entries whose keys pass a test. -/
def filterKeys (m : SortedMap κ ν) (test : κ → Bool) : SortedMap κ ν :=
  ⟨m.entries.filter fun e => test e.1, m.ascending.filter _⟩

@[simp] theorem get?_filterKeys [Std.TransOrd κ] [Std.LawfulEqOrd κ] (m : SortedMap κ ν)
    (test : κ → Bool) (k : κ) :
    (m.filterKeys test).get? k = if test k = true then m.get? k else none := by
  refine Option.ext fun v => ?_
  rw [get?_eq_some_iff, filterKeys, List.mem_filter]
  split
  · rename_i h
    simp [h, get?_eq_some_iff]
  · rename_i h
    simp [h]

end SortedMap

namespace Cell

variable {c : Cell} {rules : RuleSet} {victim cause : Property} {k : Kind}

/-- Whether some object on a cell has a property. -/
def bears (c : Cell) (rules : RuleSet) (p : Property) : Bool :=
  c.kinds.any fun k => rules.grants k p

/-- The cell with only the kinds that pass a test, facing as they did. -/
def keep (c : Cell) (test : Kind → Bool) : Cell where
  contents := c.contents.filterKeys test
  placeable := by
    intro x hx
    rw [SortedMap.mem_keys, SortedMap.get?_filterKeys] at hx
    split at hx
    · exact c.placeable x (SortedMap.mem_keys.2 hx)
    · cases hx

/-- What is left of a cell when objects with one property destroy those with another. -/
def purge (c : Cell) (rules : RuleSet) (victim cause : Property) : Cell :=
  if c.bears rules cause then c.keep fun k => !rules.grants k victim else c

/-- What is left of a cell when a SINK object that is not alone destroys everything, itself
included. -/
def drown (c : Cell) (rules : RuleSet) : Cell :=
  if 1 < c.size && c.bears rules .sink then empty else c

/-- **What is left of a cell** after the three passes. -/
def remains (c : Cell) (rules : RuleSet) : Cell :=
  ((c.purge rules .you .defeat).drown rules).purge rules .melt .hot

/-- **The pass that destroys a kind on a cell**, named by the property that is the cause: the kind
is there before the pass and gone after it. -/
inductive DestroyedBy (c : Cell) (rules : RuleSet) (k : Kind) : Property → Prop
  | defeat (hk : k ∈ c.kinds) (hgone : k ∉ (c.purge rules .you .defeat).kinds) :
      DestroyedBy c rules k .defeat
  | sink (hk : k ∈ (c.purge rules .you .defeat).kinds)
      (hgone : k ∉ ((c.purge rules .you .defeat).drown rules).kinds) :
      DestroyedBy c rules k .sink
  | hot (hk : k ∈ ((c.purge rules .you .defeat).drown rules).kinds)
      (hgone : k ∉ (c.remains rules).kinds) :
      DestroyedBy c rules k .hot

/-- **A cell on which nothing is to be destroyed**: no YOU object is there with a DEFEAT object, a
SINK object is alone, and no MELT object is there with a HOT object. -/
structure Settled (c : Cell) (rules : RuleSet) : Prop where
  defeat : ∀ k ∈ c.kinds, ∀ k' ∈ c.kinds, rules.grants k .you = true →
    rules.grants k' .defeat = false
  sink : ∀ k ∈ c.kinds, rules.grants k .sink = true → c.kinds = [k]
  hot : ∀ k ∈ c.kinds, ∀ k' ∈ c.kinds, rules.grants k .melt = true →
    rules.grants k' .hot = false

theorem bears_eq_true {p : Property} :
    c.bears rules p = true ↔ ∃ k ∈ c.kinds, rules.grants k p = true :=
  List.any_eq_true

theorem length_kinds (c : Cell) : c.kinds.length = c.size := List.length_map _

@[simp] theorem get?_keep (c : Cell) (test : Kind → Bool) (k : Kind) :
    (c.keep test).get? k = if test k = true then c.get? k else none :=
  SortedMap.get?_filterKeys c.contents test k

theorem get?_purge (c : Cell) (rules : RuleSet) (victim cause : Property) (k : Kind) :
    (c.purge rules victim cause).get? k =
      if rules.grants k victim = true ∧ c.bears rules cause = true then none else c.get? k := by
  unfold purge
  cases c.bears rules cause with
  | false => simp
  | true =>
      rw [if_pos rfl, get?_keep]
      cases rules.grants k victim with
      | false => simp
      | true => simp

theorem get?_drown (c : Cell) (rules : RuleSet) (k : Kind) :
    (c.drown rules).get? k =
      if (1 < c.size && c.bears rules .sink) = true then none else c.get? k := by
  unfold drown
  split
  · rfl
  · rfl

theorem mem_kinds_purge :
    k ∈ (c.purge rules victim cause).kinds ↔
      k ∈ c.kinds ∧ ¬(rules.grants k victim = true ∧ c.bears rules cause = true) := by
  rw [mem_kinds, get?_purge, mem_kinds]
  split
  · rename_i h
    simp [h]
  · rename_i h
    simp [h]

theorem mem_kinds_drown :
    k ∈ (c.drown rules).kinds ↔ k ∈ c.kinds ∧ ¬(1 < c.size && c.bears rules .sink) = true := by
  rw [mem_kinds, get?_drown, mem_kinds]
  split
  · rename_i h
    simp [h]
  · rename_i h
    simp [h]

/-- What is left of a cell is what was there, as it was. -/
theorem get?_remains_of_mem (h : k ∈ (c.remains rules).kinds) :
    (c.remains rules).get? k = c.get? k := by
  obtain ⟨hdrown, hmelt⟩ := mem_kinds_purge.1 h
  obtain ⟨hpurge, hsink⟩ := mem_kinds_drown.1 hdrown
  rw [remains, get?_purge, if_neg hmelt, get?_drown, if_neg hsink, get?_purge,
    if_neg (mem_kinds_purge.1 hpurge).2]

/-! ### Nothing is left to be destroyed -/

/-- A pass leaves no victim with a cause. -/
theorem grants_of_mem_purge {k' : Kind} (hk : k ∈ (c.purge rules victim cause).kinds)
    (hk' : k' ∈ (c.purge rules victim cause).kinds) (hvictim : rules.grants k victim = true) :
    rules.grants k' cause = false := by
  rw [Bool.eq_false_iff]
  intro hcause
  have hbears := bears_eq_true.2 ⟨k', (mem_kinds_purge.1 hk').1, hcause⟩
  exact (mem_kinds_purge.1 hk).2 ⟨hvictim, hbears⟩

/-- A kind is alone on a cell that holds it and nothing more than one. -/
theorem kinds_eq_singleton (hk : k ∈ c.kinds) (hsize : c.size ≤ 1) : c.kinds = [k] := by
  rw [← length_kinds] at hsize
  have hpos := List.length_pos_of_mem hk
  obtain ⟨x, hx⟩ := List.length_eq_one_iff.1 (Nat.le_antisymm hsize hpos)
  rw [hx] at hk ⊢
  rw [List.mem_singleton.1 hk]

/-- A SINK object that the second pass leaves is alone. -/
theorem kinds_drown_eq_singleton (hk : k ∈ (c.drown rules).kinds)
    (hsink : rules.grants k .sink = true) : c.kinds = [k] := by
  obtain ⟨hmem, hdry⟩ := mem_kinds_drown.1 hk
  have hbears : c.bears rules .sink = true := bears_eq_true.2 ⟨k, hmem, hsink⟩
  refine kinds_eq_singleton hmem ?_
  simpa [hbears] using hdry

/-- **Nothing is left to be destroyed** on a cell after the three passes: what the last one leaves
was left by those before it. -/
theorem settled_remains (c : Cell) (rules : RuleSet) : (c.remains rules).Settled rules where
  defeat k hk k' hk' hyou := by
    have hleft := (mem_kinds_drown.1 (mem_kinds_purge.1 hk).1).1
    have hleft' := (mem_kinds_drown.1 (mem_kinds_purge.1 hk').1).1
    exact grants_of_mem_purge hleft hleft' hyou
  sink k hk hsink := by
    have halone := kinds_drown_eq_singleton (mem_kinds_purge.1 hk).1 hsink
    have hnodup : (c.remains rules).kinds.Nodup := (c.remains rules).contents.nodup_keys
    refine List.perm_singleton.1
      ((List.perm_ext_iff_of_nodup hnodup (List.nodup_singleton k)).2 fun x => ⟨fun hx => ?_, ?_⟩)
    · -- what is left lay on the cell on which the kind was alone
      rw [← halone]
      exact (mem_kinds_drown.1 (mem_kinds_purge.1 hx).1).1
    · intro hx
      rw [List.mem_singleton.1 hx]
      exact hk
  hot k hk k' hk' hmelt := grants_of_mem_purge hk hk' hmelt

namespace Settled

theorem purge_eq (h : ∀ k ∈ c.kinds, ∀ k' ∈ c.kinds, rules.grants k victim = true →
    rules.grants k' cause = false) : c.purge rules victim cause = c := by
  refine ext_get? fun k => ?_
  rw [get?_purge]
  split
  · rename_i hdoomed
    obtain ⟨hvictim, hbears⟩ := hdoomed
    obtain ⟨k', hk', hcause⟩ := bears_eq_true.1 hbears
    refine (get?_eq_none_iff.2 fun hk => ?_).symm
    rw [h k hk k' hk' hvictim] at hcause
    cases hcause
  · rfl

theorem drown_eq (h : c.Settled rules) : c.drown rules = c := by
  rw [drown, if_neg]
  rw [Bool.and_eq_true, decide_eq_true_eq]
  rintro ⟨hsize, hbears⟩
  obtain ⟨k, hk, hsink⟩ := bears_eq_true.1 hbears
  rw [← length_kinds, h.sink k hk hsink] at hsize
  exact Nat.lt_irrefl 1 hsize

/-- Nothing is destroyed on such a cell. -/
theorem remains_eq (h : c.Settled rules) : c.remains rules = c := by
  rw [remains, purge_eq h.defeat, h.drown_eq, purge_eq h.hot]

theorem not_destroyedBy (h : c.Settled rules) (p : Property) : ¬c.DestroyedBy rules k p := by
  intro hdestroyed
  cases hdestroyed with
  | defeat hk hgone =>
      rw [purge_eq h.defeat] at hgone
      exact hgone hk
  | sink hk hgone =>
      rw [purge_eq h.defeat] at hk hgone
      rw [h.drown_eq] at hgone
      exact hgone hk
  | hot hk hgone =>
      rw [purge_eq h.defeat, h.drown_eq] at hk
      rw [h.remains_eq] at hgone
      exact hgone hk

end Settled

end Cell

/-! ### The board -/

/-- Whether an event tells of the destruction of an object. -/
def Event.destroys (o : Object) : Event → Bool
  | destroyed p k _ => p = o.pos && k = o.kind
  | _ => false

namespace Grid

/-- The pass of DEFEAT. -/
def destroyDefeated (g : Grid) (rules : RuleSet) : Grid × List Event :=
  g.destroy .defeat (g.defeated rules)

/-- The pass of SINK. -/
def destroySunk (g : Grid) (rules : RuleSet) : Grid × List Event := g.destroy .sink (g.sunk rules)

/-- The pass of HOT. -/
def destroyMelted (g : Grid) (rules : RuleSet) : Grid × List Event :=
  g.destroy .hot (g.melted rules)

/-- **The three passes**, each on the board that the one before it has left, and their account. -/
def destructions (g : Grid) (rules : RuleSet) : Grid × List Event :=
  let (g, defeated) := g.destroyDefeated rules
  let (g, sunk) := g.destroySunk rules
  let (g, melted) := g.destroyMelted rules
  (g, defeated ++ sunk ++ melted)

/-- The passes come after the transformation, and after the test for a win. -/
theorem afterEffects_eq (g : Grid) (rules : RuleSet) :
    g.afterEffects rules =
      (((g.transform rules).1.destructions rules).1,
        (g.transform rules).2 ++ ((g.transform rules).1.destructions rules).2,
        (g.transform rules).1.touchesWin rules) := by
  simp only [afterEffects, destructions, destroyDefeated, destroySunk, destroyMelted,
    List.append_assoc]

variable {g : Grid} {rules : RuleSet} {q : Position} {k : Kind} {o : Object} {e : Event}

/-! ### One pass -/

/-- The objects with one property that share a cell with another, as a matter of their cells. -/
theorem mem_meeting_iff {victim cause : Property} :
    o ∈ g.meeting rules victim cause ↔
      o.kind ∈ (g.cell o.pos).kinds ∧ rules.grants o.kind victim = true ∧
        (g.cell o.pos).bears rules cause = true := by
  rw [mem_meeting, mem_having, mem_objects, and_assoc]
  rfl

theorem mem_sunk_iff :
    o ∈ g.sunk rules ↔
      o.kind ∈ (g.cell o.pos).kinds ∧
        (1 < (g.cell o.pos).size && (g.cell o.pos).bears rules .sink) = true := by
  rw [sunk_eq, List.mem_filter, mem_objects]
  rfl

/-- A pass leaves of a cell what it does not doom there, as it was. -/
theorem cell_destroy_eq {p : Property} {doomed : List Object} {c : Cell} {dooms : Kind → Prop}
    [DecidablePred dooms]
    (hdoomed : ∀ k, (⟨q, k⟩ : Object) ∈ doomed ↔ k ∈ (g.cell q).kinds ∧ dooms k)
    (hleft : ∀ k, c.get? k = if dooms k then none else (g.cell q).get? k) :
    (g.destroy p doomed).1.cell q = c := by
  refine Cell.ext_get? fun k => (get?_takeAll g doomed q k).trans ?_
  rw [hleft]
  simp only [hdoomed]
  by_cases hk : k ∈ (g.cell q).kinds
  · simp [hk]
  · simp [hk, Cell.get?_eq_none_iff.2 hk]

/-- A pass in which objects with one property destroy those with another acts cell by cell. -/
theorem cell_destroy_meeting (g : Grid) (rules : RuleSet) (p victim cause : Property)
    (q : Position) :
    (g.destroy p (g.meeting rules victim cause)).1.cell q = (g.cell q).purge rules victim cause :=
  cell_destroy_eq (fun _ => mem_meeting_iff) ((g.cell q).get?_purge rules victim cause)

/-- So does the pass of SINK. -/
theorem cell_destroySunk (g : Grid) (rules : RuleSet) (q : Position) :
    (g.destroySunk rules).1.cell q = (g.cell q).drown rules :=
  cell_destroy_eq (fun _ => mem_sunk_iff) ((g.cell q).get?_drown rules)

theorem cell_destroyDefeated (g : Grid) (rules : RuleSet) (q : Position) :
    (g.destroyDefeated rules).1.cell q = (g.cell q).purge rules .you .defeat :=
  cell_destroy_meeting g rules .defeat .you .defeat q

theorem cell_destroyMelted (g : Grid) (rules : RuleSet) (q : Position) :
    (g.destroyMelted rules).1.cell q = (g.cell q).purge rules .melt .hot :=
  cell_destroy_meeting g rules .hot .melt .hot q

/-- **What lies on a cell after the three passes.** -/
theorem cell_destructions (g : Grid) (rules : RuleSet) (q : Position) :
    (g.destructions rules).1.cell q = (g.cell q).remains rules := by
  rw [Cell.remains, ← cell_destroyDefeated, ← cell_destroySunk, ← cell_destroyMelted]
  rfl

/-! ### The account of one pass -/

/-- **A pass takes objects off a board for one cause**, tells of all that it takes and of nothing
else, and tells of each of them once. -/
structure Culls (g : Grid) (cause : Property) (pass : Grid × List Event) : Prop where
  left : ∀ o ∈ pass.1.objects, o ∈ g.objects
  told : ∀ e, e ∈ pass.2 ↔
    ∃ q k, (k ∈ (g.cell q).kinds ∧ k ∉ (pass.1.cell q).kinds) ∧ e = .destroyed q k cause
  once : ∀ o, pass.2.countP (Event.destroys o) =
    if o ∈ g.objects ∧ o ∉ pass.1.objects then 1 else 0

/-- So does a pass whose victims are there, each of them named once. -/
theorem culls_destroy {doomed : List Object} (cause : Property) (hnodup : doomed.Nodup)
    (hthere : ∀ o ∈ doomed, o ∈ g.objects) : g.Culls cause (g.destroy cause doomed) := by
  have hleft : ∀ o, o ∈ (g.destroy cause doomed).1.objects ↔ o ∈ g.objects ∧ o ∉ doomed := by
    intro o
    rw [mem_objects, mem_objects]
    exact mem_kinds_takeAll
  have hdoomed : ∀ o, o ∈ doomed ↔
      o ∈ g.objects ∧ o ∉ (g.destroy cause doomed).1.objects := by
    intro o
    rw [hleft]
    constructor
    · intro ho
      exact ⟨hthere o ho, fun h => h.2 ho⟩
    · rintro ⟨ho, h⟩
      by_contra hspared
      exact h ⟨ho, hspared⟩
  refine ⟨fun o ho => ((hleft o).1 ho).1, fun e => ?_, fun o => ?_⟩
  · have hmem : ∀ q k, (⟨q, k⟩ : Object) ∈ doomed ↔
        k ∈ (g.cell q).kinds ∧ k ∉ ((g.destroy cause doomed).1.cell q).kinds := by
      intro q k
      rw [hdoomed, mem_objects, mem_objects]
    simp only [← hmem]
    rw [destroy, List.mem_map]
    constructor
    · rintro ⟨⟨q, k⟩, ho, rfl⟩
      exact ⟨q, k, ho, rfl⟩
    · rintro ⟨q, k, ho, rfl⟩
      exact ⟨⟨q, k⟩, ho, rfl⟩
  · simp only [← hdoomed]
    rw [← hnodup.count, List.count_eq_countP, destroy, List.countP_map]
    refine List.countP_congr fun x _ => ?_
    simp [Event.destroys, Object.ext_iff]

theorem meeting_mem_objects {victim cause : Property} (ho : o ∈ g.meeting rules victim cause) :
    o ∈ g.objects :=
  mem_objects.2 (mem_meeting_iff.1 ho).1

theorem sunk_mem_objects (ho : o ∈ g.sunk rules) : o ∈ g.objects :=
  mem_objects.2 (mem_sunk_iff.1 ho).1

theorem nodup_meeting (g : Grid) (rules : RuleSet) (victim cause : Property) :
    (g.meeting rules victim cause).Nodup := by
  rw [meeting_eq]
  exact (g.nodup_having rules victim).filter _

theorem nodup_sunk (g : Grid) (rules : RuleSet) : (g.sunk rules).Nodup := by
  rw [sunk_eq]
  exact g.nodup_objects.filter _

theorem culls_destroyDefeated (g : Grid) (rules : RuleSet) :
    g.Culls .defeat (g.destroyDefeated rules) :=
  culls_destroy .defeat (g.nodup_meeting rules .you .defeat) fun _ => meeting_mem_objects

theorem culls_destroySunk (g : Grid) (rules : RuleSet) : g.Culls .sink (g.destroySunk rules) :=
  culls_destroy .sink (g.nodup_sunk rules) fun _ => sunk_mem_objects

theorem culls_destroyMelted (g : Grid) (rules : RuleSet) :
    g.Culls .hot (g.destroyMelted rules) :=
  culls_destroy .hot (g.nodup_meeting rules .melt .hot) fun _ => meeting_mem_objects

/-! ### The account of the three passes -/

/-- The account of the three passes is that of each on the board left by the one before it. -/
theorem events_destructions (g : Grid) (rules : RuleSet) :
    (g.destructions rules).2 =
      (g.destroyDefeated rules).2 ++ ((g.destroyDefeated rules).1.destroySunk rules).2 ++
        (((g.destroyDefeated rules).1.destroySunk rules).1.destroyMelted rules).2 := rfl

/-- **The account tells of what is destroyed, and names the pass.** -/
theorem mem_events_destructions :
    e ∈ (g.destructions rules).2 ↔
      ∃ q k p, (g.cell q).DestroyedBy rules k p ∧ e = .destroyed q k p := by
  rw [events_destructions, List.mem_append, List.mem_append, (culls_destroyDefeated g rules).told,
    (culls_destroySunk _ rules).told, (culls_destroyMelted _ rules).told]
  simp only [cell_destroyDefeated, cell_destroySunk, cell_destroyMelted]
  constructor
  · rintro ((⟨q, k, ⟨hk, hgone⟩, rfl⟩ | ⟨q, k, ⟨hk, hgone⟩, rfl⟩) | ⟨q, k, ⟨hk, hgone⟩, rfl⟩)
    · exact ⟨q, k, _, .defeat hk hgone, rfl⟩
    · exact ⟨q, k, _, .sink hk hgone, rfl⟩
    · exact ⟨q, k, _, .hot hk hgone, rfl⟩
  · rintro ⟨q, k, p, ⟨hk, hgone⟩ | ⟨hk, hgone⟩ | ⟨hk, hgone⟩, rfl⟩
    · exact .inl (.inl ⟨q, k, ⟨hk, hgone⟩, rfl⟩)
    · exact .inl (.inr ⟨q, k, ⟨hk, hgone⟩, rfl⟩)
    · exact .inr ⟨q, k, ⟨hk, hgone⟩, rfl⟩

/-- What goes in one pass and what goes in a later one add up. -/
theorem gone_add_gone {h i : Grid} {n m : Nat} (hleft : ∀ o ∈ h.objects, o ∈ g.objects)
    (hleft' : ∀ o ∈ i.objects, o ∈ h.objects)
    (hn : n = if o ∈ g.objects ∧ o ∉ h.objects then 1 else 0)
    (hm : m = if o ∈ h.objects ∧ o ∉ i.objects then 1 else 0) :
    n + m = if o ∈ g.objects ∧ o ∉ i.objects then 1 else 0 := by
  have hgh := hleft o
  have hhi := hleft' o
  by_cases hi : o ∈ i.objects
  · simp [hn, hm, hi, hhi hi]
  · by_cases hh : o ∈ h.objects
    · simp [hn, hm, hi, hh, hgh hh]
    · simp [hn, hm, hi, hh]

/-- **Each object that is destroyed is told of once**, and no other. -/
theorem countP_destructions (g : Grid) (rules : RuleSet) (o : Object) :
    (g.destructions rules).2.countP (Event.destroys o) =
      if o ∈ g.objects ∧ o ∉ (g.destructions rules).1.objects then 1 else 0 := by
  have hdefeat := g.culls_destroyDefeated rules
  have hsink := (g.destroyDefeated rules).1.culls_destroySunk rules
  have hhot := ((g.destroyDefeated rules).1.destroySunk rules).1.culls_destroyMelted rules
  rw [events_destructions, List.countP_append, List.countP_append]
  refine gone_add_gone (fun o ho => hdefeat.left o (hsink.left o ho)) hhot.left ?_ (hhot.once o)
  exact gone_add_gone hdefeat.left hsink.left (hdefeat.once o) (hsink.once o)

/-! ### The passes as loops -/

/-- One round of a pass: a doomed object is taken off the board, and it is told of if it was
there. -/
def reap (cause : Property) (s : Grid × List Event) (o : Object) : Grid × List Event :=
  if o.kind ∈ (s.1.cell o.pos).kinds then
    (s.1.take o, s.2 ++ [.destroyed o.pos o.kind cause])
  else s

/-- The victims of SINK, gathered cell by cell. -/
def drowning (g : Grid) (rules : RuleSet) : List Object :=
  g.positions.flatMap fun p =>
    if 1 < (g.cell p).size && g.holds rules p .sink then (g.cell p).kinds.map fun k => ⟨p, k⟩
    else []

/-- The three passes as loops over their victims, each of which is looked for when its turn
comes. -/
def destroyInTurn (g : Grid) (rules : RuleSet) : Grid × List Event :=
  let s := (g.defeated rules).foldl (reap .defeat) (g, [])
  let s := (s.1.drowning rules).foldl (reap .sink) s
  (s.1.melted rules).foldl (reap .hot) s

/-- A loop over victims that are there, each of them named once, is a pass. -/
theorem foldl_reap {cause : Property} {doomed : List Object} (hnodup : doomed.Nodup)
    (hthere : ∀ o ∈ doomed, o ∈ g.objects) (told : List Event) :
    doomed.foldl (reap cause) (g, told) =
      ((g.destroy cause doomed).1, told ++ (g.destroy cause doomed).2) := by
  induction doomed generalizing g told with
  | nil => simp [destroy, takeAll]
  | cons o rest ih =>
      obtain ⟨hnew, hnodup⟩ := List.nodup_cons.1 hnodup
      obtain ⟨ho, hrest⟩ := List.forall_mem_cons.1 hthere
      rw [List.foldl_cons, reap, if_pos (mem_objects.1 ho), ih hnodup fun o' ho' => ?_]
      · simp [destroy, takeAll]
      · -- another victim is still there
        have hne : o' ≠ o := by
          rintro rfl
          exact hnew ho'
        exact mem_objects.2 (mem_kinds_take.2 ⟨mem_objects.1 (hrest o' ho'), hne⟩)

theorem foldl_reap_meeting (g : Grid) (rules : RuleSet) (p victim cause : Property)
    (told : List Event) :
    (g.meeting rules victim cause).foldl (reap p) (g, told) =
      ((g.destroy p (g.meeting rules victim cause)).1,
        told ++ (g.destroy p (g.meeting rules victim cause)).2) :=
  foldl_reap (g.nodup_meeting rules victim cause) (fun _ => meeting_mem_objects) told

/-- Gathered cell by cell the victims of SINK are the same. -/
theorem drowning_eq (g : Grid) (rules : RuleSet) : g.drowning rules = g.sunk rules := by
  rw [sunk_eq, objects, List.filter_flatMap, drowning]
  refine List.flatMap_congr fun p _ => ?_
  rw [List.filter_map, Function.comp_def]
  dsimp only
  split
  · rename_i h
    simp [h]
  · rename_i h
    simp [h]

/-- **The loops come to the three passes.** -/
theorem destroyInTurn_eq (g : Grid) (rules : RuleSet) :
    g.destroyInTurn rules = g.destructions rules := by
  unfold destroyInTurn
  dsimp only
  rw [defeated, foldl_reap_meeting, List.nil_append, drowning_eq,
    foldl_reap (nodup_sunk _ rules) fun _ => sunk_mem_objects, melted, foldl_reap_meeting]
  rfl

/-! ### The passes again -/

theorem sameSize_destructions (g : Grid) (rules : RuleSet) :
    SameSize g (g.destructions rules).1 :=
  (((SameSize.refl g).destroy .defeat _).destroy .sink _).destroy .hot _

/-- **Where nothing is to be destroyed nothing happens.** -/
theorem destructions_of_settled (h : ∀ q, (g.cell q).Settled rules) :
    g.destructions rules = (g, []) := by
  refine Prod.ext ?_ ?_
  · refine (ext_cell (sameSize_destructions g rules) fun q => ?_).symm
    rw [cell_destructions, (h q).remains_eq]
  · refine List.eq_nil_iff_forall_not_mem.2 fun e he => ?_
    obtain ⟨q, k, p, hdestroyed, _⟩ := mem_events_destructions.1 he
    exact (h q).not_destroyedBy p hdestroyed

/-- **What DEFEAT, SINK and HOT destroy after the transformation.**  Each cell becomes what the
three passes leave of it, one after another, and what is left faces as it did.  The account tells of
every object that is destroyed once, with the cause of the pass that destroys it, and of nothing
else.  Afterwards nothing is to be destroyed on any cell, so the same passes again do nothing.
Loops that look for each victim when its turn comes do the same. -/
theorem destructions_settle (g : Grid) (rules : RuleSet) :
    g.afterEffects rules =
      (((g.transform rules).1.destroyInTurn rules).1,
        (g.transform rules).2 ++ ((g.transform rules).1.destroyInTurn rules).2,
        (g.transform rules).1.touchesWin rules) ∧
    g.destroyInTurn rules = g.destructions rules ∧
    (∀ q, (g.destructions rules).1.cell q = (g.cell q).remains rules) ∧
    (∀ q, ∀ k ∈ ((g.destructions rules).1.cell q).kinds,
      ((g.destructions rules).1.cell q).facing k = (g.cell q).facing k) ∧
    (∀ e, e ∈ (g.destructions rules).2 ↔
      ∃ q k p, (g.cell q).DestroyedBy rules k p ∧ e = .destroyed q k p) ∧
    (∀ o, (g.destructions rules).2.countP (Event.destroys o) =
      if o ∈ g.objects ∧ o ∉ (g.destructions rules).1.objects then 1 else 0) ∧
    (∀ q, ((g.destructions rules).1.cell q).Settled rules) ∧
    (g.destructions rules).1.destructions rules = ((g.destructions rules).1, []) := by
  have hsettled : ∀ q, ((g.destructions rules).1.cell q).Settled rules := by
    intro q
    rw [cell_destructions]
    exact (g.cell q).settled_remains rules
  refine ⟨?_, destroyInTurn_eq g rules, cell_destructions g rules, fun q k hk => ?_,
    fun _ => mem_events_destructions, countP_destructions g rules, hsettled,
    destructions_of_settled hsettled⟩
  · rw [destroyInTurn_eq, afterEffects_eq]
  · rw [cell_destructions] at hk ⊢
    rw [Cell.facing, Cell.get?_remains_of_mem hk, Cell.facing]

end Grid

end RuleTiles
