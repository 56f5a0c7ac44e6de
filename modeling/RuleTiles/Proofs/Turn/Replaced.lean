/-
**What a transformation leaves on a cell.**

Sources are lifted from one snapshot of the board and their targets set down afterwards, rule by
rule.  So what becomes of a cell is a matter of that cell and the rules: a kind that is replaced
makes way for all its targets at once, exchanges and chains do not go on, and of several sources
that turn into one kind the last in catalog order that faces somewhere hands on its facing.  The
description given here pins down the cell after the transformation.

Main definitions:

* `RuleTiles.RuleSet.Replaces`, `RuleTiles.RuleSet.Yields` — the kinds that are replaced, and by
  what;
* `RuleTiles.Cell.Produces`, `RuleTiles.Cell.HandsOn` — the sources on a cell, and the facing that
  they hand on;
* `RuleTiles.Cell.Replacement` — **what a cell becomes**.

Main results:

* `RuleTiles.RuleSet.mem_effective_iff`, `RuleTiles.RuleSet.pairwise_effective` — the changes that
  rules make, in catalog order of their sources;
* `RuleTiles.Cell.Replacement.unique` — the description leaves no choice;
* `RuleTiles.Grid.mem_kinds_transform_iff`, `RuleTiles.Grid.facing_transform_eq_some` — kinds and
  facings after the transformation;
* `RuleTiles.Grid.transform_replaces` — **the transformation replaces cell by cell**.
-/

import RuleTiles.Proofs.Checked.Turn
import RuleTiles.Proofs.Turn.Transformed

set_option relaxedAutoImplicit false
set_option autoImplicit false

namespace RuleTiles

/-! ### Kinds that are replaced -/

namespace RuleSet

/-- Rules replace a kind when they turn it into something, and not into itself. -/
def Replaces (rules : RuleSet) (k : Kind) : Prop :=
  (∃ target, (⟨k, .becomes target⟩ : Rule) ∈ rules) ∧ (⟨k, .becomes k⟩ : Rule) ∉ rules

/-- What objects of a kind are to become: a target that may lie on a cell, or the word for the kind
where the target is `text`. -/
inductive Yields (rules : RuleSet) (k : Kind) : Kind → Prop
  | named {t : Kind} (hrule : (⟨k, .becomes t⟩ : Rule) ∈ rules) (ht : t.isPlaceable = true) :
      Yields rules k t
  | word {t : Kind} (hrule : (⟨k, .becomes (.icon .text)⟩ : Rule) ∈ rules)
      (hword : k.toWord? = some t) : Yields rules k t

variable {rules : RuleSet} {k t : Kind}

theorem Yields.isPlaceable (h : rules.Yields k t) : t.isPlaceable = true := by
  cases h with
  | named _ ht => exact ht
  | word _ hword =>
      cases k with
      | icon n =>
          cases hword
          rfl
      | _ => cases hword

theorem protects_eq_false : rules.protects k = false ↔ (⟨k, .becomes k⟩ : Rule) ∉ rules := by
  simp [protects]

/-- A target other than `text` is taken as it is. -/
theorem resolve_of_ne {target : Kind} (h : target ≠ .icon .text) : k.resolve target = target := by
  unfold Kind.resolve
  split
  · exact absurd rfl h
  · rfl

/-- **The changes that rules make** are of the kinds that they replace, into what these are to
become. -/
theorem mem_effective_iff (ht : t.isPlaceable = true) :
    (k, t) ∈ rules.effective ↔ k.isPlaceable = true ∧ rules.Replaces k ∧ rules.Yields k t := by
  rw [Grid.mem_effective]
  dsimp only
  constructor
  · rintro ⟨target, hrule, hk, hfree, hresult⟩
    refine ⟨hk, ⟨⟨target, hrule⟩, protects_eq_false.1 hfree⟩, ?_⟩
    by_cases htext : target = .icon .text
    · subst htext
      refine .word hrule ?_
      change t = k.toWord?.getD (.icon .empty) at hresult
      cases hword : k.toWord? with
      | some t' => rw [hresult, hword, Option.getD_some]
      | none =>
          -- without a word of its own the kind makes way for nothing
          rw [hresult, hword] at ht
          cases ht
    · rw [resolve_of_ne htext] at hresult
      subst hresult
      exact .named hrule ht
  · rintro ⟨hk, ⟨_, hfree⟩, ⟨hrule, _⟩ | ⟨hrule, hword⟩⟩
    · have hne : t ≠ .icon .text := by
        rintro rfl
        cases ht
      exact ⟨t, hrule, hk, protects_eq_false.2 hfree, (resolve_of_ne hne).symm⟩
    · refine ⟨.icon .text, hrule, hk, protects_eq_false.2 hfree, ?_⟩
      change t = k.toWord?.getD (.icon .empty)
      rw [hword, Option.getD_some]

/-- Every kind that is replaced is changed into something, if only into nothing. -/
theorem exists_mem_effective :
    (∃ t, (k, t) ∈ rules.effective) ↔ k.isPlaceable = true ∧ rules.Replaces k := by
  simp only [Grid.mem_effective, Replaces, protects_eq_false]
  constructor
  · rintro ⟨t, target, hrule, hk, hfree, _⟩
    exact ⟨hk, ⟨target, hrule⟩, hfree⟩
  · rintro ⟨hk, ⟨target, hrule⟩, hfree⟩
    exact ⟨_, target, hrule, hk, hfree, rfl⟩

/-- Rules in order have their subjects in catalog order. -/
theorem index_le_of_lt {r r' : Rule} (h : compare r r' = .lt) :
    r.subject.index ≤ r'.subject.index := by
  change (compare r.subject.index r'.subject.index).then (compare r.predicate r'.predicate) = .lt
    at h
  rcases Ordering.then_eq_lt.1 h with hlt | ⟨heq, _⟩
  · exact Nat.le_of_lt (Nat.compare_eq_lt.1 hlt)
  · exact Nat.le_of_eq (Nat.compare_eq_eq.1 heq)

/-- The changes come in catalog order of their sources. -/
theorem pairwise_effective (rules : RuleSet) :
    rules.effective.Pairwise fun s s' => s.1.index ≤ s'.1.index := by
  have htransformations : rules.transformations.Pairwise fun s s' => s.1.index ≤ s'.1.index := by
    refine List.pairwise_filterMap.2 (rules.ascending.imp ?_)
    rintro ⟨k, predicate⟩ ⟨k', predicate'⟩ hlt s hs s' hs'
    have hle := index_le_of_lt hlt
    cases predicate with
    | property => cases hs
    | becomes =>
        cases predicate' with
        | property => cases hs'
        | becomes =>
            cases hs
            cases hs'
            exact hle
  exact List.pairwise_map.2 (htransformations.filter _)

end RuleSet

/-! ### One cell -/

namespace Cell

/-- A source on a cell that turns into a kind. -/
def Produces (c : Cell) (rules : RuleSet) (k t : Kind) : Prop :=
  k ∈ c.kinds ∧ rules.Replaces k ∧ rules.Yields k t

/-- The facing that the sources on a cell hand on to a kind into which they turn: that of the last
of them in catalog order that faces somewhere. -/
def HandsOn (c : Cell) (rules : RuleSet) (t : Kind) (d : Direction) : Prop :=
  ∃ k, c.Produces rules k t ∧ c.facing k = some d ∧
    ∀ k', c.Produces rules k' t → c.facing k' ≠ none → k'.index ≤ k.index

/-- They hand on one facing only. -/
theorem HandsOn.unique {c : Cell} {rules : RuleSet} {t : Kind} {d d' : Direction}
    (h : c.HandsOn rules t d) (h' : c.HandsOn rules t d') : d = d' := by
  obtain ⟨k, hk, hd, hgreatest⟩ := h
  obtain ⟨k', hk', hd', hgreatest'⟩ := h'
  have hle := hgreatest k' hk' (by simp [hd'])
  have hge := hgreatest' k hk (by simp [hd])
  have hsame := Kind.index_injective (Nat.le_antisymm hge hle)
  rw [hsame, hd'] at hd
  exact (Option.some.inj hd).symm

/-- **What a cell becomes.**  A kind lies on it afterwards that lay there and is not replaced, or
into which a source there turns.  It faces as the sources that turn into it hand on, or else as it
did if it lay there and is not replaced, or else nowhere. -/
structure Replacement (rules : RuleSet) (c c' : Cell) : Prop where
  kinds : ∀ t, t ∈ c'.kinds ↔
    (t ∈ c.kinds ∧ ¬rules.Replaces t) ∨ ∃ k, c.Produces rules k t
  facing : ∀ t d, c'.facing t = some d ↔
    c.HandsOn rules t d ∨
      (∀ k, c.Produces rules k t → c.facing k = none) ∧
        (t ∈ c.kinds ∧ ¬rules.Replaces t) ∧ c.facing t = some d

/-- The description of what a cell becomes leaves no choice. -/
theorem Replacement.unique {rules : RuleSet} {c c₁ c₂ : Cell} (h₁ : Replacement rules c c₁)
    (h₂ : Replacement rules c c₂) : c₁ = c₂ := by
  refine ext_facing (fun k => (h₁.kinds k).trans (h₂.kinds k).symm) fun k => Option.ext fun d => ?_
  exact (h₁.facing k d).trans (h₂.facing k d).symm

end Cell

/-! ### The facing that is handed on -/

/-- The last of a list in order on which a partial function is defined comes after all the others
on which it is. -/
theorem exists_of_getLast?_filterMap {α β : Type} {r : α → α → Prop} (hrefl : ∀ a, r a a)
    {l : List α} (hl : l.Pairwise r) {f : α → Option β} {b : β}
    (hlast : (l.filterMap f).getLast? = some b) :
    ∃ a ∈ l, f a = some b ∧ ∀ a' ∈ l, f a' ≠ none → r a' a := by
  induction l using List.reverseRecOn with
  | nil => cases hlast
  | append_singleton l a ih =>
      obtain ⟨hl, _, hlater⟩ := List.pairwise_append.1 hl
      rw [List.filterMap_append] at hlast
      cases ha : f a with
      | none =>
          rw [List.filterMap_cons_none ha, List.filterMap_nil, List.append_nil] at hlast
          obtain ⟨a', ha', hb, hgreatest⟩ := ih hl hlast
          refine ⟨a', List.mem_append_left _ ha', hb, fun x hx hsome => ?_⟩
          rcases List.mem_append.1 hx with hx | hx
          · exact hgreatest x hx hsome
          · rw [List.mem_singleton.1 hx] at hsome
            exact absurd ha hsome
      | some b' =>
          rw [List.filterMap_cons_some ha, List.filterMap_nil, List.getLast?_append,
            List.getLast?_singleton, Option.some_or] at hlast
          cases hlast
          refine ⟨a, List.mem_append_right _ (List.mem_singleton.2 rfl), ha, fun x hx _ => ?_⟩
          rcases List.mem_append.1 hx with hx | hx
          · exact hlater x hx a (List.mem_singleton.2 rfl)
          · rw [List.mem_singleton.1 hx]
            exact hrefl a

namespace Grid

variable {g : Grid} {rules : RuleSet} {q : Position} {k t : Kind}

/-- Of what changes enter at a place the last facing stays. -/
theorem join_foldl_enter (l : List Change) (entry : Option (Option Direction)) :
    (l.foldl enter entry).join = (l.filterMap Change.facing).getLast?.or entry.join := by
  induction l using List.reverseRecOn with
  | nil => rfl
  | append_singleton l c ih =>
      rw [List.foldl_append, List.foldl_cons, List.foldl_nil, enter, Option.join_some, ih,
        List.filterMap_append, List.getLast?_append]
      cases hc : c.facing with
      | none => simp [hc]
      | some d => simp [hc]

/-- **The changes of a transformation** are those of the sources, each into what it turns into. -/
theorem mem_changes_iff (ht : t.isPlaceable = true) {facing : Option Direction} :
    (⟨q, k, t, facing⟩ : Change) ∈ g.changes rules ↔
      (g.cell q).Produces rules k t ∧ facing = (g.cell q).facing k := by
  rw [mem_changes, RuleSet.mem_effective_iff ht, positionsOf, List.mem_filter, mem_positions]
  dsimp only
  constructor
  · rintro ⟨⟨hk, hreplaces, hyields⟩, ⟨_, hhas⟩, hfacing⟩
    exact ⟨⟨(Cell.has_iff_mem_kinds hk).1 hhas, hreplaces, hyields⟩, hfacing⟩
  · rintro ⟨⟨hmem, hreplaces, hyields⟩, hfacing⟩
    have hk := Cell.isPlaceable_of_mem_kinds hmem
    exact ⟨⟨hk, hreplaces, hyields⟩,
      ⟨contains_of_mem_kinds hmem, (Cell.has_iff_mem_kinds hk).2 hmem⟩, hfacing⟩

/-- What lies on a cell is a source there when it is replaced. -/
theorem exists_source_iff (hk : k ∈ (g.cell q).kinds) :
    (∃ c ∈ g.changes rules, c.pos = q ∧ c.source = k) ↔ rules.Replaces k := by
  have hplaceable := Cell.isPlaceable_of_mem_kinds hk
  constructor
  · rintro ⟨c, hc, rfl, rfl⟩
    exact (RuleSet.exists_mem_effective.1 ⟨_, (mem_changes.1 hc).1⟩).2
  · intro hreplaces
    obtain ⟨t, ht⟩ := RuleSet.exists_mem_effective.2 ⟨hplaceable, hreplaces⟩
    refine ⟨⟨q, k, t, (g.cell q).facing k⟩, mem_changes.2 ⟨ht, ?_, rfl⟩, rfl, rfl⟩
    exact List.mem_filter.2 ⟨mem_positions.2 (contains_of_mem_kinds hk),
      (Cell.has_iff_mem_kinds hplaceable).2 hk⟩

/-- **The kinds on a cell after the transformation.** -/
theorem mem_kinds_transform_iff :
    t ∈ ((g.transform rules).1.cell q).kinds ↔
      (t ∈ (g.cell q).kinds ∧ ¬rules.Replaces t) ∨ ∃ k, (g.cell q).Produces rules k t := by
  rw [mem_kinds_transform]
  refine or_congr (and_congr_right fun ht => ?_) ?_
  · rw [← exists_source_iff ht]
    simp only [not_exists, not_and]
  · constructor
    · rintro ⟨⟨p, k, t', facing⟩, hc, rfl, rfl, _, hplaceable⟩
      exact ⟨k, ((mem_changes_iff hplaceable).1 hc).1⟩
    · rintro ⟨k, hproduces⟩
      have hplaceable := hproduces.2.2.isPlaceable
      exact ⟨_, (mem_changes_iff hplaceable).2 ⟨hproduces, rfl⟩, rfl, rfl,
        contains_of_mem_kinds hproduces.1, hplaceable⟩

/-- The changes at a position into a kind are those of the sources there that turn into it. -/
theorem mem_changesAt_into (hq : g.contains q = true) (ht : t.isPlaceable = true) {c : Change} :
    c ∈ (g.changesAt rules q).filter (fun c => c.target = t) ↔
      c = ⟨q, c.source, t, (g.cell q).facing c.source⟩ ∧
        (g.cell q).Produces rules c.source t := by
  obtain ⟨p, k, t', facing⟩ := c
  rw [← filter_changes hq, List.filter_filter, List.mem_filter]
  simp only [Bool.and_eq_true, decide_eq_true_eq, Change.mk.injEq, true_and]
  constructor
  · rintro ⟨hc, rfl, rfl⟩
    obtain ⟨hproduces, hfacing⟩ := (mem_changes_iff ht).1 hc
    exact ⟨⟨rfl, rfl, hfacing⟩, hproduces⟩
  · rintro ⟨⟨rfl, rfl, hfacing⟩, hproduces⟩
    exact ⟨(mem_changes_iff ht).2 ⟨hproduces, hfacing⟩, rfl, rfl⟩

/-- They come in catalog order of their sources. -/
theorem pairwise_changesAt (g : Grid) (rules : RuleSet) (q : Position) :
    (g.changesAt rules q).Pairwise fun c c' => c.source.index ≤ c'.source.index :=
  List.pairwise_map.2 (rules.pairwise_effective.filter _)

/-- No facing is entered for a kind when no source that turns into it has one. -/
theorem getLast?_eq_none_iff_produces (hq : g.contains q = true) (ht : t.isPlaceable = true) :
    (((g.changesAt rules q).filter fun c => c.target = t).filterMap Change.facing).getLast? =
        none ↔
      ∀ k, (g.cell q).Produces rules k t → (g.cell q).facing k = none := by
  rw [List.getLast?_eq_none_iff, List.filterMap_eq_nil_iff]
  constructor
  · intro h k hproduces
    exact h ⟨q, k, t, (g.cell q).facing k⟩ ((mem_changesAt_into hq ht).2 ⟨rfl, hproduces⟩)
  · intro h c hc
    obtain ⟨hchange, hproduces⟩ := (mem_changesAt_into hq ht).1 hc
    rw [hchange]
    exact h c.source hproduces

/-- The last facing that is entered for a kind is the one that the sources hand on. -/
theorem getLast?_eq_some_iff_handsOn (hq : g.contains q = true) (ht : t.isPlaceable = true)
    {d : Direction} :
    (((g.changesAt rules q).filter fun c => c.target = t).filterMap Change.facing).getLast? =
        some d ↔
      (g.cell q).HandsOn rules t d := by
  -- the greatest source with a facing is the source of the last change with one
  have hlast : ∀ {d}, (((g.changesAt rules q).filter fun c => c.target = t).filterMap
      Change.facing).getLast? = some d → (g.cell q).HandsOn rules t d := by
    intro d hd
    obtain ⟨c, hc, hfacing, hgreatest⟩ := exists_of_getLast?_filterMap
      (fun c => Nat.le_refl c.source.index) ((pairwise_changesAt g rules q).filter _) hd
    obtain ⟨hchange, hproduces⟩ := (mem_changesAt_into hq ht).1 hc
    rw [hchange] at hfacing
    exact ⟨c.source, hproduces, hfacing, fun k' hk' hsome =>
      hgreatest ⟨q, k', t, (g.cell q).facing k'⟩ ((mem_changesAt_into hq ht).2 ⟨rfl, hk'⟩) hsome⟩
  refine ⟨hlast, fun hhands => ?_⟩
  have ⟨k, hproduces, hfacing, _⟩ := hhands
  cases hd : (((g.changesAt rules q).filter fun c => c.target = t).filterMap
      Change.facing).getLast? with
  | none =>
      have hnone := (getLast?_eq_none_iff_produces hq ht).1 hd k hproduces
      rw [hfacing] at hnone
      cases hnone
  | some d' => rw [hhands.unique (hlast hd)]

theorem facing_transform (hq : g.contains q = true) (ht : t.isPlaceable = true) :
    ((g.transform rules).1.cell q).facing t =
      (((g.changesAt rules q).filter fun c => c.target = t).filterMap Change.facing).getLast?.or
        (if t ∈ (g.changesAt rules q).map Change.source then none else (g.cell q).facing t) := by
  rw [Cell.facing, get?_transform hq ht, join_foldl_enter]
  split
  · rfl
  · rfl

theorem mem_sources_changesAt (hq : g.contains q = true) :
    t ∈ (g.changesAt rules q).map Change.source ↔ t ∈ (g.cell q).kinds ∧ rules.Replaces t := by
  rw [← filter_changes hq, List.mem_map]
  simp only [List.mem_filter, decide_eq_true_eq, and_assoc]
  constructor
  · rintro ⟨c, hc, rfl, rfl⟩
    have hmem := mem_objects.1 (source_mem_objects hc)
    exact ⟨hmem, (exists_source_iff hmem).1 ⟨c, hc, rfl, rfl⟩⟩
  · rintro ⟨hmem, hreplaces⟩
    exact (exists_source_iff hmem).2 hreplaces

/-- **The facing of a kind after the transformation.** -/
theorem facing_transform_eq_some {d : Direction} :
    ((g.transform rules).1.cell q).facing t = some d ↔
      (g.cell q).HandsOn rules t d ∨
        (∀ k, (g.cell q).Produces rules k t → (g.cell q).facing k = none) ∧
          (t ∈ (g.cell q).kinds ∧ ¬rules.Replaces t) ∧ (g.cell q).facing t = some d := by
  by_cases hsite : g.contains q = true ∧ t.isPlaceable = true
  · obtain ⟨hq, ht⟩ := hsite
    rw [facing_transform hq ht, Option.or_eq_some_iff, getLast?_eq_some_iff_handsOn hq ht,
      getLast?_eq_none_iff_produces hq ht]
    refine or_congr_right (and_congr_right fun _ => ?_)
    have hkind : (g.cell q).facing t = some d → t ∈ (g.cell q).kinds := by
      intro hfacing
      rw [Cell.facing, Option.join_eq_some_iff] at hfacing
      rw [Cell.mem_kinds, hfacing]
      rfl
    by_cases hsource : t ∈ (g.changesAt rules q).map Change.source
    · rw [if_pos hsource]
      have hreplaces := ((mem_sources_changesAt hq).1 hsource).2
      simp [hreplaces]
    · rw [if_neg hsource]
      rw [mem_sources_changesAt hq] at hsource
      exact ⟨fun hfacing => ⟨⟨hkind hfacing, fun hr => hsource ⟨hkind hfacing, hr⟩⟩, hfacing⟩,
        fun h => h.2⟩
  · -- nothing lies there, and nothing turns into the kind
    have hnone : ((g.transform rules).1.cell q).facing t = none := by
      rw [Cell.facing, get?_eq_none (by rwa [← (sameSize_transform g rules).contains])]
      rfl
    rw [hnone]
    refine iff_of_false (fun h => by cases h) ?_
    rintro (⟨k, ⟨hk, _, hyields⟩, _⟩ | ⟨_, ⟨ht, _⟩, _⟩)
    · exact hsite ⟨contains_of_mem_kinds hk, hyields.isPlaceable⟩
    · exact hsite ⟨contains_of_mem_kinds ht, Cell.isPlaceable_of_mem_kinds ht⟩

/-- **The transformation replaces cell by cell.**  Each cell becomes what the description says of it
and the rules, so equal cells, also of different boards, become equal cells.  Everything that is
lifted lies on the board. -/
theorem transform_replaces (g : Grid) (rules : RuleSet) :
    Checked.transform g rules = pure (g.transform rules) ∧
    (∀ q, Cell.Replacement rules (g.cell q) ((g.transform rules).1.cell q)) ∧
    ∀ (h : Grid) (p q : Position), g.cell p = h.cell q →
      (g.transform rules).1.cell p = (h.transform rules).1.cell q := by
  have hreplaced : ∀ (g : Grid) q,
      Cell.Replacement rules (g.cell q) ((g.transform rules).1.cell q) :=
    fun g q => ⟨fun _ => mem_kinds_transform_iff, fun _ _ => facing_transform_eq_some⟩
  refine ⟨Checked.transform_eq g rules, hreplaced g, fun h p q hcell => ?_⟩
  have hother := hreplaced h q
  rw [← hcell] at hother
  exact (hreplaced g p).unique hother

end Grid

end RuleTiles
