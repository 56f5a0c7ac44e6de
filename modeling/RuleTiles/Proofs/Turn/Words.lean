/-
**Where the word tiles of a turn come from.**

Movement only moves word tiles, and destruction only removes them.  A word tile is made in one way:
under a rule that turns a kind into `text` an object becomes the word for its own kind.  The linking
word and the property words are therefore never made, and every naming word that is made is named
in the report of the turn.

Main definitions:

* `RuleTiles.Kind.ruleSubject` — the kind that the rules about a kind name.

Main results:

* `RuleTiles.Grid.mem_rules_shape`, `RuleTiles.Grid.property_mem_rules` — what the rules read off
  a board are like, and what it takes to spell one that grants a property;
* `RuleTiles.Grid.mem_kinds_transform`, `RuleTiles.Grid.mem_kinds_afterEffects` — what lies on a
  cell when the rules have had their effect;
* `RuleTiles.Grid.word_origin` — **a word tile was there before the effects, or the report says
  what turned into it**;
* `RuleTiles.Grid.carries_of_resolve` — **a turn makes no word but naming words**.
-/

import RuleTiles.Proofs.Turn.Planned

set_option relaxedAutoImplicit false
set_option autoImplicit false

namespace RuleTiles

/-! ### The rule behind a property -/

/-- The kind that the rules about a kind name: `text` for a word tile, the kind itself for an
icon. -/
def Kind.ruleSubject (k : Kind) : Kind := if k.isText then .icon .text else k

/-- Any property but PUSH is granted by one rule only. -/
theorem RuleSet.grants_iff_mem {rules : RuleSet} {k : Kind} {q : Property} (hq : q ≠ .push) :
    rules.grants k q = true ↔ (⟨k.ruleSubject, .property q⟩ : Rule) ∈ rules := by
  unfold grants Kind.ruleSubject
  split
  · simp [hq, states_eq_true]
  · exact states_eq_true

namespace Grid

/-! ### Rules read off a board -/

/-- The rules read off a board are about icons, and turn icons into icons only. -/
theorem mem_rules_shape {g : Grid} {r : Rule} (h : r ∈ g.rules) :
    ∃ n, r.subject = .icon n ∧
      ((∃ p, r.predicate = .property p) ∨ ∃ m, r.predicate = .becomes (.icon m)) := by
  obtain ⟨p, hp⟩ := mem_rules.1 h
  obtain ⟨_, d, _, hd⟩ := mem_sentencesAt.1 hp
  obtain ⟨subject, _, object, _, hwords⟩ := mem_sentences.1 hd
  obtain ⟨n, _, _, hsubject, ⟨q, _, hq⟩ | ⟨m, _, hm⟩⟩ := Rule.ofWords?_eq_some_iff.1 hwords
  · exact ⟨n, hsubject, .inl ⟨q, hq⟩⟩
  · exact ⟨n, hsubject, .inr ⟨m, hm⟩⟩

/-- A rule that grants a property is spelled by its naming word, the linking word and its property
word on three cells in a row. -/
theorem property_mem_rules {g : Grid} {n : Noun} {q : Property} :
    (⟨.icon n, .property q⟩ : Rule) ∈ g.rules ↔
      ∃ p, ∃ d ∈ readingDirections, Kind.word n ∈ (g.cell (p.step d.reverse)).kinds ∧
        Kind.is ∈ (g.cell p).kinds ∧ Kind.property q ∈ (g.cell (p.step d)).kinds := by
  rw [mem_rules]
  constructor
  · rintro ⟨p, hp⟩
    obtain ⟨his, d, hd, hwords⟩ := mem_sentencesAt.1 hp
    obtain ⟨subject, hsubject, object, hobject, hr⟩ := mem_sentences.1 hwords
    obtain ⟨m, rfl, _, hm, ⟨q', rfl, hq⟩ | ⟨m', rfl, hm'⟩⟩ := Rule.ofWords?_eq_some_iff.1 hr
    · cases hm
      cases hq
      exact ⟨p, d, hd, hsubject, his, hobject⟩
    · cases hm'
  · rintro ⟨p, d, hd, hsubject, his, hobject⟩
    refine ⟨p, mem_sentencesAt.2 ⟨his, d, hd, mem_sentences.2 ?_⟩⟩
    exact ⟨.word n, hsubject, .property q, hobject, rfl⟩

/-- A property granted to an object is spelled with the word for the property. -/
theorem carries_of_grants {g : Grid} {k : Kind} {q : Property} (hq : q ≠ .push)
    (h : g.rules.grants k q = true) : g.Carries (.property q) := by
  have hr := (RuleSet.grants_iff_mem hq).1 h
  obtain ⟨n, hn, _⟩ := mem_rules_shape hr
  dsimp only at hn
  rw [hn] at hr
  obtain ⟨p, d, _, _, _, hword⟩ := property_mem_rules.1 hr
  exact ⟨p.step d, hword⟩

/-! ### Transformation -/

theorem mem_effective {rules : RuleSet} {t : Kind × Kind} :
    t ∈ rules.effective ↔
      ∃ target, (⟨t.1, .becomes target⟩ : Rule) ∈ rules ∧ t.1.isPlaceable = true ∧
        rules.protects t.1 = false ∧ t.2 = t.1.resolve target := by
  obtain ⟨source, result⟩ := t
  simp only [RuleSet.effective, List.mem_map, List.mem_filter, Bool.and_eq_true,
    Bool.not_eq_true', Prod.mk.injEq, Prod.exists]
  constructor
  · rintro ⟨s, target, ⟨ht, hplace, hfree⟩, rfl, rfl⟩
    exact ⟨target, RuleSet.mem_transformations.1 ht, hplace, hfree, rfl⟩
  · rintro ⟨target, hr, hplace, hfree, rfl⟩
    exact ⟨source, target, ⟨RuleSet.mem_transformations.2 hr, hplace, hfree⟩, rfl, rfl⟩

theorem mem_changes {g : Grid} {rules : RuleSet} {c : Change} :
    c ∈ g.changes rules ↔
      (c.source, c.target) ∈ rules.effective ∧ c.pos ∈ g.positionsOf c.source ∧
        c.facing = (g.cell c.pos).facing c.source := by
  obtain ⟨pos, source, target, facing⟩ := c
  simp only [changes, List.mem_flatMap, List.mem_map, Prod.exists, Change.mk.injEq]
  constructor
  · rintro ⟨s, t, ht, p, hp, rfl, rfl, rfl, rfl⟩
    exact ⟨ht, hp, rfl⟩
  · rintro ⟨ht, hp, rfl⟩
    exact ⟨source, target, ht, pos, hp, rfl, rfl, rfl, rfl⟩

/-- Every change is one of an object of the board. -/
theorem source_mem_objects {g : Grid} {rules : RuleSet} {c : Change}
    (h : c ∈ g.changes rules) : (⟨c.pos, c.source⟩ : Object) ∈ g.objects := by
  obtain ⟨heffective, hpos, _⟩ := mem_changes.1 h
  obtain ⟨_, _, hplace, _⟩ := mem_effective.1 heffective
  have hhas := (List.mem_filter.1 hpos).2
  exact mem_objects.2 ((Cell.has_iff_mem_kinds hplace).1 hhas)

/-- Every change is told of. -/
theorem transformed_mem_transform {g : Grid} {rules : RuleSet} {c : Change}
    (h : c ∈ g.changes rules) :
    Event.transformed c.pos c.source c.target ∈ (g.transform rules).2 :=
  List.mem_map.2 ⟨c, h, rfl⟩

/-- **What lies on a cell after the transformation**: what lay there and is no source of a change,
and the targets of the changes there. -/
theorem mem_kinds_transform {g : Grid} {rules : RuleSet} {p : Position} {k : Kind} :
    k ∈ ((g.transform rules).1.cell p).kinds ↔
      (k ∈ (g.cell p).kinds ∧ ∀ c ∈ g.changes rules, ¬(c.pos = p ∧ c.source = k)) ∨
        ∃ c ∈ g.changes rules, c.pos = p ∧ c.target = k ∧ g.contains p = true ∧
          k.isPlaceable = true := by
  refine (mem_kinds_putAll _ Change.pos Change.target Change.facing).trans ?_
  rw [mem_kinds_takeAll, contains_takeAll]
  refine or_congr (and_congr_right fun _ => ?_) Iff.rfl
  simp only [List.mem_map, Object.mk.injEq, not_exists, not_and]

/-- Under rules read off a board, the only change into a word is that of an object into the word
for its own kind. -/
theorem word_of_mem_changes {g h : Grid} {c : Change} (hc : c ∈ g.changes h.rules)
    (htext : c.target.isText = true) :
    ∃ n, n ≠ .text ∧ c.source = .icon n ∧ c.target = .word n := by
  obtain ⟨target, hr, hplace, _, hresult⟩ := mem_effective.1 (mem_changes.1 hc).1
  obtain ⟨n, hn, ⟨q, hq⟩ | ⟨m, hm⟩⟩ := mem_rules_shape hr
  · cases hq
  · dsimp only at hn hplace hresult
    cases hm
    rw [hn] at hresult hplace
    refine ⟨n, ?_, hn, ?_⟩
    · rintro rfl
      cases hplace
    · -- any other target than `text` is taken as it is, and is no word
      rw [hresult] at htext ⊢
      cases m <;> first | rfl | cases htext

/-! ### Effects -/

/-- Destruction leaves nothing on a cell that was not there. -/
theorem mem_kinds_of_destroy {g : Grid} (cause : Property) (doomed : List Object) {p : Position}
    {k : Kind} (h : k ∈ ((g.destroy cause doomed).1.cell p).kinds) : k ∈ (g.cell p).kinds :=
  (mem_kinds_takeAll.1 h).1

/-- After the effects a cell holds only what it held after the transformation. -/
theorem mem_kinds_afterEffects {g : Grid} {rules : RuleSet} {p : Position} {k : Kind}
    (h : k ∈ ((g.afterEffects rules).1.cell p).kinds) :
    k ∈ ((g.transform rules).1.cell p).kinds := by
  have sunk := mem_kinds_of_destroy .hot _ h
  have defeated := mem_kinds_of_destroy .sink _ sunk
  exact mem_kinds_of_destroy .defeat _ defeated

/-- The changes of a board are reported among the effects. -/
theorem transformed_mem_afterEffects {g : Grid} {rules : RuleSet} {c : Change}
    (h : c ∈ g.changes rules) :
    Event.transformed c.pos c.source c.target ∈ (g.afterEffects rules).2.1 := by
  have htold := transformed_mem_transform h
  simp only [afterEffects, List.append_assoc, List.mem_append]
  exact .inl htold

/-- **A word tile was there before the effects, or the report says what turned into it.** -/
theorem word_origin {g h : Grid} {p : Position} {k : Kind} (htext : k.isText = true)
    (hk : k ∈ ((g.afterEffects h.rules).1.cell p).kinds) :
    k ∈ (g.cell p).kinds ∨
      ∃ n, n ≠ .text ∧ k = .word n ∧
        Event.transformed p (.icon n) (.word n) ∈ (g.afterEffects h.rules).2.1 := by
  rcases mem_kinds_transform.1 (mem_kinds_afterEffects hk) with ⟨hk, _⟩ | ⟨c, hc, rfl, rfl, _⟩
  · exact .inl hk
  · obtain ⟨n, hn, hsource, htarget⟩ := word_of_mem_changes hc htext
    refine .inr ⟨n, hn, htarget, ?_⟩
    have := transformed_mem_afterEffects hc
    rwa [hsource, htarget] at this

/-- **A turn makes no word but naming words.** -/
theorem carries_of_resolve {g : Grid} {rules : RuleSet} {d : Direction} {gen : Generator}
    {k : Kind} (htext : k.isText = true) (hname : ∀ n, k ≠ .word n)
    (h : (g.resolve rules d gen).grid.Carries k) : g.Carries k := by
  obtain ⟨p, hp⟩ := h
  rw [grid_resolve] at hp
  rcases word_origin htext hp with hp | ⟨n, _, hn, _⟩
  · exact carries_of_afterMovement ⟨p, hp⟩
  · exact absurd hn (hname n)

end Grid

end RuleTiles
