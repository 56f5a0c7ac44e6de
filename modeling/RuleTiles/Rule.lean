/-
**Rules and what they grant.**

A rule says one thing about one kind: that it has a property, or that it turns into another kind.
The rules in force form a set.  A word tile answers to the rules about `text`, and can always be
pushed.

Main definitions:

* `RuleTiles.Predicate`, `RuleTiles.Rule`, `RuleTiles.RuleSet` — a rule and a set of rules;
* `RuleTiles.Rule.ofWords?` — the rule spelled by three words;
* `RuleTiles.RuleSet.states` — a rule grants a property by name;
* `RuleTiles.RuleSet.grants` — an object of a kind behaves as having a property;
* `RuleTiles.RuleSet.mentions` — some object might behave as having a property;
* `RuleTiles.RuleSet.subjects`, `RuleTiles.RuleSet.transformations`,
  `RuleTiles.RuleSet.playerIcon?` — what a set of rules says as a whole.

Main results:

* `RuleTiles.Rule.ofWords?_eq_some_iff` — **which three words spell a rule**.
-/

import RuleTiles.Kind
import RuleTiles.Sorted.Set

set_option relaxedAutoImplicit false
set_option autoImplicit false

namespace RuleTiles

/-! ### Rules -/

/-- What a rule says of its subject. -/
inductive Predicate
  /-- The subject has a property. -/
  | property (p : Property)
  /-- The subject turns into another kind. -/
  | becomes (target : Kind)
  deriving DecidableEq, Repr

namespace Predicate

/-- The place of a predicate in the order: properties first, then targets. -/
def index : Predicate → Nat
  | property p => p.index
  | becomes k => 9 + k.index

theorem index_injective {a b : Predicate} (h : a.index = b.index) : a = b := by
  have small : ∀ p : Property, p.index < 9 := by intro p; cases p <;> decide
  have inj : ∀ p q : Property, p.index = q.index → p = q := by
    intro p q; cases p <;> cases q <;> simp [Property.index]
  cases a with
  | property p =>
    cases b with
    | property q => rw [inj p q h]
    | becomes k => have := small p; simp only [index] at h; omega
  | becomes k =>
    cases b with
    | property q => have := small q; simp only [index] at h; omega
    | becomes l =>
      have hkl : k = l := Kind.index_injective (by simpa [index] using h)
      rw [hkl]

instance : Ord Predicate := ⟨compareOn index⟩

instance : Std.TransOrd Predicate := inferInstanceAs (Std.TransCmp (compareOn index))

instance : Std.LawfulEqOrd Predicate where
  eq_of_compare h := index_injective (Std.LawfulEqOrd.eq_of_compare (α := Nat) h)

/-- The words of a predicate in capitals. -/
def text : Predicate → String
  | property p => p.text
  | becomes k => k.text

end Predicate

/-- A sentence about one kind. -/
@[ext] structure Rule where
  subject : Kind
  predicate : Predicate
  deriving DecidableEq, Repr

namespace Rule

/-- Rules are ordered by subject, then by predicate. -/
instance : Ord Rule := ⟨compareLex (compareOn Rule.subject) (compareOn Rule.predicate)⟩

instance : Std.TransOrd Rule :=
  inferInstanceAs (Std.TransCmp (compareLex (compareOn Rule.subject) (compareOn Rule.predicate)))

instance : Std.LawfulEqOrd Rule where
  eq_of_compare h := by
    obtain ⟨h₁, h₂⟩ := compareLex_eq_eq.1 h
    exact Rule.ext (Std.LawfulEqOrd.eq_of_compare (α := Kind) h₁)
      (Std.LawfulEqOrd.eq_of_compare (α := Predicate) h₂)

/-- The text of a rule. -/
def text (r : Rule) : String := r.subject.text ++ " IS " ++ r.predicate.text

/-- The rule spelled by three words: a noun, the linking word, and a property or a noun. -/
def ofWords? (subject link object : Kind) : Option Rule :=
  match subject, link, object with
  | .word n, .is, .property p => some ⟨.icon n, .property p⟩
  | .word n, .is, .word m => some ⟨.icon n, .becomes (.icon m)⟩
  | _, _, _ => none

/-- **Which three words spell a rule.** -/
theorem ofWords?_eq_some_iff {subject link object : Kind} {r : Rule} :
    ofWords? subject link object = some r ↔
      ∃ n, subject = .word n ∧ link = .is ∧ r.subject = .icon n ∧
        ((∃ p, object = .property p ∧ r.predicate = .property p) ∨
          ∃ m, object = .word m ∧ r.predicate = .becomes (.icon m)) := by
  constructor
  · intro h
    unfold ofWords? at h
    split at h
    · rename_i n p
      cases h
      exact ⟨n, rfl, rfl, rfl, .inl ⟨p, rfl, rfl⟩⟩
    · rename_i n m
      cases h
      exact ⟨n, rfl, rfl, rfl, .inr ⟨m, rfl, rfl⟩⟩
    · cases h
  · rintro ⟨n, rfl, rfl, hs, ⟨p, rfl, hp⟩ | ⟨m, rfl, hm⟩⟩
    · exact congrArg some (Rule.ext hs.symm hp.symm)
    · exact congrArg some (Rule.ext hs.symm hm.symm)

end Rule

/-! ### Sets of rules -/

/-- The rules in force at one time. -/
abbrev RuleSet := SortedSet Rule

namespace RuleSet

/-- Whether a rule grants a property to a kind by name. -/
def states (rules : RuleSet) (k : Kind) (p : Property) : Bool :=
  decide (⟨k, .property p⟩ ∈ rules)

/-- Whether an object of a kind behaves as having a property.  A word tile answers to the rules
about `text`, and can always be pushed. -/
def grants (rules : RuleSet) (k : Kind) (p : Property) : Bool :=
  if k.isText then p = .push || rules.states (.icon .text) p else rules.states k p

/-- The kinds that a rule grants a property to, in catalog order. -/
def subjects (rules : RuleSet) (p : Property) : List Kind :=
  (rules.toList.filter fun r => r.predicate = .property p).map Rule.subject

/-- The kinds that turn into another, each with what it turns into. -/
def transformations (rules : RuleSet) : List (Kind × Kind) :=
  rules.toList.filterMap fun r =>
    match r.predicate with
    | .becomes target => some (r.subject, target)
    | .property _ => none

/-- The kind the player moves: the first in catalog order that is YOU, `empty` left aside. -/
def playerIcon? (rules : RuleSet) : Option Kind :=
  (rules.subjects .you).find? fun k => k ≠ .icon .empty

/-- The texts of the rules in their order. -/
def texts (rules : RuleSet) : List String := rules.toList.map Rule.text

theorem states_eq_true {rules : RuleSet} {k : Kind} {p : Property} :
    rules.states k p = true ↔ (⟨k, .property p⟩ : Rule) ∈ rules := by
  simp [states]

/-- A word tile can be pushed under any rules. -/
theorem grants_push_of_isText {rules : RuleSet} {k : Kind} (h : k.isText = true) :
    rules.grants k .push = true := by
  simp [grants, h]

/-- Whether any kind at all may have a property: a rule grants it, or word tiles have it by
themselves. -/
def mentions (rules : RuleSet) (p : Property) : Bool :=
  p = .push || rules.toList.any fun r => r.predicate = .property p

/-- Nothing has a property that is not mentioned. -/
theorem grants_of_not_mentions {rules : RuleSet} {p : Property} (h : rules.mentions p = false)
    (k : Kind) : rules.grants k p = false := by
  simp only [mentions, Bool.or_eq_false_iff, decide_eq_false_iff_not, List.any_eq_false,
    decide_eq_true_eq] at h
  have none_states : ∀ k, rules.states k p = false := by
    intro k
    have hk : (⟨k, .property p⟩ : Rule) ∉ rules := fun hr => h.2 _ hr rfl
    simp [states, hk]
  unfold grants
  split
  · simp [h.1, none_states]
  · exact none_states k

theorem mem_subjects {rules : RuleSet} {p : Property} {k : Kind} :
    k ∈ rules.subjects p ↔ (⟨k, .property p⟩ : Rule) ∈ rules := by
  simp only [subjects, List.mem_map, List.mem_filter, decide_eq_true_eq, SortedSet.mem_def]
  constructor
  · rintro ⟨r, ⟨hr, hp⟩, rfl⟩
    rwa [← hp]
  · intro h
    exact ⟨_, ⟨h, rfl⟩, rfl⟩

theorem mem_transformations {rules : RuleSet} {source target : Kind} :
    (source, target) ∈ rules.transformations ↔ (⟨source, .becomes target⟩ : Rule) ∈ rules := by
  simp only [transformations, List.mem_filterMap, SortedSet.mem_def]
  constructor
  · rintro ⟨⟨k, q⟩, hr, h⟩
    cases q with
    | property p => cases h
    | becomes t => cases h; exact hr
  · intro h
    exact ⟨_, h, rfl⟩

end RuleSet

end RuleTiles
