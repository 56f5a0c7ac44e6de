/-
**Reading records.**

A record is read from a draft part by part, in the order in which the parts stand in the text; the
first fault is the one that is reported.  A record with named fields may have further fields,
which are passed over, but no field twice.  It may also be written as the list of its fields'
values in their order.

Main definitions:

* `RuleTiles.Decoder` — a way to read a value from a draft;
* `RuleTiles.Record.natural`, `RuleTiles.Record.coord`, `RuleTiles.Record.tagged`,
  `RuleTiles.Record.optional`, `RuleTiles.Record.list` — leaves and lists;
* `RuleTiles.Record.fields`, `RuleTiles.Record.fill`, `RuleTiles.Record.need` — records with
  named fields;
* `RuleTiles.Record.single`, `RuleTiles.Record.pair`, `RuleTiles.Record.triple` — records of few
  fields;
* `RuleTiles.Record.decode` — **a whole text**.
-/

import RuleTiles.Error
import RuleTiles.Json.Draft

set_option relaxedAutoImplicit false
set_option autoImplicit false

namespace RuleTiles

/-- A way to read a value from a draft. -/
abbrev Decoder (α : Type) := Json.Draft → Except RecordFault α

namespace Record

open Json

/-! ### Leaves -/

/-- A natural number up to a bound. -/
def natural (bound : Nat) : Decoder Nat
  | .number n => if 0 ≤ n ∧ n ≤ bound then .ok n.toNat else .error .malformed
  | _ => .error .malformed

/-- The bound of a word of 64 bits. -/
def maxWord : Nat := 18446744073709551615

/-- A word of 64 bits. -/
def word64 : Decoder UInt64 := fun d => return .ofNat (← natural maxWord d)

/-- A coordinate. -/
def coord : Decoder Coord
  | .number n => (Coord.ofInt? n).elim (.error .malformed) .ok
  | _ => .error .malformed

/-- A value that is known by its name: the name itself, or an object with that name and
nothing. -/
def tagged {α : Type} (ofTag? : String → Option α) : Decoder α
  | .string tag => (ofTag? tag).elim (.error .malformed) .ok
  | .object [(some tag, .null)] => (ofTag? tag).elim (.error .malformed) .ok
  | _ => .error .malformed

/-- A value that may be missing. -/
def optional {α : Type} (value : Decoder α) : Decoder (Option α)
  | .null => .ok none
  | d => return some (← value d)

/-! ### Lists and fields -/

/-- A list, item by item. -/
def list {α : Type} (item : Decoder α) : Decoder (List α)
  | .array items => items.mapM item
  | _ => .error .malformed

/-- The one field of an object that stands for a case with its data. -/
def variant : Decoder (String × Draft)
  | .object [(some name, payload)] => .ok (name, payload)
  | _ => .error .malformed

/-- The values of a list under the names of fields; the list is broken after the last name. -/
def named : List String → List Draft → List (Option String × Draft)
  | _, [] => []
  | [], _ :: _ => [(none, .malformed)]
  | name :: names, x :: rest => (some name, x) :: named names rest

/-- The fields of a record with given names, in the order of the text. -/
def entries (names : List String) : Decoder (List (Option String × Draft))
  | .object fields => .ok fields
  | .array items => .ok (named names items)
  | _ => .error .malformed

/-- Takes in one field.  A field without a name of the record is passed over if it is JSON. -/
def takeField {σ : Type} (names : List String) (set : σ → String → Decoder σ) (s : σ)
    (field : Option String × Draft) : Except RecordFault σ :=
  match field with
  | (none, _) => .error .malformed
  | (some name, d) =>
    if name ∈ names then set s name d
    else if d.isComplete then .ok s
    else .error .malformed

/-- A record with named fields: what is known of it, from nothing, as field after field is taken
in. -/
def fields {σ : Type} (names : List String) (set : σ → String → Decoder σ) (blank : σ) :
    Decoder σ := fun d => do
  (← entries names d).foldlM (takeField names set) blank

/-- Fills a slot that must be free with the value of a field. -/
def fill {α : Type} (slot : Option α) (value : Decoder α) : Decoder (Option α) := fun d =>
  match slot with
  | some _ => .error .malformed
  | none => return some (← value d)

/-- The value of a slot that must have been filled. -/
def need {α : Type} (slot : Option α) : Except RecordFault α :=
  slot.elim (.error .malformed) .ok

/-! ### Small records -/

/-- What is known of two fields while they are read. -/
structure PairSlots (α β : Type) where
  first : Option α := none
  second : Option β := none

/-- Takes in one of two fields, of which the first is named `a`. -/
def PairSlots.set {α β : Type} (a : String) (first : Decoder α) (second : Decoder β)
    (s : PairSlots α β) (name : String) (d : Draft) : Except RecordFault (PairSlots α β) := do
  if name = a then return { s with first := ← fill s.first first d }
  else return { s with second := ← fill s.second second d }

/-- What is known of three fields while they are read. -/
structure TripleSlots (α β γ : Type) where
  first : Option α := none
  second : Option β := none
  third : Option γ := none

/-- Takes in one of three fields, of which the first two are named `a` and `b`. -/
def TripleSlots.set {α β γ : Type} (a b : String) (first : Decoder α) (second : Decoder β)
    (third : Decoder γ) (s : TripleSlots α β γ) (name : String) (d : Draft) :
    Except RecordFault (TripleSlots α β γ) := do
  if name = a then return { s with first := ← fill s.first first d }
  else if name = b then return { s with second := ← fill s.second second d }
  else return { s with third := ← fill s.third third d }

/-- A record of one field. -/
def single {α : Type} (a : String) (value : Decoder α) : Decoder α := fun d => do
  need (← fields [a] (fun slot _ d => fill slot value d) none d)

/-- A record of two fields. -/
def pair {α β : Type} (a b : String) (first : Decoder α) (second : Decoder β) :
    Decoder (α × β) := fun d => do
  let s ← fields [a, b] (PairSlots.set a first second) {} d
  return (← need s.first, ← need s.second)

/-- A record of two fields, of which the second may be missing or null. -/
def pairOptional {α β : Type} (a b : String) (first : Decoder α) (second : Decoder β) :
    Decoder (α × Option β) := fun d => do
  let s ← fields [a, b] (PairSlots.set a first (optional second)) {} d
  return (← need s.first, s.second.join)

/-- A record of three fields. -/
def triple {α β γ : Type} (a b c : String) (first : Decoder α) (second : Decoder β)
    (third : Decoder γ) : Decoder (α × β × γ) := fun d => do
  let s ← fields [a, b, c] (TripleSlots.set a b first second third) {} d
  return (← need s.first, ← need s.second, ← need s.third)

/-! ### Texts -/

/-- **A whole text.**  Nothing but white space may follow the value; its faults come first. -/
def decode {α : Type} (value : Decoder α) (text : String) : Except RecordFault α := do
  let (d, ends) := Json.read text.toList
  let x ← value d
  if ends then return x else .error .malformed

end Record

end RuleTiles
