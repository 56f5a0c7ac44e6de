/-
**What is written as JSON is read back.**

A value is written with line breaks and gaps that depend on the layout.  All of them are white
space, which is passed over in front of a value, a mark or a name.  So the reader recovers from a
written value the draft that says the same, whatever follows the value, as long as a number at its
end cannot go on into what follows.

Main definitions:

* `RuleTiles.Json.Blank`, `RuleTiles.Json.Layout.IsBlank` — a stretch of white space, and a layout
  that breaks lines and leaves gaps by white space only;
* `RuleTiles.Json.Delimited` — a text that can follow a value.

Main results:

* `RuleTiles.Json.readUnits_flatMap_escape`, `RuleTiles.Json.readScalar?_numeral` — texts and
  numbers are read back;
* `RuleTiles.Json.readValue_write` — **a value is read back, whatever follows it**;
* `RuleTiles.Json.read_write` — a written text is read back as a whole, in any such layout.
-/

import RuleTiles.Json.Draft

set_option relaxedAutoImplicit false
set_option autoImplicit false

namespace RuleTiles.Json

/-! ### White space -/

theorem isGap_eq_true {c : Char} :
    isGap c = true ↔ c = ' ' ∨ c = '\n' ∨ c = '\t' ∨ c = '\r' := by
  simp [isGap, or_assoc]

/-- A stretch of white space. -/
def Blank (s : List Char) : Prop := ∀ c ∈ s, isGap c = true

theorem skip_append {b : List Char} (hb : Blank b) (s : List Char) : skip (b ++ s) = skip s :=
  List.dropWhile_append_of_pos hb

theorem skip_cons {c : Char} (hc : isGap c = false) (s : List Char) : skip (c :: s) = c :: s := by
  simp [skip, hc]

/-! ### Texts -/

theorem hexDigit?_digitChar {n : Nat} (hn : n < 16) : hexDigit? (Nat.digitChar n) = some n := by
  have key : ∀ n < 16, hexDigit? (Nat.digitChar n) = some n := by decide
  exact key n hn

/-- A letter for a character is read as the character, and announces no digits. -/
theorem unescape?_of_letter? {c e : Char} (h : letter? c = some e) :
    e ≠ 'u' ∧ unescape? e = some c := by
  unfold letter? at h
  split at h <;> cases h <;> decide

/-- Quotes and backslashes have letters. -/
theorem ne_of_letter?_eq_none {c : Char} (h : letter? c = none) : c ≠ '"' ∧ c ≠ '\\' := by
  constructor
  · rintro rfl
    cases h
  · rintro rfl
    cases h

/-- An escaped character is read as itself. -/
theorem readUnits_escape (c : Char) (s : List Char) :
    readUnits .plain (escape c ++ s) =
      (readUnits .plain s).map fun r => (c.toNat :: r.1, r.2) := by
  unfold escape
  cases hletter : letter? c with
  | some e =>
      obtain ⟨hdigits, hread⟩ := unescape?_of_letter? hletter
      simp [readUnits, hdigits, hread]
  | none =>
      obtain ⟨hquote, hslash⟩ := ne_of_letter?_eq_none hletter
      by_cases hcontrol : c.toNat < 0x20
      · have hhigh := hexDigit?_digitChar (show c.toNat / 16 < 16 by omega)
        have hlow := hexDigit?_digitChar (show c.toNat % 16 < 16 by omega)
        have hzero : hexDigit? '0' = some 0 := by decide
        have hsum : 16 * (c.toNat / 16) + c.toNat % 16 = c.toNat := by omega
        simp [readUnits, hcontrol, hzero, hhigh, hlow, hsum]
      · simp [readUnits, hquote, hslash, hcontrol]

/-- A text is read up to its closing quote. -/
theorem readUnits_flatMap_escape (cs rest : List Char) :
    readUnits .plain (cs.flatMap escape ++ '"' :: rest) = some (cs.map Char.toNat, rest) := by
  induction cs with
  | nil => simp [readUnits]
  | cons c cs ih =>
      rw [List.flatMap_cons, List.append_assoc, readUnits_escape, ih]
      rfl

/-- A character is no half of a pair of surrogates. -/
theorem not_surrogate (c : Char) : isLeading c.toNat = false ∧ isTrailing c.toNat = false := by
  have hvalid : c.toNat < 0xD800 ∨ (0xDFFF < c.toNat ∧ c.toNat < 0x110000) := c.valid
  constructor
  · simp only [isLeading, Bool.and_eq_false_iff, decide_eq_false_iff_not]
    omega
  · simp only [isTrailing, Bool.and_eq_false_iff, decide_eq_false_iff_not]
    omega

theorem joinUnits_map_toNat (cs : List Char) : joinUnits (cs.map Char.toNat) = some cs := by
  induction cs with
  | nil => rfl
  | cons c cs ih =>
      obtain ⟨hleading, htrailing⟩ := not_surrogate c
      cases cs with
      | nil => simp [joinUnits, hleading, htrailing]
      | cons d cs =>
          rw [List.map_cons] at ih
          simp [joinUnits, hleading, htrailing, ih]

theorem textOfUnits?_toNat (s : String) : textOfUnits? (s.toList.map Char.toNat) = some s := by
  rw [textOfUnits?, joinUnits_map_toNat, Option.map_some, String.ofList_toList]

/-! ### Numbers -/

/-- What may follow a value inside a text: nothing, white space, or a mark that ends a value. -/
def Delimited (s : List Char) : Prop :=
  ∀ c ∈ s.head?, isGap c = true ∨ c = ',' ∨ c = ']' ∨ c = '}'

theorem delimited_nil : Delimited [] := by simp [Delimited]

theorem delimited_cons {c : Char} (hc : c = ',' ∨ c = ']' ∨ c = '}') (s : List Char) :
    Delimited (c :: s) := by
  intro x hx
  cases hx
  exact .inr hc

theorem delimited_append {b s : List Char} (hb : Blank b) (hs : Delimited s) :
    Delimited (b ++ s) := by
  cases b with
  | nil => exact hs
  | cons c b =>
      intro x hx
      cases hx
      exact .inl (hb c (List.mem_cons_self ..))

/-- No number goes on with a character that may follow a value. -/
theorem Delimited.not_number {c : Char} {s : List Char} (h : Delimited (c :: s)) :
    c.isDigit = false ∧ c ≠ '.' ∧ c ≠ 'e' ∧ c ≠ 'E' := by
  have hc := h c rfl
  rw [isGap_eq_true] at hc
  rcases hc with (rfl | rfl | rfl | rfl) | rfl | rfl | rfl <;> decide

/-- A natural number is written beginning with a digit. -/
theorem exists_toDigits_eq_cons (n : Nat) :
    ∃ c s, Nat.toDigits 10 n = c :: s ∧ c.isDigit = true := by
  cases h : Nat.toDigits 10 n with
  | nil => exact absurd h Nat.toDigits_ne_nil
  | cons c s =>
      refine ⟨c, s, rfl, Nat.isDigit_of_mem_toDigits (b := 10) (n := n) (by decide) (by decide) ?_⟩
      rw [h]
      exact List.mem_cons_self ..

/-- The leading digit of a number is not zero, unless it is the number zero. -/
theorem eq_zero_of_head?_toDigits (n : Nat) (h : (Nat.toDigits 10 n).head? = some '0') : n = 0 := by
  induction n using Nat.strongRecOn with
  | ind n ih =>
      by_cases hn : n < 10
      · rw [Nat.toDigits_of_lt_base hn] at h
        simpa using h
      · have hhead := List.head?_eq_some_head (Nat.toDigits_ne_nil (n := n / 10) (b := 10))
        rw [Nat.toDigits_of_base_le (by decide) (by omega), List.head?_append, hhead,
          Option.some_or, ← hhead] at h
        have := ih (n / 10) (by omega) h
        omega

/-- No digit, fraction or exponent stands in front of what may follow a value. -/
theorem Delimited.stops {s : List Char} (h : Delimited s) :
    s.takeWhile Char.isDigit = [] ∧ s.dropWhile Char.isDigit = s ∧
      afterFraction? s = some (s, false) ∧ afterExponent? s = some (s, false) := by
  cases s with
  | nil => exact ⟨rfl, rfl, rfl, rfl⟩
  | cons c s =>
      obtain ⟨hdigit, hpoint, he, hE⟩ := h.not_number
      refine ⟨by simp [hdigit], by simp [hdigit], ?_, ?_⟩
      · unfold afterFraction?
        split
        · rename_i heq
          cases heq
          exact absurd rfl hpoint
        · rfl
      · unfold afterExponent?
        dsimp only
        split
        · rename_i heq
          cases heq
          exact absurd rfl he
        · rename_i heq
          cases heq
          exact absurd rfl hE
        · rfl

/-- A natural number is read back, with its sign. -/
theorem readUnsigned?_toDigits {negative : Bool} {n : Nat} {rest : List Char}
    (hn : negative = true → n ≠ 0) (hrest : Delimited rest) :
    readUnsigned? negative (Nat.toDigits 10 n ++ rest) =
      some (.number (if negative then -(n : Int) else n), rest) := by
  obtain ⟨htake, hdrop, hfraction, hexponent⟩ := hrest.stops
  have hdigits : ∀ c ∈ Nat.toDigits 10 n, c.isDigit = true := fun c hc =>
    Nat.isDigit_of_mem_toDigits (by decide) (by decide) hc
  have hspan : (Nat.toDigits 10 n ++ rest).takeWhile Char.isDigit = Nat.toDigits 10 n := by
    rw [List.takeWhile_append_of_pos hdigits, htake, List.append_nil]
  have hafter : afterDigits? (Nat.toDigits 10 n ++ rest) = some rest := by
    simp [afterDigits?, hspan, List.dropWhile_append_of_pos hdigits, hdrop]
  have hleading : ¬((Nat.toDigits 10 n).head? = some '0' ∧ (Nat.toDigits 10 n).length ≠ 1) := by
    rintro ⟨hhead, hlength⟩
    rw [eq_zero_of_head?_toDigits n hhead] at hlength
    exact hlength rfl
  have hminus : (negative && decide (n = 0)) = false := by
    cases negative with
    | false => rfl
    | true => simp [hn rfl]
  simp only [readUnsigned?, hspan, hafter, hfraction, hexponent, Nat.ofDigitChars_ten_toDigits,
    hleading, hminus, bind, Option.bind]
  simp

/-! ### Layouts -/

/-- Breaks and gaps of a layout are white space. -/
structure Layout.IsBlank (l : Layout) : Prop where
  lineBreak : ∀ depth, Blank (l.lineBreak depth)
  gap : Blank l.gap

theorem isBlank_oneLine : Layout.oneLine.IsBlank where
  lineBreak _ := by simp [Layout.oneLine, Blank]
  gap := by simp [Layout.oneLine, Blank]

theorem isBlank_indented : Layout.indented.IsBlank where
  lineBreak depth := by
    intro c hc
    rcases List.mem_cons.1 hc with rfl | hc
    · decide
    · rw [(List.mem_replicate.1 hc).2]
      decide
  gap := by
    intro c hc
    rw [List.mem_singleton.1 hc]
    decide

/-- White space before a value is passed over. -/
theorem readValue_append {b : List Char} (hb : Blank b) (fuel : Nat) (s : List Char) :
    readValue fuel (b ++ s) = readValue fuel s := by
  cases fuel with
  | zero => rfl
  | succ fuel => simp only [readValue, skip_append hb]

/-- A digit is no white space and ends neither a list nor an object. -/
theorem isGap_of_isDigit {c : Char} (hc : c.isDigit = true) :
    isGap c = false ∧ c ≠ ']' ∧ c ≠ '}' := by
  refine ⟨?_, ?_, ?_⟩
  · rw [Bool.eq_false_iff, ne_eq, isGap_eq_true]
    rintro (rfl | rfl | rfl | rfl) <;> cases hc
  · rintro rfl
    cases hc
  · rintro rfl
    cases hc

/-- A value is written beginning with a character of its own: no white space, and no mark that ends
a list or an object. -/
theorem exists_write_eq_cons (l : Layout) (depth : Nat) (j : Json) :
    ∃ c s, j.write l depth = c :: s ∧ isGap c = false ∧ c ≠ ']' ∧ c ≠ '}' := by
  cases j with
  | null => exact ⟨_, _, rfl, by decide⟩
  | number n =>
      cases n with
      | negSucc n => exact ⟨_, _, rfl, by decide⟩
      | ofNat n =>
          obtain ⟨c, s, hdigits, hc⟩ := exists_toDigits_eq_cons n
          exact ⟨c, s, hdigits, isGap_of_isDigit hc⟩
  | string s => exact ⟨_, _, rfl, by decide⟩
  | array items => cases items <;> exact ⟨_, _, rfl, by decide⟩
  | object fields => cases fields <;> exact ⟨_, _, rfl, by decide⟩

/-! ### Leaves -/

/-- What begins with a bracket or a quote is no number and no word. -/
theorem readScalar?_eq_none {c : Char} (hc : c = '"' ∨ c = '[' ∨ c = '{') (s : List Char) :
    readScalar? (c :: s) = none := by
  rcases hc with rfl | rfl | rfl <;> rfl

/-- A number or a word is a value. -/
theorem readValue_of_readScalar? {s rest : List Char} {x : Draft} (fuel : Nat) (hskip : skip s = s)
    (h : readScalar? s = some (x, rest)) : readValue (fuel + 1) s = (x, some rest) := by
  unfold readValue
  rw [hskip]
  split
  · rw [readScalar?_eq_none (.inl rfl)] at h
    cases h
  · rw [readScalar?_eq_none (.inr (.inl rfl))] at h
    cases h
  · rw [readScalar?_eq_none (.inr (.inr rfl))] at h
    cases h
  · rw [h]

/-- A number is read as an unsigned one when it begins with a digit. -/
theorem readScalar?_of_isDigit {c : Char} (hc : c.isDigit = true) (s : List Char) :
    readScalar? (c :: s) = readUnsigned? false (c :: s) := by
  unfold readScalar?
  split
  · rename_i h
    cases h
    cases hc
  · rename_i h
    cases h
    cases hc
  · rename_i h
    cases h
    cases hc
  · rename_i h
    cases h
    cases hc
  · rfl

theorem readScalar?_numeral (n : Int) {rest : List Char} (hrest : Delimited rest) :
    readScalar? (numeral n ++ rest) = some (.number n, rest) := by
  cases n with
  | negSucc n => exact readUnsigned?_toDigits (by simp) hrest
  | ofNat n =>
      have hread := readUnsigned?_toDigits (n := n) (show false = true → n ≠ 0 by simp) hrest
      obtain ⟨c, s, hdigits, hc⟩ := exists_toDigits_eq_cons n
      rw [hdigits] at hread
      rw [numeral, hdigits]
      exact (readScalar?_of_isDigit hc _).trans hread

/-- A text is read back. -/
theorem readValue_literal (fuel : Nat) (s : String) (rest : List Char) :
    readValue (fuel + 1) (literal s ++ rest) = (.string s, some rest) := by
  have hskip : skip ('"' :: (s.toList.flatMap escape ++ '"' :: rest)) =
      '"' :: (s.toList.flatMap escape ++ '"' :: rest) := skip_cons rfl _
  simp only [literal, List.cons_append, List.append_assoc, List.nil_append, readValue, hskip,
    readUnits_flatMap_escape, textOfUnits?_toNat]

theorem skip_write (l : Layout) (depth : Nat) (j : Json) (s : List Char) :
    skip (j.write l depth ++ s) = j.write l depth ++ s := by
  obtain ⟨c, t, hwrite, hgap, _⟩ := exists_write_eq_cons l depth j
  rw [hwrite, List.cons_append, skip_cons hgap]

/-! ### One step of reading -/

section

variable {fuel : Nat} {s t u rest : List Char} {x : Draft} {after : Option (List Char)}

theorem readValue_array {items : List Draft} (hs : ∀ v, skip s ≠ ']' :: v)
    (hitems : readItems fuel (skip s) = (items, after)) :
    readValue (fuel + 1) ('[' :: s) = (.array items, after) := by
  have hskip : skip ('[' :: s) = '[' :: s := skip_cons rfl s
  simp only [readValue, hskip, hitems]

theorem readValue_object {fields : List (Option String × Draft)} (hs : ∀ v, skip s ≠ '}' :: v)
    (hfields : readFields fuel (skip s) = (fields, after)) :
    readValue (fuel + 1) ('{' :: s) = (.object fields, after) := by
  have hskip : skip ('{' :: s) = '{' :: s := skip_cons rfl s
  simp only [readValue, hskip, hfields]

/-- The last item of a list. -/
theorem readItems_last (hx : readValue fuel s = (x, some t)) (ht : skip t = ']' :: rest) :
    readItems (fuel + 1) s = ([x], some rest) := by
  simp only [readItems, hx, ht]

/-- An item that another one follows. -/
theorem readItems_more {items : List Draft} (hx : readValue fuel s = (x, some t))
    (ht : skip t = ',' :: u) (hu : readItems fuel u = (items, after)) :
    readItems (fuel + 1) s = (x :: items, after) := by
  simp only [readItems, hx, ht, hu]

/-- The last field of an object. -/
theorem readFields_last {k : String} (hs : skip s = literal k ++ ':' :: t)
    (hx : readValue fuel t = (x, some u)) (hu : skip u = '}' :: rest) :
    readFields (fuel + 1) s = ([(some k, x)], some rest) := by
  have hcolon : skip (':' :: t) = ':' :: t := skip_cons rfl t
  simp only [literal, List.cons_append, List.append_assoc, List.nil_append] at hs
  simp only [readFields, hs, readUnits_flatMap_escape, hcolon, hx, hu, textOfUnits?_toNat]

/-- A field that another one follows. -/
theorem readFields_more {k : String} {v : List Char} {fields : List (Option String × Draft)}
    (hs : skip s = literal k ++ ':' :: t) (hx : readValue fuel t = (x, some u))
    (hu : skip u = ',' :: v) (hv : readFields fuel v = (fields, after)) :
    readFields (fuel + 1) s = ((some k, x) :: fields, after) := by
  have hcolon : skip (':' :: t) = ':' :: t := skip_cons rfl t
  simp only [literal, List.cons_append, List.append_assoc, List.nil_append] at hs
  simp only [readFields, hs, readUnits_flatMap_escape, hcolon, hx, hu, hv, textOfUnits?_toNat]

end

/-- White space before the first item is passed over. -/
theorem readItems_append {b : List Char} (hb : Blank b) (fuel : Nat) (s : List Char) :
    readItems fuel (b ++ s) = readItems fuel s := by
  cases fuel with
  | zero => rfl
  | succ fuel => simp only [readItems, readValue_append hb]

/-- White space before the first field is passed over. -/
theorem readFields_append {b : List Char} (hb : Blank b) (fuel : Nat) (s : List Char) :
    readFields fuel (b ++ s) = readFields fuel s := by
  cases fuel with
  | zero => rfl
  | succ fuel => simp only [readFields, skip_append hb]

theorem skip_literal (k : String) (s : List Char) : skip (literal k ++ s) = literal k ++ s :=
  skip_cons rfl _

/-! ### Whole values -/

section

variable {l : Layout}

mutual

/-- **A value is read back**, whatever may follow it.  Twice the length of its text is fuel enough,
as every nested value and every item takes up a character of its own. -/
theorem readValue_write (hl : l.IsBlank) : ∀ (j : Json) (depth fuel : Nat) (rest : List Char),
    2 * (j.write l depth).length ≤ fuel → Delimited rest →
      readValue fuel (j.write l depth ++ rest) = (j.draft, some rest)
  | j, depth, 0, rest, hfuel, _ => by
      obtain ⟨c, t, hwrite, _⟩ := exists_write_eq_cons l depth j
      rw [hwrite, List.length_cons] at hfuel
      omega
  | .null, depth, fuel + 1, rest, _, _ =>
      readValue_of_readScalar? fuel (skip_write l depth null rest) rfl
  | .number n, depth, fuel + 1, rest, _, hrest =>
      readValue_of_readScalar? fuel (skip_write l depth (number n) rest)
        (readScalar?_numeral n hrest)
  | .string s, _, fuel + 1, rest, _, _ => readValue_literal fuel s rest
  | .array [], depth, fuel + 1, rest, _, _ => by
      rw [readValue, skip_write]
      rfl
  | .array (x :: items), depth, fuel + 1, rest, hfuel, _ => by
      simp only [write, List.length_cons, List.length_append] at hfuel
      have hitems := readItems_write hl x items (depth + 1) fuel (hl.lineBreak depth) rest
        (by omega)
      simp only [write, List.cons_append, List.append_assoc, List.nil_append]
      refine readValue_array ?_ ?_
      · intro v hv
        obtain ⟨c, t, hwrite, _, hbracket, _⟩ := exists_write_eq_cons l (depth + 1) x
        rw [skip_append (hl.lineBreak (depth + 1)), skip_write, hwrite] at hv
        exact hbracket (List.cons.inj hv).1
      · rw [skip_append (hl.lineBreak (depth + 1)), skip_write, hitems]
  | .object [], depth, fuel + 1, rest, _, _ => by
      rw [readValue, skip_write]
      rfl
  | .object ((k, x) :: fields), depth, fuel + 1, rest, hfuel, _ => by
      simp only [write, List.length_cons, List.length_append] at hfuel
      have hfields := readFields_write hl k x fields (depth + 1) fuel (hl.lineBreak depth) rest
        (by omega)
      simp only [write, List.cons_append, List.append_assoc, List.nil_append]
      refine readValue_object ?_ ?_
      · intro v hv
        rw [skip_append (hl.lineBreak (depth + 1)), skip_literal] at hv
        cases hv
      · rw [skip_append (hl.lineBreak (depth + 1)), skip_literal, hfields]

/-- The items of a list are read back up to its closing bracket. -/
theorem readItems_write (hl : l.IsBlank) : ∀ (x : Json) (items : List Json) (depth fuel : Nat)
    {close : List Char} (_ : Blank close) (rest : List Char),
    2 * ((x.write l depth).length + (writeItems l depth items).length) + 1 ≤ fuel →
      readItems fuel (x.write l depth ++ (writeItems l depth items ++ (close ++ ']' :: rest))) =
        (drafts (x :: items), some rest)
  | x, items, depth, 0, _, _, rest, hfuel => by omega
  | x, [], depth, fuel + 1, close, hclose, rest, hfuel => by
      have hend : Delimited (close ++ ']' :: rest) :=
        delimited_append hclose (delimited_cons (.inr (.inl rfl)) rest)
      refine readItems_last (readValue_write hl x depth fuel _ (by omega) hend) ?_
      exact (skip_append hclose _).trans (skip_cons rfl _)
  | x, y :: items, depth, fuel + 1, close, hclose, rest, hfuel => by
      simp only [writeItems, List.length_cons, List.length_append] at hfuel
      have hrest := readItems_write hl y items depth fuel hclose rest (by omega)
      simp only [writeItems, List.cons_append, List.append_assoc]
      refine readItems_more (readValue_write hl x depth fuel _ (by omega)
        (delimited_cons (.inl rfl) _)) (skip_cons rfl _) ?_
      rw [readItems_append (hl.lineBreak depth), hrest]

/-- The fields of an object are read back up to its closing bracket. -/
theorem readFields_write (hl : l.IsBlank) : ∀ (k : String) (x : Json)
    (fields : List (String × Json)) (depth fuel : Nat) {close : List Char} (_ : Blank close)
    (rest : List Char),
    2 * ((x.write l depth).length + (writeFields l depth fields).length) + 1 ≤ fuel →
      readFields fuel (literal k ++ ':' :: (l.gap ++ (x.write l depth ++
        (writeFields l depth fields ++ (close ++ '}' :: rest))))) =
        (fieldDrafts ((k, x) :: fields), some rest)
  | k, x, fields, depth, 0, _, _, rest, hfuel => by omega
  | k, x, [], depth, fuel + 1, close, hclose, rest, hfuel => by
      have hend : Delimited (close ++ '}' :: rest) :=
        delimited_append hclose (delimited_cons (.inr (.inr rfl)) rest)
      refine readFields_last (skip_literal k _)
        ((readValue_append hl.gap fuel _).trans
          (readValue_write hl x depth fuel _ (by omega) hend)) ?_
      exact (skip_append hclose _).trans (skip_cons rfl _)
  | k, x, (k', y) :: fields, depth, fuel + 1, close, hclose, rest, hfuel => by
      simp only [writeFields, List.length_cons, List.length_append] at hfuel
      have hrest := readFields_write hl k' y fields depth fuel hclose rest (by omega)
      simp only [writeFields, List.cons_append, List.append_assoc]
      refine readFields_more (skip_literal k _)
        ((readValue_append hl.gap fuel _).trans
          (readValue_write hl x depth fuel _ (by omega) (delimited_cons (.inl rfl) _)))
        (skip_cons rfl _) ?_
      rw [readFields_append (hl.lineBreak depth), hrest]

end

/-- **A written text is read back as a whole.** -/
theorem read_write (hl : l.IsBlank) (j : Json) : read (j.write l 0) = (j.draft, true) := by
  have hread := readValue_write hl j 0 (2 * (j.write l 0).length + 1) [] (by omega) delimited_nil
  rw [List.append_nil] at hread
  simp only [read, hread]
  rfl

end

end RuleTiles.Json
