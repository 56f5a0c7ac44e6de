/-
**Reading JSON.**

A text is read as far as it is JSON.  What has been read up to the first mistake is kept, with a
mark where the mistake is, so that whoever interprets the text learns of its faults in the order
in which they stand there.

Main definitions:

* `RuleTiles.Json.Draft` — what a text was read as;
* `RuleTiles.Json.Draft.isComplete` — it is JSON through and through;
* `RuleTiles.Json.readValue`, `RuleTiles.Json.read` — **reading a value, and a whole text**;
* `RuleTiles.Json.draft` — the draft that says the same as a value.
-/

import RuleTiles.Json

set_option relaxedAutoImplicit false
set_option autoImplicit false

namespace RuleTiles.Json

/-- What a text was read as. -/
inductive Draft
  | null
  | number (n : Int)
  | string (s : String)
  | array (items : List Draft)
  /-- Fields in the order of the text; a name is missing when its escapes are no characters. -/
  | object (fields : List (Option String × Draft))
  /-- JSON that no record holds: a truth value, a number that is not written as an integer, or a
  text whose escapes are no characters. -/
  | foreign
  /-- The place where the text stops being JSON; nothing is read after it. -/
  | malformed

namespace Draft

mutual

/-- Whether what was read is JSON through and through. -/
def isComplete : Draft → Bool
  | array items => areComplete items
  | object fields => fieldsAreComplete fields
  | malformed => false
  | _ => true

/-- Whether all of several values are JSON. -/
def areComplete : List Draft → Bool
  | [] => true
  | x :: rest => x.isComplete && areComplete rest

/-- Whether the values of all fields are JSON. -/
def fieldsAreComplete : List (Option String × Draft) → Bool
  | [] => true
  | (_, x) :: rest => x.isComplete && fieldsAreComplete rest

end

end Draft

/-! ### Gaps and literals -/

/-- The white space of JSON. -/
def isGap (c : Char) : Bool := c = ' ' || c = '\n' || c = '\t' || c = '\r'

/-- The text after its leading white space. -/
def skip (s : List Char) : List Char := s.dropWhile isGap

/-! ### Texts -/

/-- The value of a hexadecimal digit. -/
def hexDigit? (c : Char) : Option Nat :=
  if '0' ≤ c ∧ c ≤ '9' then some (c.toNat - '0'.toNat)
  else if 'a' ≤ c ∧ c ≤ 'f' then some (c.toNat - 'a'.toNat + 10)
  else if 'A' ≤ c ∧ c ≤ 'F' then some (c.toNat - 'A'.toNat + 10)
  else none

/-- The character that a letter after a backslash stands for. -/
def unescape? : Char → Option Char
  | '"' => some '"'
  | '\\' => some '\\'
  | '/' => some '/'
  | 'b' => some '\x08'
  | 'f' => some '\x0c'
  | 'n' => some '\n'
  | 'r' => some '\r'
  | 't' => some '\t'
  | _ => none

/-- How the next character of a text is to be taken. -/
inductive TextMode
  /-- As itself. -/
  | plain
  /-- As the letter after a backslash. -/
  | escape
  /-- As a hexadecimal digit, `left` of which follow it, after digits of the value `above`. -/
  | hex (left above : Nat)

/-- The code points of a text up to its closing quote, surrogates apart, and what follows the
quote. -/
def readUnits : TextMode → List Char → Option (List Nat × List Char)
  | _, [] => none
  | .plain, c :: rest =>
    if c = '"' then some ([], rest)
    else if c = '\\' then readUnits .escape rest
    else if c.toNat < 0x20 then none
    else (readUnits .plain rest).map fun r => (c.toNat :: r.1, r.2)
  | .escape, c :: rest =>
    if c = 'u' then readUnits (.hex 3 0) rest
    else match unescape? c with
      | none => none
      | some e => (readUnits .plain rest).map fun r => (e.toNat :: r.1, r.2)
  | .hex left above, c :: rest =>
    match hexDigit? c with
    | none => none
    | some d =>
      match left with
      | 0 => (readUnits .plain rest).map fun r => ((16 * above + d) :: r.1, r.2)
      | left + 1 => readUnits (.hex left (16 * above + d)) rest

/-- Whether a code point is the first half of a pair of surrogates. -/
def isLeading (n : Nat) : Bool := 0xD800 ≤ n && n ≤ 0xDBFF

/-- Whether a code point is the second half of a pair of surrogates. -/
def isTrailing (n : Nat) : Bool := 0xDC00 ≤ n && n ≤ 0xDFFF

/-- The characters of code points, each pair of surrogates taken as one; a surrogate alone is no
character. -/
def joinUnits : List Nat → Option (List Char)
  | [] => some []
  | [n] => if isLeading n || isTrailing n then none else some [.ofNat n]
  | n :: m :: rest =>
    if isLeading n then
      if isTrailing m then
        (joinUnits rest).map (.ofNat (0x10000 + (n - 0xD800) * 0x400 + (m - 0xDC00)) :: ·)
      else none
    else if isTrailing n then none
    else (joinUnits (m :: rest)).map (.ofNat n :: ·)

/-- The text made of code points, if they are characters. -/
def textOfUnits? (units : List Nat) : Option String := (joinUnits units).map .ofList

/-! ### Numbers -/

/-- What follows a run of at least one digit. -/
def afterDigits? (s : List Char) : Option (List Char) :=
  if (s.takeWhile Char.isDigit).isEmpty then none else some (s.dropWhile Char.isDigit)

/-- What follows a fraction, if there is one, and whether there is one. -/
def afterFraction? : List Char → Option (List Char × Bool)
  | '.' :: rest => (afterDigits? rest).map (·, true)
  | s => some (s, false)

/-- What follows an exponent, if there is one, and whether there is one. -/
def afterExponent? (s : List Char) : Option (List Char × Bool) :=
  let unsigned : List Char → List Char
    | '+' :: rest => rest
    | '-' :: rest => rest
    | rest => rest
  match s with
  | 'e' :: rest => (afterDigits? (unsigned rest)).map (·, true)
  | 'E' :: rest => (afterDigits? (unsigned rest)).map (·, true)
  | s => some (s, false)

/-- A number without its sign, and what follows it.  There is no leading zero before another
digit; minus zero, a fraction and an exponent make no integer. -/
def readUnsigned? (negative : Bool) (s : List Char) : Option (Draft × List Char) := do
  let digits := s.takeWhile Char.isDigit
  let rest ← afterDigits? s
  if digits.head? = some '0' ∧ digits.length ≠ 1 then none
  let (rest, fraction) ← afterFraction? rest
  let (rest, exponent) ← afterExponent? rest
  let n : Nat := Nat.ofDigitChars 10 digits 0
  if fraction || exponent || (negative && n = 0) then return (.foreign, rest)
  return (.number (if negative then -(n : Int) else n), rest)

/-- A number, or one of the three words of JSON, and what follows it. -/
def readScalar? : List Char → Option (Draft × List Char)
  | 'n' :: 'u' :: 'l' :: 'l' :: rest => some (.null, rest)
  | 't' :: 'r' :: 'u' :: 'e' :: rest => some (.foreign, rest)
  | 'f' :: 'a' :: 'l' :: 's' :: 'e' :: rest => some (.foreign, rest)
  | '-' :: rest => readUnsigned? true rest
  | s => readUnsigned? false s

/-! ### Values -/

mutual

/-- **A value**, and what follows it if it is JSON to its end.  Each nested value uses up one unit
of fuel. -/
def readValue : Nat → List Char → Draft × Option (List Char)
  | 0, _ => (.malformed, none)
  | fuel + 1, s =>
    match skip s with
    | '"' :: rest =>
      match readUnits .plain rest with
      | none => (.malformed, none)
      | some (units, rest) =>
        match textOfUnits? units with
        | none => (.foreign, some rest)
        | some text => (.string text, some rest)
    | '[' :: rest =>
      match skip rest with
      | ']' :: rest => (.array [], some rest)
      | rest =>
        let (items, rest) := readItems fuel rest
        (.array items, rest)
    | '{' :: rest =>
      match skip rest with
      | '}' :: rest => (.object [], some rest)
      | rest =>
        let (fields, rest) := readFields fuel rest
        (.object fields, rest)
    | s =>
      match readScalar? s with
      | none => (.malformed, none)
      | some (x, rest) => (x, some rest)

/-- The items of a list up to its closing bracket. -/
def readItems : Nat → List Char → List Draft × Option (List Char)
  | 0, _ => ([.malformed], none)
  | fuel + 1, s =>
    match readValue fuel s with
    | (x, none) => ([x], none)
    | (x, some rest) =>
      match skip rest with
      | ']' :: rest => ([x], some rest)
      | ',' :: rest =>
        let (items, rest) := readItems fuel rest
        (x :: items, rest)
      | _ => ([x, .malformed], none)

/-- The fields of an object up to its closing bracket. -/
def readFields : Nat → List Char → List (Option String × Draft) × Option (List Char)
  | 0, _ => ([(none, .malformed)], none)
  | fuel + 1, s =>
    match skip s with
    | '"' :: rest =>
      match readUnits .plain rest with
      | none => ([(none, .malformed)], none)
      | some (units, rest) =>
        match skip rest with
        | ':' :: rest =>
          match readValue fuel rest with
          | (x, none) => ([(textOfUnits? units, x)], none)
          | (x, some rest) =>
            match skip rest with
            | '}' :: rest => ([(textOfUnits? units, x)], some rest)
            | ',' :: rest =>
              let (fields, rest) := readFields fuel rest
              ((textOfUnits? units, x) :: fields, rest)
            | _ => ([(textOfUnits? units, x), (none, .malformed)], none)
        | _ => ([(none, .malformed)], none)
    | _ => ([(none, .malformed)], none)

end

/-- **What a whole text was read as**, and whether nothing but white space follows it. -/
def read (s : List Char) : Draft × Bool :=
  match readValue (2 * s.length + 1) s with
  | (x, none) => (x, false)
  | (x, some rest) => (x, (skip rest).isEmpty)

/-! ### The draft of a value -/

mutual

/-- The draft that says the same as a value. -/
def draft : Json → Draft
  | null => .null
  | number n => .number n
  | string s => .string s
  | array items => .array (drafts items)
  | object fields => .object (fieldDrafts fields)

/-- The drafts of several values. -/
def drafts : List Json → List Draft
  | [] => []
  | x :: rest => x.draft :: drafts rest

/-- The drafts of named values. -/
def fieldDrafts : List (String × Json) → List (Option String × Draft)
  | [] => []
  | (k, x) :: rest => (some k, x.draft) :: fieldDrafts rest

end

end RuleTiles.Json
