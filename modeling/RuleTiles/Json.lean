/-
**Data written as JSON.**

Records are written in JSON, either in one line without spaces or laid out over several lines.
The numbers of a record are integers.

Main definitions:

* `RuleTiles.Json` — nothing, a number, a text, a list or an object with named fields;
* `RuleTiles.Json.Layout` — where lines are broken and spaces are put;
* `RuleTiles.Json.write` — **the characters of a value**;
* `RuleTiles.Json.compact`, `RuleTiles.Json.pretty` — its two written forms.
-/

set_option relaxedAutoImplicit false
set_option autoImplicit false

namespace RuleTiles

/-- A value that can be written as JSON. -/
inductive Json
  | null
  | number (n : Int)
  | string (s : String)
  | array (items : List Json)
  | object (fields : List (String × Json))

namespace Json

/-! ### Leaves -/

/-- The characters of an integer. -/
def numeral : Int → List Char
  | .ofNat n => Nat.toDigits 10 n
  | .negSucc n => '-' :: Nat.toDigits 10 (n + 1)

/-- The letter that stands for a character after a backslash, if there is one. -/
def letter? : Char → Option Char
  | '"' => some '"'
  | '\\' => some '\\'
  | '\x08' => some 'b'
  | '\x0c' => some 'f'
  | '\n' => some 'n'
  | '\r' => some 'r'
  | '\t' => some 't'
  | _ => none

/-- A character inside a text.  Quotes, backslashes and control characters are escaped, by a letter
if there is one for them and else by four hexadecimal digits. -/
def escape (c : Char) : List Char :=
  match letter? c with
  | some e => ['\\', e]
  | none =>
    if c.toNat < 0x20 then
      ['\\', 'u', '0', '0', Nat.digitChar (c.toNat / 16), Nat.digitChar (c.toNat % 16)]
    else [c]

/-- The characters of a text, with its quotes. -/
def literal (s : String) : List Char := '"' :: s.toList.flatMap escape ++ ['"']

/-! ### Layout -/

/-- Where lines are broken and spaces are put. -/
structure Layout where
  /-- What stands before an item, or a closing bracket, at a depth of nesting. -/
  lineBreak : Nat → List Char
  /-- What stands between a colon and the value after it. -/
  gap : List Char

/-- Everything in one line, without spaces. -/
def Layout.oneLine : Layout := ⟨fun _ => [], []⟩

/-- One item a line, each level indented by two more spaces. -/
def Layout.indented : Layout :=
  ⟨fun depth => '\n' :: List.replicate (2 * depth) ' ', [' ']⟩

/-! ### Writing -/

mutual

/-- **The characters of a value** that starts at a depth of nesting. -/
def write (l : Layout) (depth : Nat) : Json → List Char
  | null => ['n', 'u', 'l', 'l']
  | number n => numeral n
  | string s => literal s
  | array [] => ['[', ']']
  | array (x :: rest) =>
    '[' :: (l.lineBreak (depth + 1) ++ write l (depth + 1) x ++
      (writeItems l (depth + 1) rest ++ (l.lineBreak depth ++ [']'])))
  | object [] => ['{', '}']
  | object ((k, x) :: rest) =>
    '{' :: (l.lineBreak (depth + 1) ++ (literal k ++ (':' :: l.gap)) ++
      write l (depth + 1) x ++ (writeFields l (depth + 1) rest ++ (l.lineBreak depth ++ ['}'])))

/-- The items of a list after the first. -/
def writeItems (l : Layout) (depth : Nat) : List Json → List Char
  | [] => []
  | x :: rest => ',' :: (l.lineBreak depth ++ write l depth x ++ writeItems l depth rest)

/-- The fields of an object after the first. -/
def writeFields (l : Layout) (depth : Nat) : List (String × Json) → List Char
  | [] => []
  | (k, x) :: rest =>
    ',' :: (l.lineBreak depth ++ (literal k ++ (':' :: l.gap)) ++ write l depth x ++
      writeFields l depth rest)

end

/-- A value in one line. -/
def compact (j : Json) : String := .ofList (j.write .oneLine 0)

/-- A value laid out over several lines. -/
def pretty (j : Json) : String := .ofList (j.write .indented 0)

end Json

end RuleTiles
