/-
**Level texts.**

A level is written line by line.  Blank lines and lines that start with `#` do not count.  The
first line that counts gives the width and the height; each of the others is a row of as many
words.  A word is a dot, for a cell on which nothing lies, or the names of objects joined by plus
signs; a name may be followed by a colon and a direction, which the object then faces.

Main definitions:

* `RuleTiles.Level.Line`, `RuleTiles.Level.contentLines` — the lines that count, with their
  numbers;
* `RuleTiles.Level.readHeader`, `RuleTiles.Level.readPiece`, `RuleTiles.Level.readCell`,
  `RuleTiles.Level.readRow`, `RuleTiles.Level.readRows` — the parts of a level;
* `RuleTiles.Level.parse`, `RuleTiles.Level.ofFile` — **the board of a level**.

Main results:

* `RuleTiles.Level.readRows_length` — rows that are read fill the board.
-/

import RuleTiles.Error
import RuleTiles.Text.Blank

set_option relaxedAutoImplicit false
set_option autoImplicit false

namespace RuleTiles.Level

/-! ### Lines -/

/-- A line without the blanks at its ends, with its number from 1. -/
structure Line where
  number : Nat
  text : List Char
  deriving DecidableEq

/-- The lines of a text, trimmed and numbered from 1. -/
def allLines (s : List Char) : List Line :=
  ((s.splitOnP fun c => c = '\n').zipIdx 1).map fun l => ⟨l.2, trim l.1⟩

/-- Whether a line is neither blank nor a comment. -/
def Line.counts (l : Line) : Bool :=
  match l.text with
  | [] => false
  | c :: _ => c ≠ '#'

/-- The lines that count. -/
def contentLines (s : List Char) : List Line := (allLines s).filter Line.counts

/-! ### The header -/

/-- The largest number that a header may hold before it is judged as a size. -/
def maxNumber : Nat := 18446744073709551615

/-- The number written by decimal digits, with one plus sign before them if need be. -/
def readNumber? (word : List Char) : Option Nat :=
  let digits := match word with
    | '+' :: rest => rest
    | word => word
  if digits ≠ [] ∧ digits.all Char.isDigit then
    let n := Nat.ofDigitChars 10 digits 0
    if n ≤ maxNumber then some n else none
  else none

/-- One of the two numbers of a header. -/
def readDimension (word : List Char) : Except LevelFault Nat :=
  match readNumber? word with
  | some n => .ok n
  | none => .error (.invalidDimension (.ofList word))

/-- The width and the height that a header gives. -/
def readHeader (header : List Char) : Except LevelFault (Nat × Nat) :=
  match words header with
  | [first, second] => do
    let width ← readDimension first
    let height ← readDimension second
    if width = 0 ∨ height = 0 ∨ maxDimension < max width height then
      .error (.unsupportedSize width height)
    else .ok (width, height)
  | _ => .error .malformedHeader

/-! ### Cells -/

/-- The kind that a name stands for. -/
def readKind (name : List Char) : Except LevelFault Kind :=
  match Kind.ofChars? name with
  | some k => .ok k
  | none => .error (.unknownObject (.ofList name))

/-- A piece: a name, and after the first colon the direction it faces. -/
def readPiece (s : List Char) : Except LevelFault Piece :=
  let name := s.takeWhile fun c => c ≠ ':'
  match s.dropWhile fun c => c ≠ ':' with
  | [] => do return ⟨← readKind name, none⟩
  | _ :: facing =>
    match Direction.ofChars? facing with
    | none => .error (.invalidFacing (.ofList facing))
    | some d => do return ⟨← readKind name, some d⟩

/-- A cell: a dot, or pieces joined by plus signs. -/
def readCell (word : List Char) : Except LevelFault Cell :=
  if word = ['.'] then .ok .empty
  else do return .ofPieces (← (word.splitOnP fun c => c = '+').mapM readPiece)

/-! ### Rows -/

/-- A row of `width` cells. -/
def readRow (width : Nat) (line : List Char) : Except LevelFault (List Cell) :=
  let cells := words line
  if cells.length = width then cells.mapM readCell
  else .error (.cellCount width cells.length)

/-- A fault at a line, as an error of the level. -/
def atLine {α : Type} (number : Nat) : Except LevelFault α → Except Error α
  | .ok x => .ok x
  | .error fault => .error (.level number fault)

/-- The cells of the rows that are left to read, when `done` of `height` rows are there and `last`
is the number of the last line read. -/
def readRows (width height : Nat) : Nat → Nat → List Line → Except Error (List Cell)
  | done, last, [] =>
    if done < height then .error (.level (last + 1) (.missingRows height done)) else .ok []
  | done, _, line :: rest =>
    if done = height then .error (.level line.number (.extraRow height))
    else do
      let row ← atLine line.number (readRow width line.text)
      let others ← readRows width height (done + 1) line.number rest
      return row ++ others

/-! ### Levels -/

/-- The board of a level. -/
def ofLines : List Line → Except Error Grid
  | [] => .error (.level 1 .missingHeader)
  | header :: rows => do
    let (width, height) ← atLine header.number (readHeader header.text)
    let cells ← readRows width height 0 header.number rows
    match Grid.ofCells width height cells.toArray with
    | .ok g => .ok g
    | .error fault => .error (.invalidGrid fault)

/-- **The board of a level text.** -/
def parse (text : String) : Except Error Grid := ofLines (contentLines text.toList)

/-- The board of a level file, given by its bytes if there is such a file. -/
def ofFile : Option ByteArray → Except Error Grid
  | none => .error (.unreadable .missing)
  | some bytes =>
    match String.fromUTF8? bytes with
    | none => .error (.unreadable .notText)
    | some text => parse text

/-! ### The number of cells -/

theorem atLine_eq_ok_iff {α : Type} {number : Nat} {r : Except LevelFault α} {x : α} :
    atLine number r = .ok x ↔ r = .ok x := by
  cases r <;> simp [atLine]

theorem mapM_length {α β ε : Type} {f : α → Except ε β} {l : List α} {m : List β}
    (h : l.mapM f = .ok m) : m.length = l.length := by
  induction l generalizing m with
  | nil => cases h; rfl
  | cons a l ih =>
    rw [List.mapM_cons] at h
    cases ha : f a with
    | error e => rw [ha] at h; cases h
    | ok b =>
      rw [ha] at h
      cases hl : l.mapM f with
      | error e =>
        rw [hl] at h
        cases h
      | ok bs =>
        rw [hl] at h
        cases h
        simp [ih hl]

theorem readRow_length {width : Nat} {line : List Char} {row : List Cell}
    (h : readRow width line = .ok row) : row.length = width := by
  unfold readRow at h
  dsimp only at h
  split at h
  · rename_i hw
    rw [mapM_length h, hw]
  · cases h

/-- Rows that are read fill the board. -/
theorem readRows_length {width height done last : Nat} {lines : List Line} {cells : List Cell}
    (hd : done ≤ height) (h : readRows width height done last lines = .ok cells) :
    cells.length = width * (height - done) := by
  induction lines generalizing done last cells with
  | nil =>
    unfold readRows at h
    split at h
    · cases h
    · cases h
      have : height - done = 0 := by omega
      simp [this]
  | cons line rest ih =>
    unfold readRows at h
    split at h
    · cases h
    · rename_i hne
      cases hr : atLine line.number (readRow width line.text) with
      | error e => rw [hr] at h; cases h
      | ok row =>
        rw [hr] at h
        cases ho : readRows width height (done + 1) line.number rest with
        | error e =>
          replace h : (readRows width height (done + 1) line.number rest >>= fun others =>
            pure (row ++ others)) = Except.ok cells := h
          rw [ho] at h
          cases h
        | ok others =>
          replace h : (readRows width height (done + 1) line.number rest >>= fun others =>
            pure (row ++ others)) = Except.ok cells := h
          rw [ho] at h
          cases h
          -- this row has `width` cells, and one row fewer is missing after it
          rw [List.length_append, readRow_length (atLine_eq_ok_iff.1 hr), ih (by omega) ho]
          have : height - done = height - (done + 1) + 1 := by omega
          rw [this, Nat.mul_add, Nat.mul_one, Nat.add_comm]

end RuleTiles.Level
