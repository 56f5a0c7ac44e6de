/-
**The grammar of level texts.**

A level text gives a size and rows of words, and each word gives the pieces on one cell.  This is
said here without a look at how a text is read: a word is put together from names, colons and plus
signs, a row from words, and a level from a header and its rows, among lines that do not count.  The
reader accepts a text just when it gives a level in this sense, and the board that it makes shows
what the text gives.

Main definitions:

* `RuleTiles.Level.NamesKind`, `RuleTiles.Level.NamesFacing` — names of kinds and of directions;
* `RuleTiles.Level.GivesPiece`, `RuleTiles.Level.GivesCell`, `RuleTiles.Level.GivesRow`,
  `RuleTiles.Level.GivesSize` — the parts of a level;
* `RuleTiles.Level.Gives` — **a text gives the size of a board and the pieces on its cells**.

Main results:

* `RuleTiles.Kind.ofChars?_eq_some_iff`, `RuleTiles.Direction.ofChars?_eq_some_iff` — which names
  are read;
* `RuleTiles.Level.readPiece_eq_ok_iff`, `RuleTiles.Level.readCell_eq_ok_iff`,
  `RuleTiles.Level.readRow_eq_ok_iff`, `RuleTiles.Level.readHeader_eq_ok_iff`,
  `RuleTiles.Level.readRows_eq_ok_iff` — each part is read just when it is written so;
* `RuleTiles.Level.parse_grammar` — **a text is read just when it gives a level**, and as the board
  that shows it.
-/

import RuleTiles.Proofs.Board.Pieces
import RuleTiles.Proofs.Level.Words
import RuleTiles.Proofs.Results

set_option relaxedAutoImplicit false
set_option autoImplicit false

namespace RuleTiles

/-! ### Names -/

/-- A kind is read from its name, whatever the case of its letters and the blanks around it. -/
theorem Kind.ofChars?_eq_some_iff {s : List Char} {k : Kind} :
    ofChars? s = some k ↔ lowercase (trim s) = k.name.toList := by
  constructor
  · intro h
    have hname := List.find?_some h
    exact (beq_iff_eq.1 hname).symm
  · intro h
    have key : ∀ k ∈ all, lowercase (trim k.name.toList) = k.name.toList := by decide +kernel
    rw [← ofChars?_name k, ofChars?, ofChars?, h, key k (mem_all k)]

/-- The ways to write a direction: its letter and its word. -/
def Direction.spellings : Direction → List (List Char)
  | up => [['u'], ['u', 'p']]
  | down => [['d'], ['d', 'o', 'w', 'n']]
  | left => [['l'], ['l', 'e', 'f', 't']]
  | right => [['r'], ['r', 'i', 'g', 'h', 't']]

theorem Direction.ofChars?_eq_some_iff {s : List Char} {d : Direction} :
    ofChars? s = some d ↔ lowercase (trim s) ∈ d.spellings := by
  constructor
  · intro h
    unfold ofChars? at h
    split at h <;> cases h <;> simp [spellings, *]
  · intro h
    have key : ∀ d ∈ all, ∀ w ∈ d.spellings, lowercase (trim w) = w ∧ ofChars? w = some d := by
      decide +kernel
    obtain ⟨hsame, hread⟩ := key d (mem_all d) _ h
    rw [← hread]
    unfold ofChars?
    rw [hsame]

namespace Level

/-- A name of a kind; the case of its letters does not matter. -/
def NamesKind (name : List Char) (k : Kind) : Prop := lowercase name = k.name.toList

/-- A name of a direction; the case of its letters does not matter. -/
def NamesFacing (name : List Char) (d : Direction) : Prop := lowercase name ∈ d.spellings

theorem toLower_mem_of_mem {c : Char} {name : List Char} (h : c ∈ name) :
    c.toLower ∈ lowercase name :=
  List.mem_map_of_mem h

/-- A character of a name: a letter, or the line in the name of a word tile. -/
def isNameChar (c : Char) : Bool := c.isAlpha || c == '_'

/-- The signs that part the names in a word are no characters of names. -/
theorem isNameChar_toLower_of_mem {c : Char} (hc : c ∈ [':', '+', '.']) :
    isNameChar c.toLower = false := by
  simp only [List.mem_cons, List.not_mem_nil, or_false] at hc
  rcases hc with rfl | rfl | rfl <;> decide

theorem NamesKind.not_mem {name : List Char} {k : Kind} (h : NamesKind name k) {c : Char}
    (hc : c ∈ [':', '+', '.']) : c ∉ name := by
  have key : ∀ k ∈ Kind.all, k.name.toList.all isNameChar = true := by decide +kernel
  intro hmem
  have hlower := toLower_mem_of_mem hmem
  rw [h] at hlower
  have hchar := List.all_eq_true.1 (key k (Kind.mem_all k)) _ hlower
  rw [isNameChar_toLower_of_mem hc] at hchar
  cases hchar

theorem NamesFacing.not_mem {name : List Char} {d : Direction} (h : NamesFacing name d) {c : Char}
    (hc : c ∈ [':', '+', '.']) : c ∉ name := by
  have key : ∀ d ∈ Direction.all, ∀ w ∈ d.spellings, w.all isNameChar = true := by decide
  intro hmem
  have hchar := List.all_eq_true.1 (key d (Direction.mem_all d) _ h) _ (toLower_mem_of_mem hmem)
  rw [isNameChar_toLower_of_mem hc] at hchar
  cases hchar

theorem readKind_eq_ok_iff {name : List Char} {k : Kind} (hname : ∀ c ∈ name, isBlank c = false) :
    readKind name = .ok k ↔ NamesKind name k := by
  have hread := Kind.ofChars?_eq_some_iff (s := name) (k := k)
  rw [trim_eq_self hname] at hread
  rw [NamesKind, ← hread]
  unfold readKind
  cases Kind.ofChars? name <;> simp

theorem facing_eq_some_iff {name : List Char} {d : Direction}
    (hname : ∀ c ∈ name, isBlank c = false) :
    Direction.ofChars? name = some d ↔ NamesFacing name d := by
  rw [Direction.ofChars?_eq_some_iff, trim_eq_self hname, NamesFacing]

/-! ### Pieces -/

/-- A part of a word gives a piece: the name of its kind, or that name and, after a colon, the name
of the direction it faces. -/
inductive GivesPiece : List Char → Piece → Prop
  | plain {name : List Char} {k : Kind} (hname : NamesKind name k) : GivesPiece name ⟨k, none⟩
  | faced {name facing : List Char} {k : Kind} {d : Direction} (hname : NamesKind name k)
      (hfacing : NamesFacing facing d) : GivesPiece (name ++ ':' :: facing) ⟨k, some d⟩

theorem GivesPiece.not_mem {part : List Char} {piece : Piece} (h : GivesPiece part piece) {c : Char}
    (hc : c ∈ ['+', '.']) : c ∉ part := by
  have hcolon : c ≠ ':' := by
    rintro rfl
    revert hc
    decide
  cases h with
  | plain hname => exact hname.not_mem (List.mem_cons_of_mem _ hc)
  | faced hname hfacing =>
      have hc' := List.mem_cons_of_mem ':' hc
      simp [hname.not_mem hc', hfacing.not_mem hc', hcolon]

/-- Without a colon a part of a word is read as a name. -/
theorem readPiece_of_not_mem {part : List Char} (h : ':' ∉ part) :
    readPiece part = (readKind part).map fun k => ⟨k, none⟩ := by
  have hall : ∀ c ∈ part, decide (c ≠ ':') = true := fun c hc =>
    decide_eq_true fun heq => h (heq ▸ hc)
  have hdrop : part.dropWhile (fun c => decide (c ≠ ':')) = [] := by
    rw [← List.append_nil part, List.dropWhile_append_of_pos hall]
    rfl
  have htake : part.takeWhile (fun c => decide (c ≠ ':')) = part := by
    have := List.takeWhile_append_dropWhile (p := fun c => decide (c ≠ ':')) (l := part)
    rwa [hdrop, List.append_nil] at this
  rw [readPiece, hdrop, htake]
  cases readKind part <;> rfl

/-- With a colon it is read as a name and, after the first colon, a direction. -/
theorem readPiece_append {name : List Char} (h : ':' ∉ name) (facing : List Char) {piece : Piece} :
    readPiece (name ++ ':' :: facing) = .ok piece ↔
      ∃ k d, readKind name = .ok k ∧ Direction.ofChars? facing = some d ∧ piece = ⟨k, some d⟩ := by
  have hall : ∀ c ∈ name, decide (c ≠ ':') = true := fun c hc =>
    decide_eq_true fun heq => h (heq ▸ hc)
  have hdrop : (name ++ ':' :: facing).dropWhile (fun c => decide (c ≠ ':')) = ':' :: facing := by
    rw [List.dropWhile_append_of_pos hall]
    rfl
  have htake : (name ++ ':' :: facing).takeWhile (fun c => decide (c ≠ ':')) = name := by
    rw [List.takeWhile_append_of_pos hall]
    simp
  rw [readPiece, hdrop, htake]
  cases hd : Direction.ofChars? facing with
  | none => simp [hd]
  | some d =>
      simp only [hd, bind_eq_ok_iff, pure_eq_ok_iff]
      simp

/-- **A part of a word is read just when it gives a piece.** -/
theorem readPiece_eq_ok_iff {part : List Char} {piece : Piece}
    (hpart : ∀ c ∈ part, isBlank c = false) :
    readPiece part = .ok piece ↔ GivesPiece part piece := by
  constructor
  · intro h
    by_cases hcolon : ':' ∈ part
    · obtain ⟨name, facing, rfl, hname⟩ := List.eq_append_cons_of_mem hcolon
      obtain ⟨k, d, hk, hd, rfl⟩ := (readPiece_append hname facing).1 h
      refine .faced ((readKind_eq_ok_iff fun c hc => hpart c ?_).1 hk)
        ((facing_eq_some_iff fun c hc => hpart c ?_).1 hd)
      · exact List.mem_append_left _ hc
      · exact List.mem_append_right _ (List.mem_cons_of_mem _ hc)
    · rw [readPiece_of_not_mem hcolon] at h
      cases hk : readKind part with
      | error fault => rw [hk] at h; cases h
      | ok k =>
          rw [hk] at h
          cases h
          exact .plain ((readKind_eq_ok_iff hpart).1 hk)
  · intro h
    cases h with
    | plain hname =>
        rw [readPiece_of_not_mem (hname.not_mem (by decide)), (readKind_eq_ok_iff hpart).2 hname]
        rfl
    | faced hname hfacing =>
        refine (readPiece_append (hname.not_mem (by decide)) _).2 ⟨_, _, ?_, ?_, rfl⟩
        · exact (readKind_eq_ok_iff fun c hc => hpart c (List.mem_append_left _ hc)).2 hname
        · exact (facing_eq_some_iff fun c hc =>
            hpart c (List.mem_append_right _ (List.mem_cons_of_mem _ hc))).2 hfacing

/-! ### Cells -/

/-- A word gives the pieces of a cell: none, as a dot, or as many as there are parts between its
plus signs. -/
def GivesCell (word : List Char) (pieces : List Piece) : Prop :=
  (word = ['.'] ∧ pieces = []) ∨
    ∃ parts, parts ≠ [] ∧ word = ['+'].intercalate parts ∧ List.Forall₂ GivesPiece parts pieces

theorem mem_intercalate_of_mem {α : Type} {x c : α} {part : List α} {parts : List (List α)}
    (hpart : part ∈ parts) (hc : c ∈ part) : c ∈ [x].intercalate parts := by
  induction parts with
  | nil => cases hpart
  | cons first others ih =>
      cases others with
      | nil => simp_all [List.intercalate]
      | cons second others =>
          rw [List.intercalate_cons_cons, List.mem_append]
          rcases List.mem_cons.1 hpart with rfl | hpart
          · exact .inl (List.mem_append_left _ hc)
          · exact .inr (ih hpart)

/-- Nothing but pieces can stand between plus signs, so the parts of a word are known. -/
theorem exists_parts_iff {word : List Char} {pieces : List Piece} :
    (∃ parts, parts ≠ [] ∧ word = ['+'].intercalate parts ∧ List.Forall₂ GivesPiece parts pieces) ↔
      List.Forall₂ GivesPiece (word.splitOn '+') pieces := by
  constructor
  · rintro ⟨parts, hne, rfl, hparts⟩
    have hplus : ∀ part ∈ parts, '+' ∉ part :=
      ((List.forall₂_and_left parts pieces).1
        (hparts.imp fun part piece h => ⟨h.not_mem (by decide), h⟩)).1
    rwa [List.splitOn_intercalate '+' hplus hne]
  · intro h
    exact ⟨_, List.splitOnP_ne_nil _ _, (List.intercalate_splitOn '+').symm, h⟩

/-- The dot is no piece. -/
theorem givesCell_dot_iff {pieces : List Piece} : GivesCell ['.'] pieces ↔ pieces = [] := by
  rw [GivesCell, exists_parts_iff]
  constructor
  · rintro (⟨-, rfl⟩ | h)
    · rfl
    · have hdot : List.splitOn '+' ['.'] = [['.']] := rfl
      rw [hdot] at h
      cases h with
      | cons hpiece _ => exact absurd (List.mem_singleton_self '.') (hpiece.not_mem (by decide))
  · rintro rfl
    exact .inl ⟨rfl, rfl⟩

/-- **A word is read just when it gives the pieces of a cell**, and as the cell they make. -/
theorem readCell_eq_ok_iff {word : List Char} {cell : Cell}
    (hword : ∀ c ∈ word, isBlank c = false) :
    readCell word = .ok cell ↔ ∃ pieces, GivesCell word pieces ∧ cell = .ofPieces pieces := by
  unfold readCell
  split
  · rename_i hdot
    subst hdot
    simp only [givesCell_dot_iff, exists_eq_left, Except.ok.injEq]
    exact eq_comm
  · rename_i hdot
    have hparts : ∀ part ∈ word.splitOn '+', ∀ c ∈ part, isBlank c = false := by
      intro part hpart c hc
      refine hword c ?_
      have hjoined : ['+'].intercalate (word.splitOn '+') = word := List.intercalate_splitOn '+'
      rw [← hjoined]
      exact mem_intercalate_of_mem hpart hc
    have hread : ∀ pieces, (word.splitOn '+').mapM readPiece = .ok pieces ↔
        GivesCell word pieces := by
      intro pieces
      rw [mapM_eq_ok_iff, GivesCell, exists_parts_iff,
        forall₂_congr_of_mem fun part hpart piece => readPiece_eq_ok_iff (hparts part hpart)]
      simp [hdot]
    simp only [← hread]
    change ((word.splitOn '+').mapM readPiece >>= fun pieces => pure (Cell.ofPieces pieces)) = _ ↔ _
    simp only [bind_eq_ok_iff, pure_eq_ok_iff]

/-! ### Rows -/

/-- A line gives the cells of a row, which is as wide as the board. -/
def GivesRow (width : Nat) (line : List Char) (row : List (List Piece)) : Prop :=
  ∃ ws, Spaced ws line ∧ ws.length = width ∧ List.Forall₂ GivesCell ws row

theorem GivesRow.length_eq {width : Nat} {line : List Char} {row : List (List Piece)}
    (h : GivesRow width line row) : row.length = width := by
  obtain ⟨ws, -, hwidth, hcells⟩ := h
  rw [← hcells.length_eq, hwidth]

/-- **A line is read just when it gives a row**, and as the cells it gives. -/
theorem readRow_eq_ok_iff {width : Nat} {line : List Char} {cells : List Cell} :
    readRow width line = .ok cells ↔
      ∃ row, GivesRow width line row ∧ cells = row.map .ofPieces := by
  have hws : Spaced (words line) line := words_eq_iff.1 rfl
  have hread : (words line).mapM readCell = .ok cells ↔
      ∃ row, List.Forall₂ GivesCell (words line) row ∧ cells = row.map .ofPieces := by
    rw [mapM_eq_ok_iff, ← forall₂_exists_eq_iff]
    exact forall₂_congr_of_mem fun word hword cell =>
      readCell_eq_ok_iff (hws.isBlank_eq_false word hword)
  have hgives : ∀ row, GivesRow width line row ↔
      (words line).length = width ∧ List.Forall₂ GivesCell (words line) row := by
    intro row
    constructor
    · rintro ⟨ws, hspaced, hwidth, hcells⟩
      rw [hspaced.words_eq]
      exact ⟨hwidth, hcells⟩
    · rintro ⟨hwidth, hcells⟩
      exact ⟨_, hws, hwidth, hcells⟩
  simp only [hgives]
  unfold readRow
  dsimp only
  split
  · rename_i hwidth
    simp [hread, hwidth]
  · rename_i hwidth
    simp [hwidth]

/-! ### The header -/

/-- A word is a number: decimal digits, maybe with a plus sign before them, whose value is at most
the largest that can be held. -/
def Numeral (word : List Char) (n : Nat) : Prop :=
  ∃ digits, (word = digits ∨ word = '+' :: digits) ∧ digits ≠ [] ∧
    (∀ c ∈ digits, c.isDigit = true) ∧ n = Nat.ofDigitChars 10 digits 0 ∧ n ≤ maxNumber

/-- A line gives a size: two numbers, neither of them zero or greater than the largest side. -/
def GivesSize (line : List Char) (width height : Nat) : Prop :=
  ∃ first second, Spaced [first, second] line ∧ Numeral first width ∧ Numeral second height ∧
    (1 ≤ width ∧ width ≤ 256) ∧ (1 ≤ height ∧ height ≤ 256)

theorem readNumber?_eq_some_iff {word : List Char} {n : Nat} :
    readNumber? word = some n ↔ Numeral word n := by
  unfold readNumber?
  constructor
  · intro h
    dsimp only at h
    rw [Option.ite_none_right_eq_some, Option.ite_none_right_eq_some] at h
    obtain ⟨⟨hne, hdigit⟩, hle, hn⟩ := h
    cases hn
    refine ⟨_, ?_, hne, List.all_eq_true.1 hdigit, rfl, hle⟩
    split
    · exact .inr rfl
    · exact .inl rfl
  · rintro ⟨digits, hword, hne, hdigit, rfl, hle⟩
    have hdigits : digits ≠ [] ∧ digits.all Char.isDigit = true := ⟨hne, List.all_eq_true.2 hdigit⟩
    rcases hword with rfl | rfl
    · -- a digit is no plus sign
      split
      · exact absurd (hdigit '+' (List.mem_cons_self ..)) (by decide)
      · simp only [if_pos hdigits, if_pos hle]
    · simp only [if_pos hdigits, if_pos hle]

theorem readDimension_eq_ok_iff {word : List Char} {n : Nat} :
    readDimension word = .ok n ↔ Numeral word n := by
  rw [← readNumber?_eq_some_iff]
  unfold readDimension
  cases readNumber? word <;> simp

/-- **The first line is read just when it gives a size.** -/
theorem readHeader_eq_ok_iff {line : List Char} {width height : Nat} :
    readHeader line = .ok (width, height) ↔ GivesSize line width height := by
  unfold readHeader
  constructor
  · intro h
    split at h
    · rename_i first second hws
      obtain ⟨w, hfirst, h⟩ := bind_eq_ok_iff.1 h
      obtain ⟨k, hsecond, h⟩ := bind_eq_ok_iff.1 h
      split at h
      · cases h
      · rename_i hfits
        cases h
        rw [maxDimension] at hfits
        exact ⟨first, second, words_eq_iff.1 hws, readDimension_eq_ok_iff.1 hfirst,
          readDimension_eq_ok_iff.1 hsecond, by omega, by omega⟩
    · cases h
  · rintro ⟨first, second, hws, hfirst, hsecond, hwidth, hheight⟩
    have hfits : ¬(width = 0 ∨ height = 0 ∨ maxDimension < max width height) := by
      rw [maxDimension]
      omega
    rw [hws.words_eq]
    simp only [readDimension_eq_ok_iff.2 hfirst, readDimension_eq_ok_iff.2 hsecond]
    exact if_neg hfits

/-! ### Levels -/

/-- The rows that are left are read just when there are as many as the board lacks and each of them
gives a row. -/
theorem readRows_eq_ok_iff {width height done last : Nat} {lines : List Line} {cells : List Cell}
    (hdone : done ≤ height) :
    readRows width height done last lines = .ok cells ↔
      done + lines.length = height ∧ ∃ rows,
        List.Forall₂ (GivesRow width) (lines.map Line.text) rows ∧
          cells = rows.flatten.map .ofPieces := by
  induction lines generalizing done last cells with
  | nil =>
      unfold readRows
      split
      · rename_i hlt
        simp
        omega
      · rename_i hge
        have hall : done = height := by omega
        simp [hall, eq_comm]
  | cons line rest ih =>
      unfold readRows
      split
      · rename_i hall
        simp [hall]
      · rename_i hne
        have hnext : done + 1 ≤ height := by omega
        simp only [bind_eq_ok_iff, atLine_eq_ok_iff, readRow_eq_ok_iff, ih hnext, pure_eq_ok_iff,
          List.length_cons, List.map_cons, List.forall₂_cons_left_iff]
        constructor
        · rintro ⟨_, ⟨row, hrow, rfl⟩, _, ⟨hlength, rows, hrows, rfl⟩, rfl⟩
          exact ⟨by omega, _, ⟨row, rows, hrow, hrows, rfl⟩, by simp⟩
        · rintro ⟨hlength, _, ⟨row, rows, hrow, hrows, rfl⟩, rfl⟩
          exact ⟨_, ⟨row, hrow, rfl⟩, _, ⟨by omega, rows, hrows, rfl⟩, by simp⟩

/-- **Lines give a level**: the first gives its size, and there are as many others as it is high,
each of which gives a row. -/
inductive Gives : List Line → Nat → Nat → List (List (List Piece)) → Prop
  | level {header : Line} {others : List Line} {width height : Nat}
      {rows : List (List (List Piece))} (hsize : GivesSize header.text width height)
      (hheight : others.length = height)
      (hrows : List.Forall₂ (GivesRow width) (others.map Line.text) rows) :
      Gives (header :: others) width height rows

theorem ofLines_cons_eq_ok_iff {header : Line} {others : List Line} {g : Grid} :
    ofLines (header :: others) = .ok g ↔
      ∃ width height cells, readHeader header.text = .ok (width, height) ∧
        readRows width height 0 header.number others = .ok cells ∧
        Grid.ofCells width height cells.toArray = .ok g := by
  simp only [ofLines, bind_eq_ok_iff, atLine_eq_ok_iff, Prod.exists, exists_and_left]
  refine exists_congr fun width => exists_congr fun height => and_congr_right fun _ =>
    exists_congr fun cells => and_congr_right fun _ => ?_
  cases Grid.ofCells width height cells.toArray <;> simp

section Given

variable {lines : List Line} {width height : Nat} {rows : List (List (List Piece))}

/-- As many rows are given as the board is high, and each is as wide as the board. -/
theorem Gives.length_eq (h : Gives lines width height rows) :
    rows.length = height ∧ ∀ row ∈ rows, row.length = width := by
  cases h with
  | @level _ others _ _ _ _ hheight hrows =>
      refine ⟨by rw [← hrows.length_eq, List.length_map, hheight], ?_⟩
      have hflip : List.Forall₂ (fun row line => row.length = width ∧ GivesRow width line row) rows
          (others.map Line.text) :=
        .flip (hrows.imp fun _ _ hrow => ⟨hrow.length_eq, hrow⟩)
      exact ((List.forall₂_and_left _ _).1 hflip).1

/-- Lines that give a level are read as the cells that the pieces make. -/
theorem Gives.exists_readRows_eq (h : Gives lines width height rows) :
    ∃ header others, lines = header :: others ∧ readHeader header.text = .ok (width, height) ∧
      readRows width height 0 header.number others = .ok (rows.flatten.map .ofPieces) := by
  cases h with
  | @level header others _ _ _ hsize hheight hrows =>
      refine ⟨header, others, rfl, readHeader_eq_ok_iff.2 hsize, ?_⟩
      exact (readRows_eq_ok_iff (Nat.zero_le height)).2 ⟨by omega, rows, hrows, rfl⟩

/-- The cells that the pieces make fill a board. -/
theorem Gives.fits (h : Gives lines width height rows) :
    (0 < width ∧ 0 < height) ∧ (width ≤ maxDimension ∧ height ≤ maxDimension) ∧
      (rows.flatten.map Cell.ofPieces).toArray.size = width * height := by
  obtain ⟨header, others, -, hheader, hread⟩ := h.exists_readRows_eq
  obtain ⟨_, _, _, _, _, hwidth, hheight⟩ := readHeader_eq_ok_iff.1 hheader
  have hcount := readRows_length (Nat.zero_le height) hread
  rw [maxDimension]
  exact ⟨⟨hwidth.1, hheight.1⟩, ⟨hwidth.2, hheight.2⟩, hcount⟩

theorem Gives.ofLines_eq_ok_iff (h : Gives lines width height rows) {g : Grid} :
    ofLines lines = .ok g ↔
      Grid.ofCells width height (rows.flatten.map Cell.ofPieces).toArray = .ok g := by
  obtain ⟨header, others, rfl, hheader, hread⟩ := h.exists_readRows_eq
  rw [ofLines_cons_eq_ok_iff]
  constructor
  · rintro ⟨_, _, _, hheader', hread', hg⟩
    cases hheader.symm.trans hheader'
    cases hread.symm.trans hread'
    exact hg
  · intro hg
    exact ⟨_, _, _, hheader, hread, hg⟩

/-- The board that is made of lines that give a level is the one that shows it. -/
theorem Gives.ofLines_eq_ok_iff_shows (h : Gives lines width height rows) {g : Grid} :
    ofLines lines = .ok g ↔ g.width = width ∧ g.height = height ∧ g.Shows rows := by
  obtain ⟨hheight, hwidth⟩ := h.length_eq
  rw [h.ofLines_eq_ok_iff, Grid.ofCells_eq_ok_iff]
  refine and_congr_right ?_
  rintro rfl
  refine and_congr_right ?_
  rintro rfl
  rw [Grid.shows_iff hheight hwidth, ← Array.toList_inj]

/-- Lines that give a level make a board. -/
theorem Gives.exists_ofLines_eq (h : Gives lines width height rows) :
    ∃ g, ofLines lines = .ok g := by
  refine ⟨.ofFitting width height _ h.fits, h.ofLines_eq_ok_iff.2 ?_⟩
  exact Grid.ofCells_eq_ok_iff.2 ⟨rfl, rfl, rfl⟩

/-- Lines that make a board give a level. -/
theorem exists_gives_of_ofLines {lines : List Line} {g : Grid} (h : ofLines lines = .ok g) :
    ∃ width height rows, Gives lines width height rows := by
  cases lines with
  | nil => cases h
  | cons header others =>
      obtain ⟨width, height, cells, hheader, hread, -⟩ := ofLines_cons_eq_ok_iff.1 h
      obtain ⟨hheight, rows, hrows, -⟩ := (readRows_eq_ok_iff (Nat.zero_le _)).1 hread
      exact ⟨width, height, rows, .level (readHeader_eq_ok_iff.1 hheader) (by omega) hrows⟩

end Given

/-- **The grammar of level texts.**  A text is read just when the lines that count give a level,
and then as the board of that size that holds what its words say. -/
theorem parse_grammar (text : String) :
    ((∃ g, parse text = .ok g) ↔
      ∃ width height rows, Gives (content text.toList) width height rows) ∧
      ∀ width height rows, Gives (content text.toList) width height rows →
        ∀ g, parse text = .ok g ↔ g.width = width ∧ g.height = height ∧ g.Shows rows := by
  rw [parse, contentLines_eq]
  refine ⟨⟨?_, ?_⟩, fun width height rows h g => h.ofLines_eq_ok_iff_shows⟩
  · rintro ⟨g, hg⟩
    exact exists_gives_of_ofLines hg
  · rintro ⟨width, height, rows, h⟩
    exact h.exists_ofLines_eq

end Level

end RuleTiles
