/-
**Where a level text is wrong.**

A text that gives no level is refused with the number of a line.  Several things may be wrong with a
text at once, and the first of them counts: a header that is missing or gives no size, then the
first line below it that is one row too many or gives no row, and last of all rows that are missing,
which is found out one line below the last one that counts.

Main definitions:

* `RuleTiles.Level.Spoils` — a line gives no row;
* `RuleTiles.Level.RowFault`, `RuleTiles.Level.FaultAt` — **the line at which a text is wrong**.

Main results:

* `RuleTiles.Level.spoils_iff` — a line gives a row unless its words spoil it;
* `RuleTiles.Level.exists_faultAt` — lines that give no level are wrong somewhere;
* `RuleTiles.Level.FaultAt.exists_ofLines_eq` — a level is refused at the line at which it is wrong;
* `RuleTiles.Level.parse_error_located` — **a text that is refused is refused at that line**, which
  is one of its lines or the one below them.
-/

import RuleTiles.Proofs.Level.Grammar

set_option relaxedAutoImplicit false
set_option autoImplicit false

namespace RuleTiles.Level

/-! ### Lines that give no row -/

/-- A line spoils a row: it has more or fewer words than the board is wide, or one of its words
gives no cell. -/
def Spoils (width : Nat) (line : List Char) : Prop :=
  ∃ ws, Spaced ws line ∧ (ws.length ≠ width ∨ ∃ word ∈ ws, ∀ pieces, ¬GivesCell word pieces)

/-- A line gives a row unless its words spoil it. -/
theorem spoils_iff {width : Nat} {line : List Char} :
    Spoils width line ↔ ¬∃ row, GivesRow width line row := by
  constructor
  · rintro ⟨ws, hspaced, hbad⟩ ⟨row, ws', hspaced', hwidth, hcells⟩
    cases hspaced.words_eq.symm.trans hspaced'.words_eq
    rcases hbad with hbad | ⟨word, hword, hbad⟩
    · exact hbad hwidth
    · obtain ⟨pieces, hpieces⟩ := exists_forall₂_iff.1 ⟨row, hcells⟩ word hword
      exact hbad pieces hpieces
  · intro hnone
    obtain ⟨ws, hspaced⟩ := exists_spaced line
    by_contra hgood
    have hwidth : ws.length = width := by
      by_contra hbad
      exact hgood ⟨ws, hspaced, .inl hbad⟩
    have hcells : ∀ word ∈ ws, ∃ pieces, GivesCell word pieces := by
      intro word hword
      by_contra hbad
      exact hgood ⟨ws, hspaced, .inr ⟨word, hword, not_exists.1 hbad⟩⟩
    obtain ⟨row, hrow⟩ := exists_forall₂_iff.2 hcells
    exact hnone ⟨row, ws, hspaced, hwidth, hrow⟩

/-- A line that spoils a row cannot be read, and any other can. -/
theorem exists_readRow_eq_error_iff {width : Nat} {line : List Char} :
    (∃ fault, readRow width line = .error fault) ↔ Spoils width line := by
  rw [spoils_iff]
  cases h : readRow width line with
  | error fault =>
      simp only [Except.error.injEq, exists_eq', true_iff]
      rintro ⟨row, hrow⟩
      rw [readRow_eq_ok_iff.2 ⟨row, hrow, rfl⟩] at h
      cases h
  | ok cells =>
      obtain ⟨row, hrow, -⟩ := readRow_eq_ok_iff.1 h
      simp only [reduceCtorEq, exists_false, false_iff, not_not]
      exact ⟨row, hrow⟩

/-! ### The first fault -/

/-- Lines are wrong as the last `left` rows of a board, below a line with the number `last`: either
at a line that is one too many or spoils its row, when no line above it is or does, or one line
below the last when there are too few. -/
inductive RowFault (width last left : Nat) : List Line → Nat → Prop
  | row (front : List Line) {rest : List Line} {line : Line} (hfits : front.length ≤ left)
      (hfront : ∀ l ∈ front, ¬Spoils width l.text)
      (hline : front.length = left ∨ Spoils width line.text) :
      RowFault width last left (front ++ line :: rest) line.number
  | missing {lines : List Line} (hlines : ∀ l ∈ lines, ¬Spoils width l.text)
      (hfew : lines.length < left) :
      RowFault width last left lines ((lines.map Line.number).getLastD last + 1)

/-- **The line at which the lines of a level are wrong**: the first line of all when there is no
header, the header when it gives no size, and otherwise the line at which the rows are wrong. -/
inductive FaultAt : List Line → Nat → Prop
  | missingHeader : FaultAt [] 1
  | header {header : Line} {others : List Line}
      (hsize : ∀ width height, ¬GivesSize header.text width height) :
      FaultAt (header :: others) header.number
  | rows {header : Line} {others : List Line} {width height n : Nat}
      (hsize : GivesSize header.text width height)
      (hrows : RowFault width header.number height others n) : FaultAt (header :: others) n

section Rows

variable {width height left last done n : Nat} {lines : List Line}

/-- A line that gives a row is no fault, and one row fewer is to come below it. -/
theorem RowFault.cons {line : Line} (hline : ¬Spoils width line.text)
    (h : RowFault width line.number left lines n) :
    RowFault width last (left + 1) (line :: lines) n := by
  cases h with
  | row front hfits hfront hbad =>
      refine .row (line :: front) ?_ (List.forall_mem_cons.2 ⟨hline, hfront⟩) ?_
      · simpa using hfits
      · simpa using hbad
  | missing hlines hfew =>
      have hnumber : ((line :: lines).map Line.number).getLastD last =
          (lines.map Line.number).getLastD line.number := List.getLastD_cons ..
      rw [← hnumber]
      exact .missing (List.forall_mem_cons.2 ⟨hline, hlines⟩) (by simpa using hfew)

/-- Lines are wrong somewhere unless each gives a row and they are as many as are to come. -/
theorem exists_rowFault (last : Nat)
    (h : ¬(lines.length = left ∧ ∀ l ∈ lines, ¬Spoils width l.text)) :
    ∃ n, RowFault width last left lines n := by
  induction lines generalizing left last with
  | nil =>
      have hfew : 0 < left := by simp at h; omega
      exact ⟨_, .missing (by simp) hfew⟩
  | cons line rest ih =>
      by_cases hbad : left = 0 ∨ Spoils width line.text
      · exact ⟨_, .row [] (Nat.zero_le _) (by simp) (hbad.imp_left Eq.symm)⟩
      · obtain ⟨hleft, hline⟩ := not_or.1 hbad
        obtain ⟨left, rfl⟩ := Nat.exists_eq_succ_of_ne_zero hleft
        have hrest : ∃ n, RowFault width line.number left rest n := ih line.number fun hrest =>
          h ⟨congrArg (· + 1) hrest.1, List.forall_mem_cons.2 ⟨hline, hrest.2⟩⟩
        obtain ⟨n, hn⟩ := hrest
        exact ⟨n, hn.cons hline⟩

/-- A line that is one too many or spoils its row is where the rows are refused. -/
theorem exists_readRows_eq_of_bad {line : Line} (hline : done = height ∨ Spoils width line.text) :
    ∃ fault, readRows width height done last (line :: lines) =
      .error (.level line.number fault) := by
  unfold readRows
  split
  · exact ⟨_, rfl⟩
  · rename_i hdone
    obtain ⟨fault, hfault⟩ := exists_readRow_eq_error_iff.2 (hline.resolve_left hdone)
    exact ⟨fault, by rw [hfault]; rfl⟩

/-- Lines that give rows are read, and those below them are left. -/
theorem exists_readRows_append (last : Nat) {front : List Line}
    (hfits : done + front.length ≤ height) (hfront : ∀ l ∈ front, ¬Spoils width l.text)
    (below : List Line) :
    ∃ cells : List Cell, readRows width height done last (front ++ below) =
      readRows width height (done + front.length) ((front.map Line.number).getLastD last) below >>=
        fun others => pure (cells ++ others) := by
  induction front generalizing done last with
  | nil => exact ⟨[], by simp⟩
  | cons line front ih =>
      obtain ⟨hline, hothers⟩ := List.forall_mem_cons.1 hfront
      obtain ⟨row, hrow⟩ := not_not.1 (spoils_iff.not.1 hline)
      rw [List.length_cons] at hfits
      have hdone : done ≠ height := by omega
      have hread : atLine line.number (readRow width line.text) = .ok (row.map .ofPieces) :=
        atLine_eq_ok_iff.2 (readRow_eq_ok_iff.2 ⟨row, hrow, rfl⟩)
      have hrest : done + 1 + front.length ≤ height := by omega
      obtain ⟨cells, hcells⟩ := ih line.number hrest hothers
      refine ⟨row.map .ofPieces ++ cells, ?_⟩
      have hstep : readRows width height done last (line :: front ++ below) =
          readRows width height (done + 1) line.number (front ++ below) >>= fun others =>
            pure (row.map .ofPieces ++ others) := by
        rw [List.cons_append, readRows, if_neg hdone, hread]
        rfl
      have hlength : done + (line :: front).length = done + 1 + front.length := by
        rw [List.length_cons]
        omega
      rw [hstep, hcells, hlength, List.map_cons, List.getLastD_cons, bind_assoc]
      simp only [pure_bind, List.append_assoc]

/-- **Rows are refused at the line at which they are wrong.** -/
theorem RowFault.exists_readRows_eq (h : RowFault width last left lines n)
    (hleft : done + left = height) :
    ∃ fault, readRows width height done last lines = .error (.level n fault) := by
  cases h with
  | @row front rest line hfits hfront hline =>
      have hdone : done + front.length ≤ height := by omega
      have hline' : done + front.length = height ∨ Spoils width line.text :=
        hline.imp_left fun h => by omega
      obtain ⟨fault, hfault⟩ := exists_readRows_eq_of_bad hline'
      obtain ⟨cells, hcells⟩ := exists_readRows_append last hdone hfront (line :: rest)
      exact ⟨fault, by rw [hcells, hfault]; rfl⟩
  | missing hlines hfew =>
      have hdone : done + lines.length ≤ height := by omega
      obtain ⟨cells, hcells⟩ := exists_readRows_append last hdone hlines []
      rw [List.append_nil] at hcells
      refine ⟨.missingRows height (done + lines.length), ?_⟩
      rw [hcells, readRows, if_pos (by omega)]
      rfl

end Rows

/-! ### Levels that are refused -/

section Levels

variable {lines : List Line} {n : Nat}

/-- Lines that give no level are wrong somewhere. -/
theorem exists_faultAt (h : ¬∃ width height rows, Gives lines width height rows) :
    ∃ n, FaultAt lines n := by
  cases lines with
  | nil => exact ⟨1, .missingHeader⟩
  | cons header others =>
      by_cases hsize : ∃ width height, GivesSize header.text width height
      · obtain ⟨width, height, hsize⟩ := hsize
        have hbad : ¬(others.length = height ∧ ∀ l ∈ others, ¬Spoils width l.text) := by
          rintro ⟨hheight, hgood⟩
          have hrow : ∀ text ∈ others.map Line.text, ∃ row, GivesRow width text row := by
            intro text htext
            obtain ⟨l, hl, rfl⟩ := List.mem_map.1 htext
            exact not_not.1 (spoils_iff.not.1 (hgood l hl))
          obtain ⟨rows, hrows⟩ := exists_forall₂_iff.2 hrow
          exact h ⟨width, height, rows, .level hsize hheight hrows⟩
        obtain ⟨n, hn⟩ := exists_rowFault header.number hbad
        exact ⟨n, .rows hsize hn⟩
      · exact ⟨_, .header fun width height hgives => hsize ⟨width, height, hgives⟩⟩

/-- **A level is refused at the line at which it is wrong.** -/
theorem FaultAt.exists_ofLines_eq (h : FaultAt lines n) :
    ∃ fault, ofLines lines = .error (.level n fault) := by
  cases h with
  | missingHeader => exact ⟨_, rfl⟩
  | @header header others hsize =>
      cases hread : readHeader header.text with
      | error fault => exact ⟨fault, by rw [ofLines, hread]; rfl⟩
      | ok size => exact absurd (readHeader_eq_ok_iff.1 hread) (hsize size.1 size.2)
  | @rows header others width height _ hsize hrows =>
      obtain ⟨fault, hfault⟩ := hrows.exists_readRows_eq (Nat.zero_add height)
      refine ⟨fault, ?_⟩
      rw [ofLines, readHeader_eq_ok_iff.2 hsize]
      change readRows width height 0 header.number others >>= _ = _
      rw [hfault]
      rfl

/-- A level is wrong at no more than one line. -/
theorem FaultAt.unique {m : Nat} (hm : FaultAt lines m) (hn : FaultAt lines n) : m = n := by
  obtain ⟨fault, hfault⟩ := hm.exists_ofLines_eq
  obtain ⟨fault', hfault'⟩ := hn.exists_ofLines_eq
  cases hfault.symm.trans hfault'
  rfl

/-- A level is wrong at its first line, at one that counts, or one line below such a line. -/
theorem FaultAt.eq_or_exists_mem (h : FaultAt lines n) :
    n = 1 ∨ ∃ l ∈ lines, n = l.number ∨ n = l.number + 1 := by
  cases h with
  | missingHeader => exact .inl rfl
  | @header header others _ => exact .inr ⟨header, List.mem_cons_self .., .inl rfl⟩
  | @rows header others _ _ _ _ hrows =>
      refine .inr ?_
      cases hrows with
      | @row front rest line _ _ _ => exact ⟨line, by simp, .inl rfl⟩
      | missing _ _ =>
          have hlast : (others.map Line.number).getLastD header.number ∈
              (header :: others).map Line.number := List.getLastD_mem_cons
          obtain ⟨l, hl, hnumber⟩ := List.mem_map.1 hlast
          exact ⟨l, hl, .inr (by rw [hnumber])⟩

end Levels

/-- **A text that is refused is refused at the line at which it is wrong**, which is one of its
lines or the one below them. -/
theorem parse_error_located {text : String} {e : Error} (h : parse text = .error e) :
    ∃ n fault, e = .level n fault ∧ (∀ m, FaultAt (content text.toList) m ↔ m = n) ∧
      1 ≤ n ∧ n ≤ (lines text.toList).length + 1 := by
  rw [parse, contentLines_eq] at h
  have hnone : ¬∃ width height rows, Gives (content text.toList) width height rows := by
    rintro ⟨width, height, rows, hgives⟩
    obtain ⟨g, hg⟩ := hgives.exists_ofLines_eq
    cases h.symm.trans hg
  obtain ⟨n, hn⟩ := exists_faultAt hnone
  obtain ⟨fault, hfault⟩ := hn.exists_ofLines_eq
  cases h.symm.trans hfault
  refine ⟨n, fault, rfl, fun m => ⟨fun hm => hm.unique hn, ?_⟩, ?_⟩
  · rintro rfl
    exact hn
  · rcases hn.eq_or_exists_mem with rfl | ⟨l, hl, hnumber⟩
    · omega
    · have := number_of_mem_content hl
      omega

/-- Of several faults the first counts: the name on line 4 is unknown, and line 6 is a row too
many. -/
theorem parse_error_located_mixed :
    parse "# head\n2 2\r\n\n. keke\n. .\n. .\n" = .error (.level 4 (.unknownObject "keke")) ∧
      FaultAt (content "# head\n2 2\r\n\n. keke\n. .\n. .\n".toList) 4 := by
  have hparse : parse "# head\n2 2\r\n\n. keke\n. .\n. .\n" =
      .error (.level 4 (.unknownObject "keke")) := by
    decide +kernel
  obtain ⟨n, fault, he, hfault, -⟩ := parse_error_located hparse
  cases he
  exact ⟨hparse, (hfault 4).2 rfl⟩

end RuleTiles.Level
