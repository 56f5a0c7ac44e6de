/-
**How a text falls into lines and a line into words.**

Reading a level starts with two splits.  A text falls into lines, each of which ends with a line
feed, maybe after a carriage return; the last line may lack its end.  A line falls into words, with
blanks between them and around them.  Both splits are described here from the other side, by how the
text is put together from its parts, and the functions that make the splits are shown to undo it.

Main definitions:

* `RuleTiles.Level.lines`, `RuleTiles.Level.content` — the lines of a text, and those that count;
* `RuleTiles.Level.Spaced` — **a line is made of words with blanks between them**.

Main results:

* `RuleTiles.Level.contentLines_eq` — the lines that are read are those that count;
* `RuleTiles.Level.words_eq_iff` — **the words of a line are those that it is made of**;
* `RuleTiles.Level.number_of_mem_content` — the numbers of the lines that count.
-/

import Mathlib.Data.List.Forall2
import RuleTiles.Level

set_option relaxedAutoImplicit false
set_option autoImplicit false

namespace RuleTiles

/-! ### Blanks at the ends -/

theorem trim_append_blank {c : Char} (hc : isBlank c = true) (s : List Char) :
    trim (s ++ [c]) = trim s := by
  unfold trim
  rw [List.dropWhile_append]
  split
  · rename_i hs
    rw [List.isEmpty_iff] at hs
    simp [hs, hc]
  · simp [hc]

/-- Trimming changes nothing in a text without blanks. -/
theorem trim_eq_self {s : List Char} (h : ∀ c ∈ s, isBlank c = false) : trim s = s := by
  have hdrop : ∀ t : List Char, (∀ c ∈ t, isBlank c = false) → t.dropWhile isBlank = t := by
    intro t ht
    cases t with
    | nil => rfl
    | cons c t =>
        rw [List.dropWhile_cons_of_neg]
        simp [ht c (List.mem_cons_self ..)]
  have hreverse : ∀ c ∈ s.reverse, isBlank c = false := fun c hc => h c (List.mem_reverse.1 hc)
  rw [trim, hdrop s h, hdrop s.reverse hreverse, List.reverse_reverse]

namespace Level

/-! ### Lines -/

/-- The lines of a text.  A line ends with a line feed, or with a carriage return and a line feed;
the last line may lack its end. -/
def lines : List Char → List (List Char)
  | [] => []
  | '\n' :: rest => [] :: lines rest
  | '\r' :: '\n' :: rest => [] :: lines rest
  | c :: rest =>
    let later := lines rest
    (c :: later.headD []) :: later.tail

/-- The lines that count: trimmed and numbered from 1, without those on which nothing is left and
those that start with `#`. -/
def content (s : List Char) : List Line :=
  (((lines s).zipIdx 1).map fun l => ⟨l.2, trim l.1⟩).filter fun l =>
    l.text ≠ [] ∧ l.text.head? ≠ some '#'

theorem lines_eq_nil_iff {s : List Char} : lines s = [] ↔ s = [] := by
  cases s with
  | nil => simp [lines]
  | cons c rest =>
      unfold lines
      split <;> simp_all

/-- Two pieces of text differ at most by a carriage return at the end of the first. -/
def UpToReturn (piece line : List Char) : Prop := piece = line ∨ piece = line ++ ['\r']

theorem UpToReturn.cons {piece line : List Char} (h : UpToReturn piece line) (c : Char) :
    UpToReturn (c :: piece) (c :: line) := by
  rcases h with rfl | rfl
  · exact .inl rfl
  · exact .inr rfl

theorem UpToReturn.trim_eq {piece line : List Char} (h : UpToReturn piece line) :
    trim piece = trim line := by
  rcases h with rfl | rfl
  · rfl
  · exact trim_append_blank (by decide) line

/-- Cut at its line feeds, a text falls into its lines, up to carriage returns, and one more empty
piece when the last line has its end. -/
theorem exists_splitOnP_lines (s : List Char) :
    ∃ ending : List (List Char), (∀ piece ∈ ending, piece = []) ∧
      List.Forall₂ UpToReturn (s.splitOnP fun c => c = '\n') (lines s ++ ending) := by
  fun_induction lines s with
  | case1 => exact ⟨[[]], by simp, by simp [UpToReturn]⟩
  | case2 rest ih =>
      obtain ⟨ending, hending, hrel⟩ := ih
      refine ⟨ending, hending, ?_⟩
      rw [List.splitOnP_cons_eq_if_modifyHead, if_pos (by decide)]
      exact .cons (.inl rfl) hrel
  | case3 rest ih =>
      obtain ⟨ending, hending, hrel⟩ := ih
      refine ⟨ending, hending, ?_⟩
      rw [List.splitOnP_cons_eq_if_modifyHead, if_neg (by decide),
        List.splitOnP_cons_eq_if_modifyHead, if_pos (by decide)]
      exact .cons (.inr rfl) hrel
  | case4 c rest hfeed _ later ih =>
      obtain ⟨ending, hending, hrel⟩ := ih
      rw [List.splitOnP_cons_eq_if_modifyHead, if_neg (by simpa using hfeed)]
      cases hlater : later with
      | nil =>
          -- nothing follows, so the one character is the last line
          cases lines_eq_nil_iff.1 hlater
          exact ⟨[], by simp, by simp [UpToReturn]⟩
      | cons line others =>
          refine ⟨ending, hending, ?_⟩
          rw [show lines rest = line :: others from hlater] at hrel
          cases hpieces : rest.splitOnP fun c => c = '\n' with
          | nil => exact absurd hpieces (List.splitOnP_ne_nil _ _)
          | cons piece pieces =>
              rw [hpieces] at hrel
              obtain ⟨hfirst, hothers⟩ := List.forall₂_cons.1 hrel
              exact .cons (hfirst.cons c) hothers

/-- A piece of a text with its number, as it is read. -/
def trimmed (piece : List Char × Nat) : Line := ⟨piece.2, trim piece.1⟩

theorem map_trimmed_zipIdx (pieces : List (List Char)) (first : Nat) :
    (pieces.zipIdx first).map trimmed =
      ((pieces.map trim).zipIdx first).map fun piece => ⟨piece.2, piece.1⟩ := by
  rw [List.zipIdx_map, List.map_map]
  rfl

theorem counts_eq_true_iff {l : Line} :
    l.counts = true ↔ l.text ≠ [] ∧ l.text.head? ≠ some '#' := by
  unfold Line.counts
  split
  · rename_i htext
    simp [htext]
  · rename_i c rest htext
    simp [htext]

/-- **The lines that are read are those that count.** -/
theorem contentLines_eq (s : List Char) : contentLines s = content s := by
  obtain ⟨ending, hending, hrel⟩ := exists_splitOnP_lines s
  have htrim : (s.splitOnP fun c => c = '\n').map trim = (lines s ++ ending).map trim := by
    rw [← List.forall₂_eq_eq_eq, List.forall₂_map_left_iff, List.forall₂_map_right_iff]
    exact hrel.imp fun _ _ h => h.trim_eq
  have hall : allLines s = ((lines s ++ ending).zipIdx 1).map trimmed := by
    rw [map_trimmed_zipIdx, ← htrim, ← map_trimmed_zipIdx]
    rfl
  have hcounts : Line.counts = fun l => decide (l.text ≠ [] ∧ l.text.head? ≠ some '#') := by
    funext l
    rw [Bool.eq_iff_iff, counts_eq_true_iff, decide_eq_true_eq]
  -- what follows the last line end does not count
  have hnone : (((ending.zipIdx (1 + (lines s).length)).map trimmed).filter Line.counts) = [] := by
    rw [List.filter_eq_nil_iff]
    intro l hl
    obtain ⟨piece, hpiece, rfl⟩ := List.mem_map.1 hl
    have hempty := hending _ (List.fst_mem_of_mem_zipIdx hpiece)
    have hblank : (trimmed piece).text = [] := by rw [trimmed, hempty, trim_nil]
    exact fun hcount => (counts_eq_true_iff.1 hcount).1 hblank
  rw [contentLines, hall, List.zipIdx_append, List.map_append, List.filter_append, hnone,
    List.append_nil, hcounts]
  rfl

/-- The lines are numbered from 1, and no number is greater than that of the lines. -/
theorem number_of_mem_content {s : List Char} {l : Line} (h : l ∈ content s) :
    1 ≤ l.number ∧ l.number ≤ (lines s).length := by
  obtain ⟨piece, hpiece, rfl⟩ := List.mem_map.1 (List.mem_filter.1 h).1
  have hlower := List.le_snd_of_mem_zipIdx hpiece
  have hupper := List.snd_lt_add_of_mem_zipIdx hpiece
  dsimp only
  omega

/-! ### Words -/

/-- **A line is made of words**: they hold no blank, stand in their order, and have blanks between
them; there may be blanks before the first and behind the last. -/
inductive Spaced : List (List Char) → List Char → Prop
  | blank {gap : List Char} (hgap : ∀ c ∈ gap, isBlank c = true) : Spaced [] gap
  | word (gap word : List Char) {rest : List Char} {others : List (List Char)}
      (hgap : ∀ c ∈ gap, isBlank c = true)
      (hne : word ≠ []) (hword : ∀ c ∈ word, isBlank c = false)
      (hsep : ∀ c ∈ rest.head?, isBlank c = true) (hrest : Spaced others rest) :
      Spaced (word :: others) (gap ++ word ++ rest)

theorem words_append_of_blank {gap : List Char} (hgap : ∀ c ∈ gap, isBlank c = true)
    (s : List Char) : words (gap ++ s) = words s := by
  induction gap with
  | nil => rfl
  | cons c gap ih =>
      have hc := hgap c (List.mem_cons_self ..)
      rw [List.cons_append, words, List.splitOnP_cons_eq_if_modifyHead, if_pos hc]
      exact ih fun d hd => hgap d (List.mem_cons_of_mem _ hd)

theorem words_append_of_word {word rest : List Char} (hne : word ≠ [])
    (hword : ∀ c ∈ word, isBlank c = false) (hsep : ∀ c ∈ rest.head?, isBlank c = true) :
    words (word ++ rest) = word :: words rest := by
  have hfilter : ∀ pieces : List (List Char),
      (word :: pieces).filter (fun w => !w.isEmpty) = word :: pieces.filter fun w => !w.isEmpty :=
    fun pieces => List.filter_cons_of_pos (by simpa using hne)
  cases rest with
  | nil => rw [List.append_nil, words, List.splitOnP_eq_singleton hword, hfilter]; rfl
  | cons c rest =>
      have hc := hsep c rfl
      rw [words, List.splitOnP_append_cons_of_forall_mem hword c hc, hfilter]
      refine congrArg (word :: ·) ?_
      have hgap : ∀ d ∈ [c], isBlank d = true := by simpa using hc
      exact (words_append_of_blank hgap rest).symm

/-- A line that is made of words has those words. -/
theorem Spaced.words_eq {ws : List (List Char)} {line : List Char} (h : Spaced ws line) :
    words line = ws := by
  induction h with
  | @blank gap hgap =>
      rw [← List.append_nil gap, words_append_of_blank hgap, words_nil]
  | word _ _ hgap hne hword hsep _ ih =>
      rw [List.append_assoc, words_append_of_blank hgap, words_append_of_word hne hword hsep, ih]

/-- Every line is made of words: a blank in front widens the first gap, and any other character is
in front of the first word or a word of its own. -/
theorem exists_spaced (line : List Char) : ∃ ws, Spaced ws line := by
  induction line with
  | nil => exact ⟨[], .blank (by simp)⟩
  | cons c rest ih =>
      obtain ⟨ws, hrest⟩ := ih
      cases hc : isBlank c with
      | true =>
          cases hrest with
          | blank hgap => exact ⟨[], .blank (List.forall_mem_cons.2 ⟨hc, hgap⟩)⟩
          | word gap word hgap hne hword hsep hrest =>
              have hwider : ∀ d ∈ c :: gap, isBlank d = true := List.forall_mem_cons.2 ⟨hc, hgap⟩
              exact ⟨_, .word (c :: gap) word hwider hne hword hsep hrest⟩
      | false =>
          have halone : (∀ d ∈ rest.head?, isBlank d = true) → Spaced ([c] :: ws) (c :: rest) :=
            fun hsep => .word [] [c] (by simp) (by simp) (by simpa using hc) hsep hrest
          cases hrest with
          | blank hgap => exact ⟨_, halone fun d hd => hgap d (List.mem_of_mem_head? hd)⟩
          | word gap word hgap hne hword hsep hrest =>
              cases gap with
              | nil =>
                  have hlonger : ∀ d ∈ c :: word, isBlank d = false :=
                    List.forall_mem_cons.2 ⟨hc, hword⟩
                  exact ⟨_, .word [] (c :: word) (by simp) (by simp) hlonger hsep hrest⟩
              | cons d gap =>
                  refine ⟨_, halone fun e he => ?_⟩
                  cases he
                  exact hgap d (List.mem_cons_self ..)

/-- **The words of a line are those that it is made of.** -/
theorem words_eq_iff {ws : List (List Char)} {line : List Char} :
    words line = ws ↔ Spaced ws line := by
  refine ⟨?_, Spaced.words_eq⟩
  rintro rfl
  obtain ⟨ws, h⟩ := exists_spaced line
  rwa [h.words_eq]

/-- No word holds a blank. -/
theorem Spaced.isBlank_eq_false {ws : List (List Char)} {line : List Char} (h : Spaced ws line) :
    ∀ w ∈ ws, ∀ c ∈ w, isBlank c = false := by
  induction h with
  | blank _ => simp
  | word _ _ _ _ hword _ _ ih =>
      intro w hw
      rcases List.mem_cons.1 hw with rfl | hw
      · exact hword
      · exact ih w hw

end Level

end RuleTiles
