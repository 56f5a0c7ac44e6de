/-
**Reports are read back.**

A report is a list of events, of any length, and each event is written under the name of its case.
The reader finds the case by that name and then reads the parts, which are positions, kinds,
properties, states of play and lists of rules.  Each of them is read back, down to the least
coordinate, and therefore so is every event, every list of events and every report.

Main results:

* `RuleTiles.Record.reads_position`, `RuleTiles.Record.reads_event`,
  `RuleTiles.Record.reads_report` — positions, events and reports are read back;
* `RuleTiles.Report.load_saved` — **the text of a report gives the report again**.
-/

import RuleTiles.Proofs.Record.Codecs

set_option relaxedAutoImplicit false
set_option autoImplicit false

namespace RuleTiles

namespace Record

open Json

/-! ### Positions -/

/-- A coordinate is a number of the range, so it is read back whatever its sign. -/
theorem coord_val (c : Coord) : coord (.number c.val) = .ok c := by
  simp [coord]

theorem reads_position : Reads position ofPosition := by
  intro p
  have hposition := pair_object (a := "row") (b := "col") (by decide) (coord_val p.row)
    (coord_val p.col)
  simp [position, ofPosition, draft, fieldDrafts, hposition, bind, Except.bind, pure, Except.pure]

/-! ### Events -/

/-- An event is read back from its case, by the name of which its parts are read. -/
theorem reads_event : Reads event ofEvent := by
  intro e
  cases e with
  | moved k source target =>
      have hparts := triple_object (a := "kind") (b := "from") (c := "to") (by decide) (by decide)
        (by decide) (reads_kind k) (reads_position source) (reads_position target)
      simp [event, ofEvent, draft, fieldDrafts, variant, hparts, bind, Except.bind, pure,
        Except.pure]
  | transformed pos source target =>
      have hparts := triple_object (a := "at") (b := "from") (c := "to") (by decide) (by decide)
        (by decide) (reads_position pos) (reads_kind source) (reads_kind target)
      simp [event, ofEvent, draft, fieldDrafts, variant, hparts, bind, Except.bind, pure,
        Except.pure]
  | destroyed pos k cause =>
      have hparts := triple_object (a := "at") (b := "kind") (c := "cause") (by decide) (by decide)
        (by decide) (reads_position pos) (reads_kind k) (reads_property cause)
      simp [event, ofEvent, draft, fieldDrafts, variant, hparts, bind, Except.bind, pure,
        Except.pure]
  | rulesChanged added removed =>
      have hparts := pair_object (a := "added") (b := "removed") (by decide)
        (reads_list reads_rule added) (reads_list reads_rule removed)
      simp only [draft] at hparts
      simp [event, ofEvent, draft, fieldDrafts, variant, hparts, bind, Except.bind, pure,
        Except.pure]
  | stateChanged before after =>
      have hparts := pair_object (a := "from") (b := "to") (by decide) (reads_playState before)
        (reads_playState after)
      simp [event, ofEvent, draft, fieldDrafts, variant, hparts, bind, Except.bind, pure,
        Except.pure]
  | rejected state =>
      have hpart := single_object (a := "state") (reads_playState state)
      simp [event, ofEvent, draft, fieldDrafts, variant, hpart, bind, Except.bind, pure,
        Except.pure]

/-! ### Reports -/

/-- **A report is read back**, however many events it has. -/
theorem reads_report : Reads report ofReport := by
  intro r
  have hevents := reads_list reads_event r.events
  have hparts := triple_object (a := "direction") (b := "events") (c := "play_state") (by decide)
    (by decide) (by decide) (reads_direction r.direction) hevents (reads_playState r.playState)
  simp only [draft] at hparts
  simp [report, ofReport, draft, fieldDrafts, hparts, bind, Except.bind, pure, Except.pure]

end Record

/-- **The text of a report gives the report again**, with every event that it has; so what is
counted and asked of the two is the same. -/
theorem Report.load_saved (r : Report) :
    ∃ after, Report.load r.save = .ok after ∧ after = r ∧
      after.movedCount = r.movedCount ∧ after.changesGrid = r.changesGrid := by
  have hread : Record.decode Record.report r.save = .ok r :=
    (Record.decode_compact _ _).trans (Record.reads_report r)
  exact ⟨r, by rw [Report.load, hread]; rfl, rfl, rfl, rfl⟩

end RuleTiles
