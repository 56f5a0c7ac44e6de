/-
**Reports as records.**

A report is recorded by its direction, its events and the state of play; an event by the name of
its case and its parts.

Main definitions:

* `RuleTiles.Record.ofEvent`, `RuleTiles.Record.event` — writing and reading an event;
* `RuleTiles.Record.ofReport`, `RuleTiles.Record.report` — writing and reading a report.
-/

import RuleTiles.Record.Board
import RuleTiles.Turn.Report

set_option relaxedAutoImplicit false
set_option autoImplicit false

namespace RuleTiles.Record

open Json

/-! ### Leaves -/

/-- A position. -/
def ofPosition (p : Position) : Json :=
  .object [("row", .number p.row.val), ("col", .number p.col.val)]

/-- Reads a position. -/
def position : Decoder Position := fun d => do
  let (row, col) ← pair "row" "col" coord coord d
  return ⟨row, col⟩

/-- A state of play, by its name. -/
def ofPlayState (s : PlayState) : Json := .string s.tag

/-- The state of play with a given name. -/
def playStateOfTag? (tag : String) : Option PlayState :=
  PlayState.all.find? fun s => s.tag == tag

/-- Reads a state of play. -/
def playState : Decoder PlayState := tagged playStateOfTag?

@[simp] theorem playStateOfTag?_tag (s : PlayState) : playStateOfTag? s.tag = some s := by
  cases s <;> decide

/-! ### Events -/

/-- An event, under the name of its case. -/
def ofEvent : Event → Json
  | .moved k source target =>
    .object [("ObjectMoved", .object
      [("kind", ofKind k), ("from", ofPosition source), ("to", ofPosition target)])]
  | .transformed pos source target =>
    .object [("ObjectTransformed", .object
      [("at", ofPosition pos), ("from", ofKind source), ("to", ofKind target)])]
  | .destroyed pos k cause =>
    .object [("ObjectDestroyed", .object
      [("at", ofPosition pos), ("kind", ofKind k), ("cause", ofProperty cause)])]
  | .rulesChanged added removed =>
    .object [("RulesChanged", .object
      [("added", .array (added.map ofRule)), ("removed", .array (removed.map ofRule))])]
  | .stateChanged before after =>
    .object [("StateChanged", .object
      [("from", ofPlayState before), ("to", ofPlayState after)])]
  | .rejected state => .object [("MoveRejected", .object [("state", ofPlayState state)])]

/-- Reads an event. -/
def event : Decoder Event := fun d => do
  match ← variant d with
  | ("ObjectMoved", payload) =>
    let (k, source, target) ← triple "kind" "from" "to" kind position position payload
    return .moved k source target
  | ("ObjectTransformed", payload) =>
    let (pos, source, target) ← triple "at" "from" "to" position kind kind payload
    return .transformed pos source target
  | ("ObjectDestroyed", payload) =>
    let (pos, k, cause) ← triple "at" "kind" "cause" position kind property payload
    return .destroyed pos k cause
  | ("RulesChanged", payload) =>
    let (added, removed) ← pair "added" "removed" (list rule) (list rule) payload
    return .rulesChanged added removed
  | ("StateChanged", payload) =>
    let (before, after) ← pair "from" "to" playState playState payload
    return .stateChanged before after
  | ("MoveRejected", payload) => return .rejected (← single "state" playState payload)
  | _ => .error .malformed

/-! ### Reports -/

/-- A report. -/
def ofReport (r : Report) : Json :=
  .object
    [("direction", ofDirection r.direction), ("events", .array (r.events.map ofEvent)),
     ("play_state", ofPlayState r.playState)]

/-- Reads a report. -/
def report : Decoder Report := fun d => do
  let (direction, events, state) ←
    triple "direction" "events" "play_state" direction (list event) playState d
  return ⟨direction, events, state⟩

end RuleTiles.Record
