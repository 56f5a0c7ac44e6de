/-
**What happened in a turn.**

A turn is reported as the direction asked for, the events in the order in which they came about,
and how the play stands afterwards.

Main definitions:

* `RuleTiles.PlayState` — going on, won or lost;
* `RuleTiles.Event` — one thing that happened;
* `RuleTiles.Report`, with `RuleTiles.Report.movedCount` and `RuleTiles.Report.changesGrid`.
-/

import RuleTiles.Grid
import RuleTiles.Rule

set_option relaxedAutoImplicit false
set_option autoImplicit false

namespace RuleTiles

/-! ### The state of play -/

/-- How the play stands. -/
inductive PlayState
  /-- Moves are accepted. -/
  | playing
  /-- A YOU object reached a WIN object. -/
  | won
  /-- Nothing can be moved by the player any more. -/
  | lost
  deriving DecidableEq, Hashable, Repr

namespace PlayState

/-- The three states. -/
def all : List PlayState := [playing, won, lost]

/-- Whether the play has ended; moves are then refused. -/
def isFinished : PlayState → Bool
  | playing => false
  | won | lost => true

/-- The name of a state. -/
def tag : PlayState → String
  | playing => "Playing"
  | won => "Won"
  | lost => "Lost"

@[simp] theorem isFinished_eq_false_iff {s : PlayState} : s.isFinished = false ↔ s = playing := by
  cases s <;> decide

end PlayState

/-! ### Events -/

/-- One thing that happened in a turn. -/
inductive Event
  /-- An object stepped or was pushed one cell. -/
  | moved (kind : Kind) (source target : Position)
  /-- An object turned into another. -/
  | transformed (pos : Position) (source target : Kind)
  /-- An object was taken off the board on account of a property. -/
  | destroyed (pos : Position) (kind : Kind) (cause : Property)
  /-- The rules in force differ from those before the turn. -/
  | rulesChanged (added removed : List Rule)
  /-- The state of play changed. -/
  | stateChanged (before after : PlayState)
  /-- The move was refused because the play had ended. -/
  | rejected (state : PlayState)
  deriving DecidableEq

namespace Event

/-- Whether an object changed its cell. -/
def isMove : Event → Bool
  | moved .. => true
  | _ => false

/-- Whether an object changed its cell or its kind or was taken off the board. -/
def changesGrid : Event → Bool
  | moved .. | transformed .. | destroyed .. => true
  | _ => false

end Event

/-- The account of one move command. -/
structure Report where
  /-- The direction asked for. -/
  direction : Direction
  /-- What happened, in order. -/
  events : List Event
  /-- How the play stands after the turn. -/
  playState : PlayState
  deriving DecidableEq

namespace Report

/-- The report of a move that is refused in a given state. -/
def rejected (d : Direction) (state : PlayState) : Report := ⟨d, [.rejected state], state⟩

/-- The number of objects that changed their cell; one moved twice counts twice. -/
def movedCount (r : Report) : Nat := r.events.countP Event.isMove

/-- Whether an object changed its cell or its kind or was taken off.  Turning on the spot does not
count. -/
def changesGrid (r : Report) : Bool := r.events.any Event.changesGrid

end Report

end RuleTiles
