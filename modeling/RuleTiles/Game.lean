/-
**A session of play.**

A game remembers the board it started from and the seed of its random choices, so that it can be
started over.  A move in a game that has ended is refused; any other move is one turn, after which
the rules, the state of play and the kind the player moves are brought up to date.

Main definitions:

* `RuleTiles.Game`, `RuleTiles.Game.start`, `RuleTiles.Game.reset` — a session and its beginning;
* `RuleTiles.Game.move`, `RuleTiles.Game.moveText`, `RuleTiles.Game.moveCode` — one command;
* `RuleTiles.Game.play` — a list of moves, up to the end of the play.

Main results:

* `RuleTiles.Game.reset_start` — a game that is started over is as good as new;
* `RuleTiles.Game.move_of_isFinished` — an ended game is not changed by a move.
-/

import RuleTiles.Error
import RuleTiles.Turn

set_option relaxedAutoImplicit false
set_option autoImplicit false

namespace RuleTiles

/-- A session of play on one level. -/
structure Game where
  /-- The board at the start. -/
  initialGrid : Grid
  /-- The board now. -/
  grid : Grid
  /-- The rules in force. -/
  rules : RuleSet
  playState : PlayState
  /-- The kind the player moves. -/
  playerIcon : Option Kind
  /-- The number of turns taken. -/
  turnNumber : UInt64
  /-- The seed at the start. -/
  seed : UInt64
  /-- The seed of the next turn. -/
  randomState : UInt64
  deriving DecidableEq

namespace Game

/-! ### Beginning -/

/-- The seed of a game when none is given. -/
def defaultSeed : UInt64 := 12345

/-- A new game on a board. -/
def start (grid : Grid) (seed : UInt64) : Game where
  initialGrid := grid
  grid := grid
  rules := grid.rules
  playState := .playing
  playerIcon := grid.rules.playerIcon?
  turnNumber := 0
  seed := seed
  randomState := seed

/-- The game started over from its first board and its first seed. -/
def reset (g : Game) : Game := start g.initialGrid g.seed

/-- A game that is started over is as good as new. -/
@[simp] theorem reset_start (grid : Grid) (seed : UInt64) :
    (start grid seed).reset = start grid seed := rfl

/-- Whether the play has ended. -/
def isFinished (g : Game) : Bool := g.playState.isFinished

/-! ### Moves -/

/-- The largest number of turns that can be counted. -/
def maxTurns : UInt64 := 18446744073709551615

/-- The game after one turn, with its report. -/
def advance (g : Game) (d : Direction) : Game × Report :=
  let turn := g.grid.resolve g.rules d (.ofSeed g.randomState)
  let after := turn.report.playState
  let ending := if after = g.playState then [] else [Event.stateChanged g.playState after]
  ({ g with
      grid := turn.grid
      rules := turn.rules
      playState := after
      playerIcon := turn.rules.playerIcon?
      turnNumber := g.turnNumber + 1
      randomState := turn.generator.next64.1 },
    { turn.report with events := turn.report.events ++ ending })

/-- **One move.**  It is refused when the play has ended, and fails when the turns can no longer
be counted. -/
def move (g : Game) (d : Direction) : Except Overflow (Game × Report) :=
  if g.isFinished then .ok (g, .rejected d g.playState)
  else if g.turnNumber = maxTurns then .error .add
  else .ok (g.advance d)

/-- A move in a direction that may not have been understood. -/
def moveIn (g : Game) (text : String) : Option Direction → Except Error (Game × Report)
  | none => .error (.invalidDirection text)
  | some d =>
    match g.move d with
    | .ok result => .ok result
    | .error fault => .error (.overflow fault)

/-- A move given by the name of a direction. -/
def moveText (g : Game) (text : String) : Except Error (Game × Report) :=
  g.moveIn text (Direction.parse? text)

/-- A move given by the code of a direction. -/
def moveCode (g : Game) (code : Nat) : Except Error (Game × Report) :=
  g.moveIn (toString code) (Direction.ofCode? code)

/-- Plays moves one after another and stops when the play has ended. -/
def play (g : Game) : List Direction → Except Overflow (Game × List Report)
  | [] => .ok (g, [])
  | d :: rest =>
    if g.isFinished then .ok (g, [])
    else do
      let (g, report) ← g.move d
      let (g, reports) ← g.play rest
      return (g, report :: reports)

/-- An ended game is not changed by a move. -/
theorem move_of_isFinished {g : Game} (h : g.isFinished = true) (d : Direction) :
    g.move d = .ok (g, .rejected d g.playState) := by
  simp [move, h]

end Game

end RuleTiles
