/-
**Snapshots of a game.**

A snapshot records everything a game consists of, so that play can go on from it.  The board of a
snapshot has to have the size of the board the game started from.

Main definitions:

* `RuleTiles.Record.ofGame`, `RuleTiles.Record.game` — writing and reading a game;
* `RuleTiles.Game.save`, `RuleTiles.Game.load` — **the text of a game, and the game of a text**;
* `RuleTiles.Grid.save`, `RuleTiles.Grid.load`, `RuleTiles.Report.save`,
  `RuleTiles.Report.load` — the same for a board and for a report.
-/

import RuleTiles.Game
import RuleTiles.Record.Report

set_option relaxedAutoImplicit false
set_option autoImplicit false

namespace RuleTiles

namespace Record

open Json

/-- A word of 64 bits. -/
def ofWord64 (w : UInt64) : Json := .number w.toNat

/-- A game. -/
def ofGame (g : Game) : Json :=
  .object
    [("initial_grid", ofGrid g.initialGrid),
     ("grid", ofGrid g.grid),
     ("rule_manager", .object [("rules", ofRules g.rules)]),
     ("play_state", ofPlayState g.playState),
     ("player_icon", g.playerIcon.elim .null ofKind),
     ("turn_number", ofWord64 g.turnNumber),
     ("seed", ofWord64 g.seed),
     ("rng_state", ofWord64 g.randomState)]

/-- The names of the fields of a game. -/
def gameFields : List String :=
  ["initial_grid", "grid", "rule_manager", "play_state", "player_icon", "turn_number", "seed",
   "rng_state"]

/-- What is known of a game while it is read. -/
structure GameSlots where
  initialGrid : Option Grid := none
  grid : Option Grid := none
  rules : Option RuleSet := none
  playState : Option PlayState := none
  playerIcon : Option (Option Kind) := none
  turnNumber : Option UInt64 := none
  seed : Option UInt64 := none
  randomState : Option UInt64 := none

/-- Takes in one field of a game. -/
def GameSlots.set (s : GameSlots) (name : String) (d : Draft) :
    Except RecordFault GameSlots := do
  match name with
  | "initial_grid" => return { s with initialGrid := ← fill s.initialGrid Record.grid d }
  | "grid" => return { s with grid := ← fill s.grid Record.grid d }
  | "rule_manager" => return { s with rules := ← fill s.rules (single "rules" Record.rules) d }
  | "play_state" => return { s with playState := ← fill s.playState Record.playState d }
  | "player_icon" => return { s with playerIcon := ← fill s.playerIcon (optional kind) d }
  | "turn_number" => return { s with turnNumber := ← fill s.turnNumber word64 d }
  | "seed" => return { s with seed := ← fill s.seed word64 d }
  | _ => return { s with randomState := ← fill s.randomState word64 d }

/-- Reads a game; the kind the player moves may be missing. -/
def game : Decoder Game := fun d => do
  let s ← fields gameFields GameSlots.set {} d
  return {
    initialGrid := ← need s.initialGrid
    grid := ← need s.grid
    rules := ← need s.rules
    playState := ← need s.playState
    playerIcon := s.playerIcon.join
    turnNumber := ← need s.turnNumber
    seed := ← need s.seed
    randomState := ← need s.randomState }

end Record

/-- A result of reading a record, as a result of the library. -/
def ofRecord {α : Type} : Except RecordFault α → Except Error α
  | .ok x => .ok x
  | .error fault => .error (.record fault)

/-! ### Boards and reports -/

/-- The text of a board, in one line. -/
def Grid.save (g : Grid) : String := (Record.ofGrid g).compact

/-- The board of a text. -/
def Grid.load (text : String) : Except Error Grid := ofRecord (Record.decode Record.grid text)

/-- The text of a report, in one line. -/
def Report.save (r : Report) : String := (Record.ofReport r).compact

/-- The report of a text. -/
def Report.load (text : String) : Except Error Report :=
  ofRecord (Record.decode Record.report text)

/-! ### Games -/

namespace Game

/-- **The text of a game**, laid out over several lines. -/
def save (g : Game) : String := (Record.ofGame g).pretty

/-- Whether the board has the size it had at the start. -/
def keepsSize (g : Game) : Bool :=
  g.initialGrid.width = g.grid.width && g.initialGrid.height = g.grid.height

/-- **The game of a text.** -/
def load (text : String) : Except Error Game := do
  let g ← ofRecord (Record.decode Record.game text)
  if g.keepsSize then .ok g
  else .error (.invalidGrid (.sizeChanged g.grid.width g.grid.height g.initialGrid.width
    g.initialGrid.height))

end Game

end RuleTiles
