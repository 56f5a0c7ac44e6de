/-
**Sessions of commands.**

A session is a game that is given one command after another: a move, by its direction, by a name or
by a code; a list of moves; starting over; or being saved and going on from the text.  A name or a
code that is no direction leaves the game as it was.  Every command that is not about the game as a
whole is the play of the directions it asks for.

Main definitions:

* `RuleTiles.Command`, `RuleTiles.Command.directions` — a command, and the directions it asks for;
* `RuleTiles.Game.obey`, `RuleTiles.Game.session` — the game after a command, and after several;
* `RuleTiles.Game.Obtained` — the games that can come about.

Main results:

* `RuleTiles.Game.obey_eq_play` — **a command is the play of its directions**;
* `RuleTiles.Game.keepsSize_of_session` — the board keeps its size in a session;
* `RuleTiles.Game.load_save_of_obtained` — **whatever game came about, its text gives it again**.
-/

import RuleTiles.Proofs.Board.Size
import RuleTiles.Proofs.Record.Codecs

set_option relaxedAutoImplicit false
set_option autoImplicit false

namespace RuleTiles

/-- A command of a session. -/
inductive Command
  /-- A move in a direction. -/
  | move (d : Direction)
  /-- A move in the direction with a name, which may be no name of a direction. -/
  | text (name : String)
  /-- A move in the direction with a code, which may be no code of a direction. -/
  | code (n : Nat)
  /-- Moves one after another. -/
  | play (moves : List Direction)
  /-- Starting over. -/
  | reset
  /-- Saving the game and going on from its text. -/
  | reload
  deriving DecidableEq

namespace Command

/-- The directions that a command asks for, whether or not they will be accepted. -/
def directions : Command → List Direction
  | move d => [d]
  | text name => (Direction.parse? name).toList
  | code n => (Direction.ofCode? n).toList
  | play moves => moves
  | reset => []
  | reload => []

end Command

namespace Game

/-! ### Commands -/

/-- The game that counted moves leave behind. -/
def counted {α : Type} : Except Overflow (Game × α) → Except Error Game
  | .ok (after, _) => .ok after
  | .error fault => .error (.overflow fault)

/-- The game that a move leaves behind when its direction had to be understood.  One that was not
leaves the game as it was. -/
def understood (g : Game) : Except Error (Game × Report) → Except Error Game
  | .ok (after, _) => .ok after
  | .error (.invalidDirection _) => .ok g
  | .error e => .error e

/-- The game after a command. -/
def obey (g : Game) : Command → Except Error Game
  | .move d => counted (g.move d)
  | .text name => g.understood (g.moveText name)
  | .code n => g.understood (g.moveCode n)
  | .play moves => counted (g.play moves)
  | .reset => .ok g.reset
  | .reload => load g.save

/-- **A session**: the game after commands, one after another. -/
def session (g : Game) (commands : List Command) : Except Error Game := commands.foldlM obey g

theorem session_cons (g : Game) (c : Command) (rest : List Command) :
    g.session (c :: rest) = (g.obey c).bind fun after => after.session rest := rfl

theorem session_append (g : Game) (first second : List Command) :
    g.session (first ++ second) = (g.session first).bind fun after => after.session second :=
  List.foldlM_append

/-! ### Commands as play -/

theorem counted_move (g : Game) (d : Direction) : counted (g.move d) = counted (g.play [d]) := by
  cases hf : g.isFinished with
  | true => rw [move_of_isFinished hf, play_of_isFinished hf, counted, counted]
  | false =>
      cases hmove : g.move d with
      | error fault => simp [play, hf, hmove, counted, bind, Except.bind]
      | ok result => simp [play, hf, hmove, counted, bind, Except.bind, pure, Except.pure]

theorem understood_moveIn (g : Game) (text : String) (d : Option Direction) :
    g.understood (g.moveIn text d) = counted (g.play d.toList) := by
  cases d with
  | none => rfl
  | some d =>
      rw [Option.toList_some, ← counted_move]
      cases hmove : g.move d with
      | error fault => simp [moveIn, hmove, understood, counted]
      | ok result => simp [moveIn, hmove, understood, counted]

/-- **A command is the play of its directions**, unless the game is started over or loaded. -/
theorem obey_eq_play (g : Game) {c : Command} (hreset : c ≠ .reset) (hreload : c ≠ .reload) :
    g.obey c = counted (g.play c.directions) := by
  cases c with
  | move d => exact counted_move g d
  | text name => exact understood_moveIn g _ _
  | code n => exact understood_moveIn g _ _
  | play moves => rfl
  | reset => exact absurd rfl hreset
  | reload => exact absurd rfl hreload

/-! ### The size of the board -/

theorem keepsSize_of_leads {g h : Game} {moves : List Direction} (hg : g.keepsSize = true)
    (hrun : Leads g moves h) : h.keepsSize = true := by
  induction hrun with
  | nil g => exact hg
  | cons _ hmove _ ih => exact ih (keepsSize_of_move hg hmove)

theorem keepsSize_of_obey {g h : Game} {c : Command} (hg : g.keepsSize = true)
    (hobey : g.obey c = .ok h) : h.keepsSize = true := by
  by_cases hreset : c = .reset
  · subst hreset
    cases hobey
    exact keepsSize_start _ _
  by_cases hreload : c = .reload
  · subst hreload
    exact keepsSize_of_load hobey
  rw [obey_eq_play g hreset hreload] at hobey
  cases hplay : g.play c.directions with
  | error fault => simp [hplay, counted] at hobey
  | ok result =>
      obtain ⟨after, reports⟩ := result
      rw [hplay, counted, Except.ok.injEq] at hobey
      subst hobey
      obtain ⟨taken, _, _, hrun, _⟩ := leads_of_play hplay
      exact keepsSize_of_leads hg hrun

/-- **The board keeps its size in a session.** -/
theorem keepsSize_of_session {g h : Game} {commands : List Command} (hg : g.keepsSize = true)
    (hsession : g.session commands = .ok h) : h.keepsSize = true := by
  induction commands generalizing g with
  | nil =>
      cases hsession
      exact hg
  | cons c rest ih =>
      rw [session_cons] at hsession
      cases hobey : g.obey c with
      | error e => simp [hobey, Except.bind] at hsession
      | ok mid =>
          rw [hobey] at hsession
          exact ih (keepsSize_of_obey hg hobey) hsession

/-! ### Saving whatever came about -/

/-- The games that can come about: new ones, those that a text was accepted for, and what commands
make of them. -/
inductive Obtained : Game → Prop
  | start (grid : Grid) (seed : UInt64) : Obtained (start grid seed)
  | load {text : String} {g : Game} (h : load text = .ok g) : Obtained g
  | obey {g h : Game} {c : Command} (hg : Obtained g) (hobey : g.obey c = .ok h) : Obtained h

theorem Obtained.keepsSize {g : Game} (h : Obtained g) : g.keepsSize = true := by
  induction h with
  | start grid seed => exact keepsSize_start grid seed
  | load h => exact keepsSize_of_load h
  | obey _ hobey ih => exact keepsSize_of_obey ih hobey

/-- **Whatever game came about, its text gives it again**, the same in every part. -/
theorem load_save_of_obtained {g : Game} (h : Obtained g) : load g.save = .ok g :=
  load_save h.keepsSize

/-! ### A snapshot that no play writes -/

/-- A piece of a snapshot. -/
def tangledPiece (kind : String) (facing : Json) : Json :=
  .object [("facing", facing), ("kind", .string kind)]

/-- A board on which a rock is entered twice, with different facings, and pieces are entered that
lie on no cell. -/
def tangledBoard : Json :=
  .object
    [("cells", .array
        [.array [tangledPiece "TextBaba" .null], .array [tangledPiece "TextIs" .null],
          .array [tangledPiece "TextYou" .null],
          .array [tangledPiece "Rock" (.string "Left"), tangledPiece "Empty" .null,
            tangledPiece "Rock" (.string "Up")],
          .array [tangledPiece "Baba" .null], .array [tangledPiece "Text" (.string "Down")]]),
     ("height", .number 2), ("width", .number 3)]

/-- A rule of a snapshot. -/
def tangledRule (subject property : String) : Json :=
  .object [("predicate", .object [("Property", .string property)]), ("subject", .string subject)]

/-- A snapshot with its fields out of order, without a player icon, with rules that are not those
of its board, out of order and twice, and with counters at the end of their range. -/
def tangled : Json :=
  .object
    [("rng_state", .number 18446744073709551615), ("grid", tangledBoard),
     ("turn_number", .number 18446744073709551614), ("initial_grid", tangledBoard),
     ("rule_manager", .object [("rules", .array
        [tangledRule "Rock" "You", tangledRule "Baba" "Push", tangledRule "Rock" "You"])]),
     ("play_state", .string "Playing"), ("seed", .number 0)]

/-- The board of that snapshot. -/
def tangledGrid : Grid :=
  .ofFitting 3 2
    #[.ofKinds [.word .baba], .ofKinds [.is], .ofKinds [.property .you],
      .ofPieces [⟨.icon .rock, some .up⟩], .ofKinds [.icon .baba], .empty]
    (by decide)

/-- The game of that snapshot. -/
def tangledGame : Game where
  initialGrid := tangledGrid
  grid := tangledGrid
  rules := .ofList [⟨.icon .baba, .property .push⟩, ⟨.icon .rock, .property .you⟩]
  playState := .playing
  playerIcon := none
  turnNumber := 18446744073709551614
  seed := 0
  randomState := 18446744073709551615

theorem load_tangled : load tangled.pretty = .ok tangledGame := by
  have hread : Record.game tangled.draft = .ok tangledGame := by rfl
  exact load_pretty hread (by rfl)

/-- The game of that snapshot is loaded from the text it is saved as. -/
theorem load_save_tangledGame : load tangledGame.save = .ok tangledGame :=
  load_save_of_obtained (.load load_tangled)

end Game

end RuleTiles
