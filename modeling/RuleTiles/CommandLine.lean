/-
**The command line.**

A run of the command line reads a level, draws it, looks for a shortest win if it is asked to,
plays the given moves and then random ones, and draws the game again.  The first error ends it.

Main definitions:

* `RuleTiles.CommandLine.Options` — what a run is asked to do;
* `RuleTiles.CommandLine.readMoves`, `RuleTiles.CommandLine.writeMoves` — moves as letters;
* `RuleTiles.CommandLine.randomWalk` — random moves;
* `RuleTiles.CommandLine.Outcome`, `RuleTiles.CommandLine.run` — **a run and what it prints**.

Main results:

* `RuleTiles.CommandLine.readMoves_writeMoves` — letters are read back as the moves they stand for.
-/

import RuleTiles.Drawing
import RuleTiles.Level
import RuleTiles.Search

set_option relaxedAutoImplicit false
set_option autoImplicit false

namespace RuleTiles.CommandLine

/-- What a run is asked to do. -/
structure Options where
  /-- The moves to play, a letter each. -/
  moves : Option String := none
  /-- Whether to look for a shortest win from the start. -/
  solve : Bool := false
  /-- The longest list of moves the search considers. -/
  maxMoves : Nat := SearchLimits.defaultMoves
  /-- The seed of all random choices. -/
  seed : UInt64 := Game.defaultSeed
  /-- The number of random moves to play. -/
  randomSteps : Nat := 0
  deriving DecidableEq

/-! ### Moves as letters -/

/-- Whether a character only separates moves. -/
def isSeparator (c : Char) : Bool := isBlank c || c = ','

/-- The move that a character stands for. -/
def readMove (c : Char) : Except Error Direction :=
  match Direction.ofChars? [c] with
  | some d => .ok d
  | none => .error (.invalidDirection (.ofList [c]))

/-- The moves that the characters of a text stand for, separators left aside. -/
def readMoves (text : String) : Except Error (List Direction) :=
  (text.toList.filter fun c => !isSeparator c).mapM readMove

/-- Moves as letters. -/
def writeMoves (moves : List Direction) : String := .ofList (moves.map Direction.letter)

/-- Letters are read back as the moves they stand for. -/
theorem readMoves_writeMoves (moves : List Direction) :
    readMoves (writeMoves moves) = .ok moves := by
  -- no letter is dropped as a separator
  have kept : (moves.map Direction.letter).filter (fun c => !isSeparator c) =
      moves.map Direction.letter := by
    refine List.filter_eq_self.2 fun c hc => ?_
    obtain ⟨d, _, rfl⟩ := List.mem_map.1 hc
    cases d <;> decide
  rw [readMoves, writeMoves, String.toList_ofList, kept]
  clear kept
  induction moves with
  | nil => rfl
  | cons d rest ih =>
    have hd : readMove d.letter = .ok d := by simp [readMove]
    rw [List.map_cons, List.mapM_cons, hd]
    simp [ih, bind, Except.bind, pure, Except.pure]

/-! ### The parts of a run -/

/-- What the search for a win prints. -/
def solution (g : Game) (maxMoves : Nat) : Except Overflow String := do
  match ← g.solve (.ofMoves maxMoves) with
  | some moves =>
    return "Solution (" ++ toString moves.length ++ " moves): " ++ writeMoves moves ++ "\n\n"
  | none => return "No solution found\n\n"

/-- Plays random moves, at most `n`, until the play has ended. -/
def randomWalk : Nat → Generator → Game → Except Overflow Game
  | 0, _, g => .ok g
  | n + 1, gen, g =>
    if g.isFinished then .ok g
    else do
      let (d, gen) := gen.walk
      let (g, _) ← g.move d
      randomWalk n gen g

/-- A result with an overflow as an error of the library. -/
def ofOverflow {α : Type} : Except Overflow α → Except Error α
  | .ok x => .ok x
  | .error fault => .error (.overflow fault)

/-- The game after the given moves and the random ones. -/
def playAll (o : Options) (g : Game) : Except Error Game := do
  let moves ← readMoves (o.moves.getD "")
  let (g, _) ← ofOverflow (g.play moves)
  ofOverflow (randomWalk o.randomSteps (.ofSeed o.seed) g)

/-! ### A run -/

/-- What a run prints, and the error that ended it. -/
structure Outcome where
  output : String
  error : Option Error

/-- The exit code of a run. -/
def Outcome.exitCode (r : Outcome) : Nat := if r.error.isSome then 1 else 0

/-- The line that a run ends with when there was an error. -/
def Outcome.errorLine (r : Outcome) : Option String := r.error.map fun e => "Error: " ++ e.detail

/-- What is printed before any move is played. -/
def opening (o : Options) (g : Game) : Except Overflow String := do
  let found ← if o.solve then solution g o.maxMoves else .ok ""
  return g.draw ++ "\n\n" ++ found

/-- **A run** on a level file, given by its bytes if there is such a file. -/
def run (o : Options) (file : Option ByteArray) : Outcome :=
  match Level.ofFile file with
  | .error e => ⟨"", some e⟩
  | .ok grid =>
    let g := Game.start grid o.seed
    match opening o g with
    | .error fault => ⟨g.draw ++ "\n\n", some (.overflow fault)⟩
    | .ok opening =>
      match playAll o g with
      | .error e => ⟨opening, some e⟩
      | .ok g => ⟨opening ++ g.draw ++ "\n", none⟩

end RuleTiles.CommandLine
