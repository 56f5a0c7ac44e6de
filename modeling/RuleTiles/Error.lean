/-
**What can go wrong, and how it is said.**

Main definitions:

* `RuleTiles.LevelFault` — what is wrong with a line of a level;
* `RuleTiles.FileFault` — why a level file cannot be read;
* `RuleTiles.RecordFault` — why a saved record cannot be read;
* `RuleTiles.Error` — any of these, and the faults of single commands;
* `RuleTiles.Error.message`, `RuleTiles.Error.detail` — the sentence for the player, and the form
  in which the command line ends.
-/

import RuleTiles.Grid.Access
import RuleTiles.Text.Quoted

set_option relaxedAutoImplicit false
set_option autoImplicit false

namespace RuleTiles

/-! ### Causes -/

/-- What is wrong with a line of a level. -/
inductive LevelFault
  /-- There is no line that could be the header. -/
  | missingHeader
  /-- The header does not consist of two words. -/
  | malformedHeader
  /-- A word of the header is not a number. -/
  | invalidDimension (word : String)
  /-- No board has the size in the header. -/
  | unsupportedSize (width height : Nat)
  /-- There is a line after the last row. -/
  | extraRow (height : Nat)
  /-- A row has the wrong number of cells. -/
  | cellCount (width found : Nat)
  /-- The text ends before the last row. -/
  | missingRows (height found : Nat)
  /-- A name is not that of a kind. -/
  | unknownObject (name : String)
  /-- A facing is not a direction. -/
  | invalidFacing (name : String)
  deriving DecidableEq

/-- The sentence that reports a fault of a level. -/
def LevelFault.message : LevelFault → String
  | missingHeader => "missing '<width> <height>' header"
  | malformedHeader => "header must be '<width> <height>'"
  | invalidDimension word => "invalid dimension '" ++ word ++ "'"
  | unsupportedSize w h => "unsupported grid size " ++ Grid.sizeText w h
  | extraRow height => "expected " ++ toString height ++ " rows, found more"
  | cellCount width found =>
      "expected " ++ toString width ++ " cells, found " ++ toString found
  | missingRows height found =>
      "expected " ++ toString height ++ " rows, found " ++ toString found
  | unknownObject name => "unknown object '" ++ name ++ "'"
  | invalidFacing name => "invalid facing '" ++ name ++ "'"

/-- Why a level file cannot be read. -/
inductive FileFault
  /-- There is no such file. -/
  | missing
  /-- The file is not text in UTF-8. -/
  | notText
  deriving DecidableEq

/-- The sentence that reports an unreadable file. -/
def FileFault.message : FileFault → String
  | missing => "No such file or directory (os error 2)"
  | notText => "stream did not contain valid UTF-8"

/-- Why a saved record cannot be read. -/
inductive RecordFault
  /-- The text is not JSON, or not of the form of the record. -/
  | malformed
  /-- The record is of the right form, but its cells do not make a board. -/
  | invalidGrid (fault : Grid.Fault)
  deriving DecidableEq

/-- Anything that can go wrong. -/
inductive Error
  /-- A position is not on the board. -/
  | outOfBounds (fault : Grid.OutOfBounds)
  /-- A command is not a direction. -/
  | invalidDirection (text : String)
  /-- Cells do not make a board. -/
  | invalidGrid (fault : Grid.Fault)
  /-- A name is not that of a kind. -/
  | unknownObject (text : String)
  /-- A level has a fault in a line, counted from 1. -/
  | level (line : Nat) (fault : LevelFault)
  /-- A level file cannot be read. -/
  | unreadable (fault : FileFault)
  /-- A saved record cannot be read. -/
  | record (fault : RecordFault)
  /-- A number left its range. -/
  | overflow (fault : Overflow)
  deriving DecidableEq

namespace Error

/-- The sentence that reports a board that cannot be made. -/
def gridMessage (fault : Grid.Fault) : String := "Invalid grid: " ++ fault.message

/-- The sentence that reports an error. -/
def message : Error → String
  | outOfBounds fault => fault.message
  | invalidDirection text => "Invalid direction: " ++ text
  | invalidGrid fault => gridMessage fault
  | unknownObject text => "Unknown object: " ++ text
  | level line fault =>
      "Map parse error on line " ++ toString line ++ ": " ++ fault.message
  | unreadable fault => "I/O error: " ++ fault.message
  | record .malformed => "Serialization error"
  | record (.invalidGrid fault) => "Serialization error: " ++ gridMessage fault
  | overflow fault => fault.message

/-- The form in which an error ends a run of the command line. -/
def detail : Error → String
  | outOfBounds fault =>
      "OutOfBounds \x7b row: " ++ toString fault.pos.row.val ++ ", col: " ++
        toString fault.pos.col.val ++ ", width: " ++ toString fault.width ++ ", height: " ++
        toString fault.height ++ " \x7d"
  | invalidDirection text => "InvalidDirection(" ++ quoted text ++ ")"
  | invalidGrid fault => "InvalidGrid(" ++ quoted fault.message ++ ")"
  | unknownObject text => "UnknownObject(" ++ quoted text ++ ")"
  | level line fault =>
      "MapParse \x7b line: " ++ toString line ++ ", message: " ++ quoted fault.message ++ " \x7d"
  | unreadable .missing =>
      "Io(Os \x7b code: 2, kind: NotFound, message: \"No such file or directory\" \x7d)"
  | unreadable .notText =>
      "Io(Error \x7b kind: InvalidData, message: \"stream did not contain valid UTF-8\" \x7d)"
  | record .malformed => "MalformedRecord"
  | record (.invalidGrid fault) => "InvalidGrid(" ++ quoted fault.message ++ ")"
  | overflow fault => fault.message

end Error

end RuleTiles
