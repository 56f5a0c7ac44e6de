/-
**Boards and rules as records.**

A board is recorded by its sides and its cells row by row, a cell by its pieces in catalog order,
and a piece by its kind and, when it has one, its facing.  When a board is read, the pieces of a
cell are put on it one after another.

Main definitions:

* `RuleTiles.Record.ofGrid`, `RuleTiles.Record.grid` — writing and reading a board;
* `RuleTiles.Record.ofRule`, `RuleTiles.Record.rule`, `RuleTiles.Record.ofRules`,
  `RuleTiles.Record.rules` — writing and reading rules.
-/

import RuleTiles.Record.Decoding
import RuleTiles.Rule

set_option relaxedAutoImplicit false
set_option autoImplicit false

namespace RuleTiles.Record

open Json

/-! ### Kinds and directions -/

/-- A kind, by its name. -/
def ofKind (k : Kind) : Json := .string k.tag

/-- Reads a kind. -/
def kind : Decoder Kind := tagged Kind.ofTag?

/-- A property, by its name. -/
def ofProperty (p : Property) : Json := .string p.tag

/-- Reads a property. -/
def property : Decoder Property := tagged Property.ofTag?

/-- A direction, by its name. -/
def ofDirection (d : Direction) : Json := .string d.tag

/-- The direction with a given name in records. -/
def directionOfTag? (tag : String) : Option Direction :=
  Direction.all.find? fun d => d.tag == tag

/-- Reads a direction. -/
def direction : Decoder Direction := tagged directionOfTag?

@[simp] theorem directionOfTag?_tag (d : Direction) : directionOfTag? d.tag = some d := by
  cases d <;> decide

/-! ### Cells -/

/-- A piece; a facing is written only when there is one. -/
def ofPiece (p : Piece) : Json :=
  .object (("kind", ofKind p.kind) ::
    match p.facing with
    | some d => [("facing", ofDirection d)]
    | none => [])

/-- Reads a piece; its facing may be missing. -/
def piece : Decoder Piece := fun d => do
  let (kind, facing) ← pairOptional "kind" "facing" kind direction d
  return ⟨kind, facing⟩

/-- A cell, by its pieces. -/
def ofCell (c : Cell) : Json := .array (c.pieces.map ofPiece)

/-- Reads a cell. -/
def cell : Decoder Cell := fun d => return .ofPieces (← list piece d)

/-! ### Boards -/

/-- A board. -/
def ofGrid (g : Grid) : Json :=
  .object
    [("width", .number g.width), ("height", .number g.height),
     ("cells", .array (g.cells.toList.map ofCell))]

/-- The board with given sides and cells; when they make no board, that is the fault. -/
def makeGrid (width height : Nat) (cells : List Cell) : Except RecordFault Grid :=
  match Grid.ofCells width height cells.toArray with
  | .ok g => .ok g
  | .error fault => .error (.invalidGrid fault)

/-- Reads a board.  Its size is judged once all of its fields are there. -/
def grid : Decoder Grid := fun d => do
  let (width, height, cells) ←
    triple "width" "height" "cells" (natural maxWord) (natural maxWord) (list cell) d
  makeGrid width height cells

/-! ### Rules -/

/-- A predicate: what kind of statement it is, with its property or its target. -/
def ofPredicate : Predicate → Json
  | .property p => .object [("Property", ofProperty p)]
  | .becomes k => .object [("Becomes", ofKind k)]

/-- Reads a predicate. -/
def predicate : Decoder Predicate := fun d => do
  match ← variant d with
  | ("Property", payload) => return .property (← property payload)
  | ("Becomes", payload) => return .becomes (← kind payload)
  | _ => .error .malformed

/-- A rule. -/
def ofRule (r : Rule) : Json :=
  .object [("subject", ofKind r.subject), ("predicate", ofPredicate r.predicate)]

/-- Reads a rule. -/
def rule : Decoder Rule := fun d => do
  let (subject, predicate) ← pair "subject" "predicate" kind predicate d
  return ⟨subject, predicate⟩

/-- The rules of a set in their order. -/
def ofRules (rules : RuleSet) : Json := .array (rules.toList.map ofRule)

/-- Reads a set of rules; order and repetition do not matter. -/
def rules : Decoder RuleSet := fun d => return .ofList (← list rule d)

end RuleTiles.Record
