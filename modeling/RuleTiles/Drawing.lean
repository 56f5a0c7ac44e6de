/-
**Drawing boards as text.**

Each cell is drawn as one character and each row as one line.  When several objects share a cell,
a word tile is shown before anything else, then an icon the player moves, then any other; among
equals the first in catalog order is shown.

Main definitions:

* `RuleTiles.Kind.glyph` — the character for a kind;
* `RuleTiles.Cell.top?`, `RuleTiles.Cell.draw` — the object that is shown;
* `RuleTiles.Grid.draw`, `RuleTiles.Game.draw` — a board, and a board with a status line and the
  rules in force.

Main results:

* `RuleTiles.Kind.glyph_injective` — a glyph tells the kind.
-/

import RuleTiles.Game

set_option relaxedAutoImplicit false
set_option autoImplicit false

namespace RuleTiles

/-! ### Glyphs -/

/-- The glyph of a cell on which nothing lies. -/
def emptyGlyph : Char := '.'

/-- The character that stands for a kind. -/
def Kind.glyph : Kind → Char
  | .icon .empty => emptyGlyph
  | .icon .baba => 'B'
  | .icon .wall => '#'
  | .icon .rock => 'O'
  | .icon .tile => '_'
  | .icon .flag => 'F'
  | .icon .water => '~'
  | .icon .lava => '^'
  | .icon .skull => 'X'
  | .icon .grass => '"'
  | .icon .text => 'T'
  | .word .empty => 'e'
  | .word .baba => 'b'
  | .word .wall => 'w'
  | .word .rock => 'r'
  | .word .tile => 't'
  | .word .flag => 'f'
  | .word .water => 'a'
  | .word .lava => 'l'
  | .word .skull => 's'
  | .word .grass => 'g'
  | .word .text => 'x'
  | .is => '='
  | .property .you => '@'
  | .property .win => '!'
  | .property .stop => '|'
  | .property .push => '>'
  | .property .defeat => '*'
  | .property .sink => '0'
  | .property .hot => '&'
  | .property .melt => '$'
  | .property .move => '%'

/-- A glyph tells the kind. -/
theorem Kind.glyph_injective {a b : Kind} (h : a.glyph = b.glyph) : a = b := by
  have key : ∀ a ∈ Kind.all, ∀ b ∈ Kind.all, a.glyph = b.glyph → a = b := by decide +kernel
  exact key a (mem_all a) b (mem_all b) h

/-! ### Cells -/

/-- The object that is shown for a cell: the first word tile, else the first icon the rules make
YOU, else the first icon. -/
def Cell.top? (c : Cell) (rules : RuleSet) : Option Kind :=
  c.kinds.find? Kind.isText <|> c.kinds.find? (fun k => rules.states k .you) <|> c.kinds.head?

/-- The character drawn for a cell. -/
def Cell.draw (c : Cell) (rules : RuleSet) : Char :=
  match c.top? rules with
  | some k => k.glyph
  | none => emptyGlyph

/-! ### Boards -/

/-- The rows of a drawing, from top to bottom. -/
def Grid.drawRows (g : Grid) (rules : RuleSet) : List (List Char) :=
  (List.range g.height).map fun (row : Nat) =>
    (List.range g.width).map fun (col : Nat) => (g.cell (.clamp row col)).draw rules

/-- A board drawn under some rules, one line per row. -/
def Grid.drawWith (g : Grid) (rules : RuleSet) : String :=
  .ofList (List.intercalate ['\n'] (g.drawRows rules))

/-- A board drawn without regard to any rules. -/
def Grid.draw (g : Grid) : String := g.drawWith .empty

/-- The name of the kind the player moves. -/
def Game.playerText (g : Game) : String :=
  match g.playerIcon with
  | some k => k.name
  | none => "none"

/-- The line under a drawing that tells how the game stands. -/
def Game.statusLine (g : Game) : String :=
  "Turn " ++ toString g.turnNumber.toNat ++ " | " ++ g.playState.tag ++ " | player: " ++
    g.playerText

/-- A game drawn with its status line and the rules in force. -/
def Game.draw (g : Game) : String :=
  g.grid.drawWith g.rules ++ "\n" ++ g.statusLine ++
    String.join (g.rules.texts.map fun r => "\n  " ++ r)

end RuleTiles
