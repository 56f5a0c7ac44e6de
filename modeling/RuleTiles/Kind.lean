/-
**The catalog of kinds.**

Everything that can lie on the board has a kind.  An *icon* is a piece of the game; a *word* is a
tile with writing on it.  There is one naming word for each icon, the linking word IS, and a word
for each property a rule can grant.

Two icons never lie on the board.  `empty` stands for a cell on which nothing lies, and `text` for
every word tile at once.

Main definitions:

* `RuleTiles.Noun`, `RuleTiles.Property` — what can be named and what can be granted;
* `RuleTiles.Kind` — an icon, the word for it, the word IS, or the word for a property;
* `RuleTiles.Kind.index`, `RuleTiles.Kind.all` — the catalog order;
* `RuleTiles.Kind.isText`, `RuleTiles.Kind.isPlaceable` — word tiles, and what may lie on a cell;
* `RuleTiles.Kind.name`, `RuleTiles.Kind.ofChars?` — names in level texts;
* `RuleTiles.Kind.tag`, `RuleTiles.Kind.ofTag?` — names in records.

Main results:

* `RuleTiles.Kind.ofChars?_name`, `RuleTiles.Kind.ofTag?_tag` — names are read back;
* `RuleTiles.Kind.mem_all` — the catalog is complete.
-/

import RuleTiles.Text.Blank

set_option relaxedAutoImplicit false
set_option autoImplicit false

namespace RuleTiles

/-! ### Nouns -/

/-- What a naming word can name. -/
inductive Noun
  | empty
  | baba
  | wall
  | rock
  | tile
  | flag
  | water
  | lava
  | skull
  | grass
  | text
  deriving DecidableEq, Hashable, Repr

namespace Noun

/-- The nouns in catalog order. -/
def all : List Noun :=
  [empty, baba, wall, rock, tile, flag, water, lava, skull, grass, text]

/-- The place of a noun in the catalog. -/
def index : Noun → Nat
  | empty => 0
  | baba => 1
  | wall => 2
  | rock => 3
  | tile => 4
  | flag => 5
  | water => 6
  | lava => 7
  | skull => 8
  | grass => 9
  | text => 10

/-- The name of a noun in level texts. -/
def name : Noun → String
  | empty => "empty"
  | baba => "baba"
  | wall => "wall"
  | rock => "rock"
  | tile => "tile"
  | flag => "flag"
  | water => "water"
  | lava => "lava"
  | skull => "skull"
  | grass => "grass"
  | text => "text"

/-- The name of a noun in records. -/
def tag : Noun → String
  | empty => "Empty"
  | baba => "Baba"
  | wall => "Wall"
  | rock => "Rock"
  | tile => "Tile"
  | flag => "Flag"
  | water => "Water"
  | lava => "Lava"
  | skull => "Skull"
  | grass => "Grass"
  | text => "Text"

end Noun

/-! ### Properties -/

/-- What a rule can grant to a noun. -/
inductive Property
  | you
  | win
  | stop
  | push
  | defeat
  | sink
  | hot
  | melt
  | move
  deriving DecidableEq, Hashable, Repr

namespace Property

/-- The properties in catalog order. -/
def all : List Property := [you, win, stop, push, defeat, sink, hot, melt, move]

/-- The place of a property among the properties. -/
def index : Property → Nat
  | you => 0
  | win => 1
  | stop => 2
  | push => 3
  | defeat => 4
  | sink => 5
  | hot => 6
  | melt => 7
  | move => 8

/-- The word for a property in level texts. -/
def name : Property → String
  | you => "you"
  | win => "win"
  | stop => "stop"
  | push => "push"
  | defeat => "defeat"
  | sink => "sink"
  | hot => "hot"
  | melt => "melt"
  | move => "move"

/-- The name of a property in records. -/
def tag : Property → String
  | you => "You"
  | win => "Win"
  | stop => "Stop"
  | push => "Push"
  | defeat => "Defeat"
  | sink => "Sink"
  | hot => "Hot"
  | melt => "Melt"
  | move => "Move"

/-- The property with a given name in records. -/
def ofTag? (tag : String) : Option Property := all.find? fun p => p.tag == tag

@[simp] theorem ofTag?_tag (p : Property) : ofTag? p.tag = some p := by cases p <;> decide

/-- The word for a property, in capitals. -/
def text (p : Property) : String := p.name.toUpper

end Property

/-! ### Kinds -/

/-- The kind of an object: a piece of the game or a tile with a word on it. -/
inductive Kind
  /-- The piece that a noun names. -/
  | icon (n : Noun)
  /-- The tile with a noun on it. -/
  | word (n : Noun)
  /-- The tile that links the two ends of a sentence. -/
  | is
  /-- The tile with a property on it. -/
  | property (p : Property)
  deriving DecidableEq, Repr

namespace Kind

instance : Inhabited Kind := ⟨is⟩

/-- Every kind, in catalog order: icons, naming words, IS, property words. -/
def all : List Kind :=
  Noun.all.map icon ++ Noun.all.map word ++ [is] ++ Property.all.map property

/-- The place of a kind in the catalog. -/
def index : Kind → Nat
  | icon n => n.index
  | word n => 11 + n.index
  | is => 22
  | property p => 23 + p.index

/-- A kind stands at its place in the catalog. -/
theorem getElem?_all_index (k : Kind) : all[k.index]? = some k := by
  rcases k with n | n | _ | p
  · cases n <;> rfl
  · cases n <;> rfl
  · rfl
  · cases p <;> rfl

theorem mem_all (k : Kind) : k ∈ all := List.mem_of_getElem? (getElem?_all_index k)

/-- Two kinds at one place of the catalog are the same. -/
theorem index_injective {a b : Kind} (h : a.index = b.index) : a = b := by
  have hsame : some a = some b := by
    rw [← getElem?_all_index, h, getElem?_all_index]
  exact Option.some.inj hsame

/-- Kinds are ordered as in the catalog. -/
instance : Ord Kind := ⟨compareOn index⟩

instance : Std.TransOrd Kind := inferInstanceAs (Std.TransCmp (compareOn index))

instance : Std.LawfulEqOrd Kind where
  eq_of_compare h := index_injective (Std.LawfulEqOrd.eq_of_compare (α := Nat) h)

instance : Hashable Kind := ⟨fun k => hash k.index⟩

/-! ### Families -/

/-- Whether the kind is a piece of the game. -/
def isIcon : Kind → Bool
  | icon _ => true
  | _ => false

/-- Whether the kind is a word tile. -/
def isText (k : Kind) : Bool := !k.isIcon

/-- Whether objects of the kind can lie on a cell. -/
def isPlaceable : Kind → Bool
  | icon .empty | icon .text => false
  | _ => true

/-- The noun on a naming word. -/
def noun? : Kind → Option Noun
  | word n => some n
  | _ => none

/-- The property on a property word. -/
def property? : Kind → Option Property
  | property p => some p
  | _ => none

/-- The word that names an icon. -/
def toWord? : Kind → Option Kind
  | icon n => some (word n)
  | _ => none

/-- The icon that a naming word names. -/
def toIcon? : Kind → Option Kind
  | word n => some (icon n)
  | _ => none

/-! ### Names -/

/-- The name of a kind in level texts. -/
def name : Kind → String
  | icon n => n.name
  | word n => "text_" ++ n.name
  | is => "is"
  | property p => p.name

/-- The kind with a given name; letter case and surrounding white space do not matter. -/
def ofChars? (s : List Char) : Option Kind :=
  let wanted := lowercase (trim s)
  all.find? fun k => k.name.toList == wanted

/-- Reads the name of a kind from a string. -/
def parse? (text : String) : Option Kind := ofChars? text.toList

/-- The name of a kind in records. -/
def tag : Kind → String
  | icon n => n.tag
  | word n => "Text" ++ n.tag
  | is => "TextIs"
  | property p => "Text" ++ p.tag

/-- The kind with a given name in records. -/
def ofTag? (tag : String) : Option Kind := all.find? fun k => k.tag == tag

/-- The name of a kind in capitals. -/
def text (k : Kind) : String := k.name.toUpper

@[simp] theorem ofChars?_name (k : Kind) : ofChars? k.name.toList = some k := by
  have key : ∀ k ∈ all, ofChars? k.name.toList = some k := by decide +kernel
  exact key k (mem_all k)

@[simp] theorem ofTag?_tag (k : Kind) : ofTag? k.tag = some k := by
  have key : ∀ k ∈ all, ofTag? k.tag = some k := by decide +kernel
  exact key k (mem_all k)

end Kind

end RuleTiles
