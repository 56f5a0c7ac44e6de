/-
**Seeded random choices.**

Random choices follow a seed of 64 bits, so that equal seeds replay alike.  The seed is stretched
to a key of 256 bits by a permuted congruential generator; the key drives the ChaCha stream cipher
with 12 rounds, and the words of its key stream are the random words, block after block.

Main definitions:

* `RuleTiles.ChaCha.block` — one block of the key stream;
* `RuleTiles.Generator`, `RuleTiles.Generator.ofSeed` — the words not yet drawn;
* `RuleTiles.Generator.next32`, `RuleTiles.Generator.next64` — the next random word;
* `RuleTiles.Generator.facing`, `RuleTiles.Generator.walk` — a random direction, drawn evenly.
-/

import RuleTiles.Direction

set_option relaxedAutoImplicit false
set_option autoImplicit false

namespace RuleTiles

/-! ### The stream cipher -/

namespace ChaCha

/-- A word turned to the left by `n` places, `n` between 1 and 31. -/
def rotate (x n : UInt32) : UInt32 := (x <<< n) ||| (x >>> (32 - n))

/-- Four words that are worked on side by side. -/
structure Row where
  a : UInt32
  b : UInt32
  c : UInt32
  d : UInt32
  deriving DecidableEq

namespace Row

/-- Combines two rows word by word. -/
@[inline] def zipWith (f : UInt32 → UInt32 → UInt32) (x y : Row) : Row :=
  ⟨f x.a y.a, f x.b y.b, f x.c y.c, f x.d y.d⟩

/-- Exclusive or of two rows, each word then turned by `n` places. -/
@[inline] def xorRotate (n : UInt32) (x y : Row) : Row :=
  zipWith (fun u v => rotate (u ^^^ v) n) x y

/-- The sum of two rows. -/
@[inline] def add (x y : Row) : Row := zipWith (· + ·) x y

/-- The row that starts with its second word. -/
def turn (x : Row) : Row := ⟨x.b, x.c, x.d, x.a⟩

/-- The words of a row. -/
def toList (x : Row) : List UInt32 := [x.a, x.b, x.c, x.d]

end Row

/-- The sixteen words of the cipher, in four rows. -/
structure State where
  r₀ : Row
  r₁ : Row
  r₂ : Row
  r₃ : Row
  deriving DecidableEq

namespace State

/-- The quarter round, on the four columns at once. -/
def columns (s : State) : State :=
  let r₀ := s.r₀.add s.r₁
  let r₃ := s.r₃.xorRotate 16 r₀
  let r₂ := s.r₂.add r₃
  let r₁ := s.r₁.xorRotate 12 r₂
  let r₀ := r₀.add r₁
  let r₃ := r₃.xorRotate 8 r₀
  let r₂ := r₂.add r₃
  let r₁ := r₁.xorRotate 7 r₂
  ⟨r₀, r₁, r₂, r₃⟩

/-- Brings the diagonals into the columns. -/
def shear (s : State) : State := ⟨s.r₀, s.r₁.turn, s.r₂.turn.turn, s.r₃.turn.turn.turn⟩

/-- Brings the columns back into the diagonals. -/
def unshear (s : State) : State := ⟨s.r₀, s.r₁.turn.turn.turn, s.r₂.turn.turn, s.r₃.turn⟩

/-- One round on the columns and one on the diagonals. -/
def doubleRound (s : State) : State := s.columns.shear.columns.unshear

/-- The sum of two states, word by word. -/
def add (s t : State) : State :=
  ⟨s.r₀.add t.r₀, s.r₁.add t.r₁, s.r₂.add t.r₂, s.r₃.add t.r₃⟩

/-- The sixteen words in order. -/
def toList (s : State) : List UInt32 :=
  s.r₀.toList ++ s.r₁.toList ++ s.r₂.toList ++ s.r₃.toList

end State

/-- A key of eight words. -/
structure Key where
  lower : Row
  upper : Row
  deriving DecidableEq

/-- The state from which a block is made: four constants, the key, the number of the block in two
words and the number of the stream, which is always zero. -/
def start (key : Key) (counter : UInt64) : State :=
  ⟨⟨0x61707865, 0x3320646e, 0x79622d32, 0x6b206574⟩, key.lower, key.upper,
    ⟨counter.toUInt32, (counter >>> 32).toUInt32, 0, 0⟩⟩

/-- The sixteen words of one block of the key stream, after 12 rounds. -/
def block (key : Key) (counter : UInt64) : List UInt32 :=
  let s := start key counter
  let mixed := s.doubleRound.doubleRound.doubleRound.doubleRound.doubleRound.doubleRound
  (mixed.add s).toList

end ChaCha

/-! ### From a seed to a key -/

namespace Seed

/-- The next state of the congruential generator. -/
def advance (s : UInt64) : UInt64 := s * 6364136223846793005 + 11634580027462260723

/-- The word given out in a state: the high bits folded and turned to the right by the topmost
five bits. -/
def output (s : UInt64) : UInt32 :=
  let x := (((s >>> 18) ^^^ s) >>> 27).toUInt32
  let n := (s >>> 59).toUInt32
  (x >>> n) ||| (x <<< ((32 - n) % 32))

/-- Four words given out after a state, and the state after them. -/
def row (s : UInt64) : ChaCha.Row × UInt64 :=
  let s₁ := advance s
  let s₂ := advance s₁
  let s₃ := advance s₂
  let s₄ := advance s₃
  (⟨output s₁, output s₂, output s₃, output s₄⟩, s₄)

/-- The key made from a seed. -/
def key (seed : UInt64) : ChaCha.Key :=
  let (lower, s) := row seed
  let (upper, _) := row s
  ⟨lower, upper⟩

end Seed

/-! ### The generator -/

/-- The random words not yet drawn: what is left of one block, and the blocks from `counter`
on. -/
structure Generator where
  key : ChaCha.Key
  counter : UInt64
  pending : List UInt32
  deriving DecidableEq

namespace Generator

/-- The generator that follows a seed. -/
def ofSeed (seed : UInt64) : Generator := ⟨Seed.key seed, 0, []⟩

/-- The next word of 32 bits. -/
def next32 (g : Generator) : UInt32 × Generator :=
  match g.pending with
  | w :: rest => (w, { g with pending := rest })
  | [] =>
    match ChaCha.block g.key g.counter with
    | w :: rest => (w, ⟨g.key, g.counter + 1, rest⟩)
    | [] => (0, g)

/-- The next word of 64 bits: two words of 32, the lower half first. -/
def next64 (g : Generator) : UInt64 × Generator :=
  let (low, g) := g.next32
  let (high, g) := g.next32
  (low.toUInt64 ||| (high.toUInt64 <<< 32), g)

/-- How many words in a row may be refused for a facing.  Drawing evenly needs no such bound, but
goes on until a word is taken; each word is refused with probability one half. -/
def maxRefusals : Nat := 4096

/-- A direction from the topmost two bits of the next word of 64 bits.  A word is refused, and the
next one taken, when its third bit from the top is set.  Once the bound is met the direction is up;
in this branch alone it can differ from the one that drawing on, without a bound, would give. -/
def facingWithin : Nat → Generator → Direction × Generator
  -- all the words were refused, and no further one is asked for
  | 0, g => (.up, g)
  | n + 1, g =>
    let (w, g) := g.next64
    if w <<< 2 < 0x8000000000000000 then (.ofFin (.ofNat 4 (w >>> 62).toNat), g)
    else facingWithin n g

/-- A random facing for an object that has none. -/
def facing (g : Generator) : Direction × Generator := facingWithin maxRefusals g

/-- A random move: a direction from the topmost two bits of the next word of 32 bits. -/
def walk (g : Generator) : Direction × Generator :=
  let (w, g) := g.next32
  (.ofFin (.ofNat 4 (w >>> 30).toNat), g)

end Generator

end RuleTiles
