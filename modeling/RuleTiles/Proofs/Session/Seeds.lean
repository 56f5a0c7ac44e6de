/-
**The part of the seed in a session.**

A game keeps two seeds: the one it was started with, and that of the next turn.  The next turn is
seeded anew by every turn, whether or not a facing was drawn in it.  On a board on which every
object has a facing none is drawn, now or later.  So two games on such a board that were started
with different seeds go the same way under the same commands, started over or not, and answer every
command in the same way.

Main definitions:

* `RuleTiles.Game.SameButSeeds` — two games differ in nothing but their seeds;
* `RuleTiles.Game.answer`, `RuleTiles.Game.transcript` — what a command, and a session, is answered
  with.

Main results:

* `RuleTiles.Game.Twins.advance` — one turn of two such games;
* `RuleTiles.Game.Twins.obey`, `RuleTiles.Game.Twins.answer` — one command;
* `RuleTiles.Game.session_of_faced` — **when every object has a facing, the seed has no part in a
  session**.
-/

import RuleTiles.Proofs.Play.Alike
import RuleTiles.Proofs.Session.Account
import RuleTiles.Proofs.Turn.Faced

set_option relaxedAutoImplicit false
set_option autoImplicit false

namespace RuleTiles

/-- Two results fail for the same reason, or succeed with related values. -/
inductive Matching {ε α : Type} (related : α → α → Prop) : Except ε α → Except ε α → Prop
  | ok {a b : α} (h : related a b) : Matching related (.ok a) (.ok b)
  | error (e : ε) : Matching related (.error e) (.error e)

/-- What goes on alike from related values goes on alike from results that match. -/
theorem Matching.bind {ε α β : Type} {R : α → α → Prop} {S : β → β → Prop} {r r' : Except ε α}
    {f f' : α → Except ε β} (h : Matching R r r') (hf : ∀ a b, R a b → Matching S (f a) (f' b)) :
    Matching S (r.bind f) (r'.bind f') := by
  cases h with
  | ok hab => exact hf _ _ hab
  | error e => exact .error e

namespace Game

/-! ### Games with different seeds -/

/-- Two games differ in nothing but their seeds, the one at the start and that of the next turn. -/
structure SameButSeeds (g h : Game) : Prop extends Alike g h where
  initialGrid : g.initialGrid = h.initialGrid
  playerIcon : g.playerIcon = h.playerIcon
  turnNumber : g.turnNumber = h.turnNumber

/-- Two games differ in nothing but their seeds, and no facing is ever to be drawn in them. -/
structure Twins (g h : Game) : Prop extends SameButSeeds g h where
  faced : g.grid.Faced
  faced_initial : g.initialGrid.Faced
  keepsSize : g.keepsSize = true

variable {g h : Game}

theorem twins_start {grid : Grid} (hfaced : grid.Faced) (seed seed' : UInt64) :
    Twins (start grid seed) (start grid seed') where
  grid := rfl
  rules := rfl
  playState := rfl
  initialGrid := rfl
  playerIcon := rfl
  turnNumber := rfl
  faced := hfaced
  faced_initial := hfaced
  keepsSize := keepsSize_start grid seed

theorem Twins.isFinished (ht : Twins g h) : g.isFinished = h.isFinished := by
  rw [Game.isFinished, Game.isFinished, ht.playState]

theorem Twins.keepsSize_right (ht : Twins g h) : h.keepsSize = true := by
  have hsize := ht.keepsSize
  rwa [keepsSize_iff, ht.initialGrid, ht.grid, ← keepsSize_iff] at hsize

theorem Twins.reset (ht : Twins g h) : Twins g.reset h.reset := by
  rw [Game.reset, Game.reset, ← ht.initialGrid]
  exact twins_start ht.faced_initial g.seed h.seed

/-! ### Turns and moves -/

theorem Twins.turn (ht : Twins g h) (d : Direction) :
    (g.turn d).grid = (h.turn d).grid ∧ (g.turn d).report = (h.turn d).report := by
  unfold Game.turn
  rw [← ht.grid, ← ht.rules]
  exact ht.faced.resolve_eq g.rules d _ _

/-- **One turn** of games that differ in nothing but their seeds. -/
theorem Twins.advance (ht : Twins g h) (d : Direction) :
    Twins (g.advance d).1 (h.advance d).1 ∧ (g.advance d).2 = (h.advance d).2 := by
  obtain ⟨hgrid, hreport⟩ := ht.turn d
  have hrules : (g.turn d).rules = (h.turn d).rules := by
    unfold Game.turn at hgrid ⊢
    rw [Grid.rules_resolve, Grid.rules_resolve, hgrid]
  refine ⟨{ grid := ?_, rules := ?_, playState := ?_, initialGrid := ?_, playerIcon := ?_,
            turnNumber := ?_, faced := ?_, faced_initial := ?_, keepsSize := ?_ }, ?_⟩
  · rw [grid_advance, grid_advance, hgrid]
  · rw [rules_advance, rules_advance, hrules]
  · rw [playState_advance, playState_advance, hreport]
  · rw [initialGrid_advance, initialGrid_advance, ht.initialGrid]
  · rw [playerIcon_advance, playerIcon_advance, hrules]
  · rw [turnNumber_advance, turnNumber_advance, ht.turnNumber]
  · rw [grid_advance, Game.turn]
    exact ht.faced.resolve g.rules d _
  · rw [initialGrid_advance]
    exact ht.faced_initial
  · exact keepsSize_advance ht.keepsSize d
  · rw [report_advance, report_advance, hreport, ht.playState]

/-- Games that differ in nothing but their seeds, with equal accounts of how they came about. -/
def Told {α : Type} (r s : Game × α) : Prop := Twins r.1 s.1 ∧ r.2 = s.2

theorem Twins.move (ht : Twins g h) (d : Direction) :
    Matching Told (g.move d) (h.move d) := by
  unfold Game.move
  rw [← ht.isFinished, ← ht.turnNumber, ← ht.playState]
  split
  · exact .ok ⟨ht, rfl⟩
  · split
    · exact .error _
    · exact .ok (ht.advance d)

theorem Twins.moveIn (ht : Twins g h) (text : String) (d : Option Direction) :
    Matching Told (g.moveIn text d) (h.moveIn text d) := by
  cases d with
  | none => exact .error _
  | some d =>
      have hmove := ht.move d
      unfold Game.moveIn
      dsimp only
      generalize g.move d = r at hmove ⊢
      generalize h.move d = r' at hmove ⊢
      cases hmove with
      | ok htold => exact .ok htold
      | error fault => exact .error _

theorem Twins.play (ht : Twins g h) (moves : List Direction) :
    Matching Told (g.play moves) (h.play moves) := by
  induction moves generalizing g h with
  | nil => exact .ok ⟨ht, rfl⟩
  | cons d moves ih =>
      unfold Game.play
      rw [← ht.isFinished]
      split
      · exact .ok ⟨ht, rfl⟩
      · refine (ht.move d).bind fun r s hmove => (ih hmove.1).bind fun r' s' hplay => ?_
        refine .ok ⟨hplay.1, ?_⟩
        dsimp only
        rw [hmove.2, hplay.2]

/-! ### Commands -/

/-- Counted moves as they are answered. -/
def told {α : Type} : Except Overflow (Game × α) → Except Error α
  | .ok (_, account) => .ok account
  | .error fault => .error (.overflow fault)

/-- What a command is answered with: the reports of its moves, or why there are none. -/
def answer (g : Game) : Command → Except Error (List Report)
  | .move d => (told (g.move d)).map fun report => [report]
  | .text name => (g.moveText name).map fun r => [r.2]
  | .code n => (g.moveCode n).map fun r => [r.2]
  | .play moves => told (g.play moves)
  | .reset => .ok []
  | .reload => (load g.save).map fun _ => []

/-- What the commands of a session are answered with, up to the one that stops it. -/
def transcript (g : Game) : List Command → List (Except Error (List Report))
  | [] => []
  | c :: rest =>
    g.answer c ::
      match g.obey c with
      | .ok after => after.transcript rest
      | .error _ => []

theorem told_eq_of_matching {α : Type} {r s : Except Overflow (Game × α)} (h : Matching Told r s) :
    told r = told s := by
  cases h with
  | ok htold => exact congrArg Except.ok htold.2
  | error fault => rfl

theorem map_snd_eq_of_matching {ε α β : Type} {r s : Except ε (Game × α)} (h : Matching Told r s)
    (f : α → β) : (r.map fun a => f a.2) = s.map fun a => f a.2 := by
  cases h with
  | ok htold => exact congrArg (fun a => Except.ok (f a)) htold.2
  | error e => rfl

/-- **One command is answered alike** by games that differ in nothing but their seeds. -/
theorem Twins.answer (ht : Twins g h) (c : Command) : g.answer c = h.answer c := by
  cases c with
  | move d => exact congrArg (Except.map _) (told_eq_of_matching (ht.move d))
  | text name => exact map_snd_eq_of_matching (ht.moveIn _ _) fun report => [report]
  | code n => exact map_snd_eq_of_matching (ht.moveIn _ _) fun report => [report]
  | play moves => exact told_eq_of_matching (ht.play moves)
  | reset => rfl
  | reload =>
      rw [Game.answer, Game.answer, load_save ht.keepsSize, load_save ht.keepsSize_right]
      rfl

/-- **One command** of games that differ in nothing but their seeds. -/
theorem Twins.obey (ht : Twins g h) (c : Command) : Matching Twins (g.obey c) (h.obey c) := by
  by_cases hreset : c = .reset
  · subst hreset
    exact .ok ht.reset
  by_cases hreload : c = .reload
  · subst hreload
    rw [Game.obey, Game.obey, load_save ht.keepsSize, load_save ht.keepsSize_right]
    exact .ok ht
  rw [obey_eq_play g hreset hreload, obey_eq_play h hreset hreload]
  have hplay := ht.play c.directions
  generalize g.play c.directions = r at hplay ⊢
  generalize h.play c.directions = s at hplay ⊢
  cases hplay with
  | ok htold => exact .ok htold.1
  | error fault => exact .error _

/-! ### Sessions -/

theorem Twins.session (ht : Twins g h) (commands : List Command) :
    Matching Twins (g.session commands) (h.session commands) := by
  induction commands generalizing g h with
  | nil => exact .ok ht
  | cons c rest ih =>
      rw [session_cons, session_cons]
      exact (ht.obey c).bind fun _ _ hafter => ih hafter

theorem Twins.transcript (ht : Twins g h) (commands : List Command) :
    g.transcript commands = h.transcript commands := by
  induction commands generalizing g h with
  | nil => rfl
  | cons c rest ih =>
      have hobey := ht.obey c
      rw [Game.transcript, Game.transcript, ht.answer c]
      generalize g.obey c = r at hobey ⊢
      generalize h.obey c = s at hobey ⊢
      cases hobey with
      | ok hafter => exact congrArg _ (ih hafter)
      | error e => rfl

/-- **When every object has a facing, the seed has no part in a session.**  Games on such a board
answer the same commands in the same way, whatever their seeds are, and come to games that differ in
nothing but their seeds; or both are stopped, when more directions were accepted than turns can be
counted.  Every object still has a facing then, as no turn leaves one without, whatever the rules
are. -/
theorem session_of_faced {grid : Grid} (hfaced : grid.Faced) (seed seed' : UInt64)
    (commands : List Command) :
    (start grid seed).transcript commands = (start grid seed').transcript commands ∧
      ((∃ g h, (start grid seed).session commands = .ok g ∧
          (start grid seed').session commands = .ok h ∧ SameButSeeds g h ∧ g.grid.Faced) ∨
        ((start grid seed).session commands = .error (.overflow .add) ∧
          (start grid seed').session commands = .error (.overflow .add) ∧
          2 ^ 64 ≤ ((start grid seed).account commands).total)) ∧
      ∀ rules d gen, (grid.resolve rules d gen).grid.Faced := by
  have htwins := twins_start hfaced seed seed'
  refine ⟨htwins.transcript commands, ?_, fun rules d gen => hfaced.resolve rules d gen⟩
  have hmatching := htwins.session commands
  by_cases hcountable : (Account.begun (start grid seed)).Countable commands
  · have hsession := session_of_countable (keepsSize_start grid seed) hcountable
    rw [hsession] at hmatching ⊢
    generalize (start grid seed').session commands = s at hmatching ⊢
    cases hmatching with
    | ok hafter => exact .inl ⟨_, _, rfl, rfl, hafter.toSameButSeeds, hafter.faced⟩
  · have hsession := session_of_not_countable (keepsSize_start grid seed) hcountable
    have hcovered : (Account.begun (start grid seed)).Covered := Nat.le_refl 0
    rw [hsession] at hmatching ⊢
    generalize (start grid seed').session commands = s at hmatching ⊢
    cases hmatching with
    | error e =>
        refine .inr ⟨rfl, rfl, Nat.le_of_not_lt fun hfew => hcountable ?_⟩
        exact hcovered.countable_of_total_lt hfew

/-- The level
```
SKULL IS MOVE .
BABA  IS YOU  .
.   baba skull .
```
on which everything faces somewhere. -/
def wanderLevel : Grid :=
  .ofFitting 4 3
    #[.ofPieces [⟨.word .skull, some .up⟩], .ofPieces [⟨.is, some .up⟩],
      .ofPieces [⟨.property .move, some .up⟩], .empty,
      .ofPieces [⟨.word .baba, some .left⟩], .ofPieces [⟨.is, some .left⟩],
      .ofPieces [⟨.property .you, some .left⟩], .empty,
      .empty, .ofPieces [⟨.icon .baba, some .right⟩], .ofPieces [⟨.icon .skull, some .left⟩],
      .empty]
    (by decide)

/-- Moves on that level, before and after it is started over. -/
def wanderSession : List Command := [.move .right, .play [.left, .up], .reset, .text "left"]

/-- On that level a session comes to games that differ in nothing but their seeds. -/
theorem session_of_faced_wanderLevel :
    wanderLevel.Faced ∧
      (start wanderLevel 1).transcript wanderSession =
        (start wanderLevel 2).transcript wanderSession ∧
      ∃ g h, (start wanderLevel 1).session wanderSession = .ok g ∧
        (start wanderLevel 2).session wanderSession = .ok h ∧ SameButSeeds g h := by
  have hfaced : wanderLevel.Faced := by decide +kernel
  have htotal : ((start wanderLevel 1).account wanderSession).total < 2 ^ 64 := by decide +kernel
  obtain ⟨htranscript, hsession, _⟩ := session_of_faced hfaced 1 2 wanderSession
  refine ⟨hfaced, htranscript, ?_⟩
  rcases hsession with ⟨g, h, hg, hh, hsame, _⟩ | ⟨_, _, hmany⟩
  · exact ⟨g, h, hg, hh, hsame⟩
  · omega

end Game

end RuleTiles
