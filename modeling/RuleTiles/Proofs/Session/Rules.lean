/-
**The rules in force follow the board.**

A game keeps its rules, the kind the player moves and the state of play beside its board.  A new
game has them read off the board, and so has a game after every turn.  A snapshot may hold any rules
and any icon, but the first turn or the first start puts them right.  After a turn the state of play
tells whether the player still moves anything.

Main definitions:

* `RuleTiles.Game.InStep` — the rules and the icon are those that the board spells;
* `RuleTiles.Game.Judged` — the state of play agrees with what is YOU on the board;
* `RuleTiles.Game.Opened` — a new game, or one that was loaded.

Main results:

* `RuleTiles.Game.inStep_advance`, `RuleTiles.Game.judged_advance` — what one turn brings about;
* `RuleTiles.Game.session_inStep` — **what every session keeps up**.
-/

import RuleTiles.Proofs.Session.Account

set_option relaxedAutoImplicit false
set_option autoImplicit false

namespace RuleTiles

/-! ### The verdict -/

namespace PlayState

theorem decide_eq_playing_iff {won controllable : Bool} :
    decide won controllable = playing ↔ won = false ∧ controllable = true := by
  cases won <;> cases controllable <;> simp [decide]

theorem decide_eq_lost_iff {won controllable : Bool} :
    decide won controllable = lost ↔ won = false ∧ controllable = false := by
  cases won <;> cases controllable <;> simp [decide]

end PlayState

namespace Game

/-- The rules and the icon of a game are those that its board spells. -/
structure InStep (g : Game) : Prop where
  rules : g.rules = g.grid.rules
  playerIcon : g.playerIcon = g.rules.playerIcon?

/-- While the play goes on some object of the board is YOU, and when it is lost none is. -/
structure Judged (g : Game) : Prop where
  playing : g.playState = .playing → ∃ o ∈ g.grid.objects, g.rules.grants o.kind .you = true
  lost : g.playState = .lost → ∀ o ∈ g.grid.objects, g.rules.grants o.kind .you = false

/-! ### One turn -/

theorem inStep_start (grid : Grid) (seed : UInt64) : (start grid seed).InStep := ⟨rfl, rfl⟩

/-- After a turn the rules and the icon are those that the board spells. -/
theorem inStep_advance (g : Game) (d : Direction) : (g.advance d).1.InStep where
  rules := by rw [rules_advance, grid_advance, turn, Grid.rules_resolve]
  playerIcon := by rw [playerIcon_advance, rules_advance]

/-- After a turn the state of play agrees with what is YOU on the board. -/
theorem judged_advance (g : Game) (d : Direction) : (g.advance d).1.Judged := by
  have hstate : (g.advance d).1.playState =
      .decide (g.grid.settled g.rules d (.ofSeed g.randomState)).2.2
        ((g.advance d).1.grid.controllable (g.advance d).1.rules) := by
    rw [playState_advance, grid_advance, rules_advance, turn, Grid.rules_resolve,
      Grid.report_resolve, Grid.grid_resolve]
  have hyou : (g.advance d).1.grid.controllable (g.advance d).1.rules = true ↔
      ∃ o ∈ (g.advance d).1.grid.objects, (g.advance d).1.rules.grants o.kind .you = true :=
    Grid.controllable_eq_true
  constructor
  · intro hplaying
    rw [hplaying, eq_comm, PlayState.decide_eq_playing_iff] at hstate
    exact hyou.1 hstate.2
  · intro hlost o ho
    rw [hlost, eq_comm, PlayState.decide_eq_lost_iff] at hstate
    -- a YOU object would make the board controllable
    refine Bool.eq_false_iff.2 fun hgrants => ?_
    rw [hyou.2 ⟨o, ho, hgrants⟩] at hstate
    cases hstate.2

end Game

/-! ### Accounts -/

namespace Account

/-- The account has an accepted direction, so its game is what a turn left behind. -/
theorem exists_game_eq_advance {a : Account} (h : a.moves ≠ []) :
    ∃ (g : Game) (d : Direction), a.game = (g.advance d).1 := by
  rcases List.eq_nil_or_concat a.moves with hnil | ⟨moves, d, hmoves⟩
  · exact absurd hnil h
  · refine ⟨a.origin.after moves, d, ?_⟩
    rw [game, hmoves, List.concat_eq_append, Game.after_snoc]

/-- The account goes back to a new game. -/
def Renewed (a : Account) : Prop := ∃ grid seed, a.origin = Game.start grid seed

theorem Renewed.follow {a : Account} (h : a.Renewed) (commands : List Command) :
    (a.follow commands).Renewed := by
  refine follow_induction (P := Renewed) ?_ (fun _ _ => ⟨_, _, rfl⟩) h commands
  rintro a d ⟨grid, seed, ha⟩
  exact ⟨grid, seed, by rw [origin_arrive, ha]⟩

/-- A session in which the game was started over goes back to a new game. -/
theorem renewed_of_reset_mem {a : Account} {commands : List Command}
    (h : Command.reset ∈ commands) : (a.follow commands).Renewed := by
  obtain ⟨first, second, rfl⟩ := List.append_of_mem h
  rw [follow_append, follow_cons]
  have hrenewed : ((a.follow first).enter .reset).Renewed := ⟨_, _, rfl⟩
  exact hrenewed.follow second

/-- Until a session goes back to a new game, all that was accepted counts for its game. -/
theorem renewed_or_total_eq {a : Account} (h : a.total = a.moves.length)
    (commands : List Command) :
    (a.follow commands).Renewed ∨
      (a.follow commands).total = (a.follow commands).moves.length := by
  refine follow_induction (P := fun b => b.Renewed ∨ b.total = b.moves.length) ?_
    (fun _ _ => .inl ⟨_, _, rfl⟩) (.inr h) commands
  rintro b d (⟨grid, seed, hb⟩ | hb)
  · exact .inl ⟨grid, seed, by rw [origin_arrive, hb]⟩
  · right
    unfold arrive
    split
    · exact hb
    · simp [hb]

/-- The game of an account is in step once it goes back to a new game or a direction was
accepted. -/
theorem inStep_game {a : Account} (h : a.Renewed ∨ a.moves ≠ []) : a.game.InStep := by
  by_cases hmoves : a.moves = []
  · rcases h with ⟨grid, seed, horigin⟩ | h
    · rw [game, hmoves, horigin]
      exact Game.inStep_start grid seed
    · exact absurd hmoves h
  · obtain ⟨g, d, hgame⟩ := exists_game_eq_advance hmoves
    rw [hgame]
    exact Game.inStep_advance g d

end Account

/-! ### Sessions -/

namespace Game

/-- The games that a session may begin with: new ones, and those that a text was accepted for. -/
inductive Opened : Game → Prop
  | start (grid : Grid) (seed : UInt64) : Opened (start grid seed)
  | load {text : String} {g : Game} (h : load text = .ok g) : Opened g

theorem Opened.keepsSize {g : Game} (h : Opened g) : g.keepsSize = true := by
  cases h with
  | start grid seed => exact keepsSize_start grid seed
  | load h => exact keepsSize_of_load h

/-- **What every session keeps up.**  The board has its size throughout.  In a session of a new game
the rules and the icon are always those that the board spells, and in a session of a loaded game
from the first accepted direction or the first start on.  Once a direction was accepted since the
last start, the state of play agrees with what is YOU on the board.  A session is stopped only when
its turns can no longer be counted. -/
theorem session_inStep {g₀ : Game} (h₀ : Opened g₀) (commands : List Command) :
    (∃ g, g₀.session commands = .ok g ∧ g.initialGrid.SameSize g.grid ∧
      ((∃ grid seed, g₀ = start grid seed) ∨ .reset ∈ commands ∨
        0 < (g₀.account commands).total → g.InStep) ∧
      ((g₀.account commands).moves ≠ [] → g.Judged)) ∨
    g₀.session commands = .error (.overflow .add) ∧
      ¬(Account.begun g₀).Countable commands := by
  by_cases hcountable : (Account.begun g₀).Countable commands
  · have hsession := session_of_countable h₀.keepsSize hcountable
    refine .inl ⟨_, hsession, ?_, ?_, ?_⟩
    · exact keepsSize_iff.1 (keepsSize_of_session h₀.keepsSize hsession)
    · intro hready
      refine Account.inStep_game ?_
      rcases hready with ⟨grid, seed, rfl⟩ | hreset | htotal
      · exact .inl ⟨grid, seed, origin_account_start grid seed commands⟩
      · exact .inl (Account.renewed_of_reset_mem hreset)
      · rcases Account.renewed_or_total_eq (a := .begun g₀) rfl commands with hrenewed | hlength
        · exact .inl hrenewed
        · right
          intro hmoves
          rw [account, hlength, ← account, hmoves] at htotal
          exact absurd htotal (Nat.lt_irrefl 0)
    · intro hmoves
      obtain ⟨g, d, hgame⟩ := Account.exists_game_eq_advance hmoves
      rw [hgame]
      exact judged_advance g d
  · exact .inr ⟨session_of_not_countable h₀.keepsSize hcountable, hcountable⟩

/-- The tangled snapshot has rules that are not those of its board; one turn puts them right, and
the play goes on. -/
theorem session_inStep_tangledGame :
    ¬tangledGame.InStep ∧ ∃ g, tangledGame.session [.text "sideways", .move .right] = .ok g ∧
      g.InStep ∧ g.Judged := by
  have haccount : (tangledGame.account [.text "sideways", .move .right]).total = 1 ∧
      (tangledGame.account [.text "sideways", .move .right]).moves = [.right] := by
    decide +kernel
  obtain ⟨htotal, hmoves⟩ := haccount
  have hcountable : (Account.begun tangledGame).Countable [.text "sideways", .move .right] := by
    rw [Account.countable_cons, Account.countable_cons, Account.countable_nil]
    decide +kernel
  refine ⟨fun h => ?_, ?_⟩
  · have hrules : tangledGame.rules ≠ tangledGame.grid.rules := by decide +kernel
    exact hrules h.rules
  · rcases session_inStep (.load load_tangled) [.text "sideways", .move .right] with
      ⟨g, hsession, _, hinStep, hjudged⟩ | ⟨_, hstopped⟩
    · refine ⟨g, hsession, hinStep (.inr (.inr ?_)), hjudged ?_⟩
      · rw [htotal]
        decide
      · rw [hmoves]
        decide
    · exact absurd hcountable hstopped

end Game

end RuleTiles
