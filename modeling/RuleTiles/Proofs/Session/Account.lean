/-
**What a session comes to.**

Of everything a session is told only the directions matter that arrive while the play goes on, and
of these only the ones since the game was last started over.  The account of a session keeps just
that.  A session leads to the game of its account, reached by one turn for each direction that was
accepted, as long as the turns can be counted; when they no longer can, it is stopped.

Main definitions:

* `RuleTiles.Game.after` — the game after one turn for each of some directions;
* `RuleTiles.Account`, with `RuleTiles.Account.arrive`, `RuleTiles.Account.enter` and
  `RuleTiles.Account.follow` — the account of a session, and how directions, commands and lists of
  commands are entered in it;
* `RuleTiles.Account.Countable` — the turns of a session can be counted.

Main results:

* `RuleTiles.Account.obey_game` — **what a command does**, by the account;
* `RuleTiles.Game.session_of_countable`, `RuleTiles.Game.session_of_not_countable` — what a
  session does;
* `RuleTiles.Game.session_start` — **a session of a new game is the run of the directions accepted
  since it was last started over**.
-/

import Mathlib.Data.List.Induction
import RuleTiles.Proofs.Session.Commands

set_option relaxedAutoImplicit false
set_option autoImplicit false

namespace RuleTiles

/-! ### Turns one after another -/

namespace Game

/-- The game after one turn for each of some directions. -/
def after (g : Game) (moves : List Direction) : Game := moves.foldl (fun g d => (g.advance d).1) g

@[simp] theorem after_nil (g : Game) : g.after [] = g := rfl

theorem after_snoc (g : Game) (moves : List Direction) (d : Direction) :
    g.after (moves ++ [d]) = ((g.after moves).advance d).1 := by
  simp [after]

@[simp] theorem seed_advance (g : Game) (d : Direction) : (g.advance d).1.seed = g.seed := by
  simp only [advance]

/-- Turns change neither the first board nor the first seed, which is all that starting over looks
at. -/
@[simp] theorem reset_after (g : Game) (moves : List Direction) :
    (g.after moves).reset = g.reset := by
  induction moves using List.reverseRecOn with
  | nil => rfl
  | append_singleton moves d ih =>
      rw [← ih, after_snoc]
      simp only [reset, initialGrid_advance, seed_advance]

theorem keepsSize_after {g : Game} (h : g.keepsSize = true) (moves : List Direction) :
    (g.after moves).keepsSize = true := by
  induction moves using List.reverseRecOn with
  | nil => exact h
  | append_singleton moves d ih =>
      rw [after_snoc]
      exact keepsSize_advance ih d

/-- The turns are counted, up to the range of the counter. -/
theorem turnNumber_after (g : Game) (moves : List Direction) :
    (g.after moves).turnNumber.toNat = (g.turnNumber.toNat + moves.length) % 2 ^ 64 := by
  induction moves using List.reverseRecOn with
  | nil =>
      have hlt := g.turnNumber.toNat_lt
      simp only [after_nil, List.length_nil, Nat.add_zero]
      omega
  | append_singleton moves d ih =>
      rw [after_snoc, turnNumber_advance, UInt64.toNat_add, ih, List.length_append]
      simp only [UInt64.toNat_one, List.length_singleton]
      omega

end Game

/-! ### Accounts -/

/-- The account of a session. -/
structure Account where
  /-- The game that the session began with, or was last started over with. -/
  origin : Game
  /-- The directions accepted since then. -/
  moves : List Direction
  /-- The number of directions accepted in the whole session. -/
  total : Nat

namespace Account

/-- The account of a session that has just begun. -/
def begun (g : Game) : Account := ⟨g, [], 0⟩

/-- The game that an account comes to. -/
def game (a : Account) : Game := a.origin.after a.moves

/-- The number of turns of the game that an account comes to. -/
def turns (a : Account) : Nat := a.origin.turnNumber.toNat + a.moves.length

/-- The account when a direction arrives: it is accepted while the play goes on. -/
def arrive (a : Account) (d : Direction) : Account :=
  if a.game.isFinished then a
  else { a with moves := a.moves ++ [d], total := a.total + 1 }

/-- The account when a command is given. -/
def enter (a : Account) : Command → Account
  | .reset => { a with origin := a.origin.reset, moves := [] }
  | c => c.directions.foldl arrive a

/-- The account when commands are given one after another. -/
def follow (a : Account) (commands : List Command) : Account := commands.foldl enter a

/-- At no point of a session have more turns been taken than can be counted. -/
def Countable (a : Account) (commands : List Command) : Prop :=
  ∀ before, before <+: commands → (a.follow before).turns < 2 ^ 64

@[simp] theorem follow_cons (a : Account) (c : Command) (rest : List Command) :
    a.follow (c :: rest) = (a.enter c).follow rest := rfl

theorem follow_append (a : Account) (first second : List Command) :
    a.follow (first ++ second) = (a.follow first).follow second :=
  List.foldl_append

/-- The turns of the game of an account are those that were entered. -/
theorem turnNumber_game {a : Account} (h : a.turns < 2 ^ 64) :
    a.game.turnNumber.toNat = a.turns := by
  rw [game, Game.turnNumber_after]
  exact Nat.mod_eq_of_lt h

theorem keepsSize_game {a : Account} (h : a.origin.keepsSize = true) :
    a.game.keepsSize = true :=
  Game.keepsSize_after h a.moves

/-! ### One direction -/

theorem arrive_of_finished {a : Account} (h : a.game.isFinished = true) (d : Direction) :
    a.arrive d = a := by
  rw [arrive, if_pos h]

theorem arrive_of_playing {a : Account} (h : a.game.isFinished = false) (d : Direction) :
    a.arrive d = { a with moves := a.moves ++ [d], total := a.total + 1 } := by
  rw [arrive, if_neg (by simp [h])]

theorem game_arrive {a : Account} (h : a.game.isFinished = false) (d : Direction) :
    (a.arrive d).game = (a.game.advance d).1 := by
  rw [arrive_of_playing h]
  exact Game.after_snoc a.origin a.moves d

theorem turns_arrive {a : Account} (h : a.game.isFinished = false) (d : Direction) :
    (a.arrive d).turns = a.turns + 1 := by
  rw [arrive_of_playing h]
  simp only [turns, List.length_append, List.length_singleton]
  omega

@[simp] theorem origin_arrive (a : Account) (d : Direction) : (a.arrive d).origin = a.origin := by
  unfold arrive
  split
  · rfl
  · rfl

theorem turns_le_arrive (a : Account) (d : Direction) : a.turns ≤ (a.arrive d).turns := by
  cases h : a.game.isFinished with
  | true => exact Nat.le_of_eq (by rw [arrive_of_finished h])
  | false => exact Nat.le_of_lt (by simp [turns_arrive h])

/-! ### Several directions -/

/-- Directions that arrive after the end leave no trace. -/
theorem foldl_arrive_of_finished {a : Account} (h : a.game.isFinished = true)
    (moves : List Direction) : moves.foldl arrive a = a := by
  induction moves with
  | nil => rfl
  | cons d moves ih => rw [List.foldl_cons, arrive_of_finished h, ih]

@[simp] theorem origin_foldl_arrive (a : Account) (moves : List Direction) :
    (moves.foldl arrive a).origin = a.origin := by
  induction moves generalizing a with
  | nil => rfl
  | cons d moves ih => rw [List.foldl_cons, ih, origin_arrive]

theorem turns_le_foldl_arrive (a : Account) (moves : List Direction) :
    a.turns ≤ (moves.foldl arrive a).turns := by
  induction moves generalizing a with
  | nil => exact Nat.le_refl _
  | cons d moves ih => exact Nat.le_trans (turns_le_arrive a d) (ih (a.arrive d))

/-- **What playing directions does**, by the account. -/
theorem play_game {a : Account} (h : a.turns < 2 ^ 64) (moves : List Direction) :
    Game.counted (a.game.play moves) =
      if (moves.foldl arrive a).turns < 2 ^ 64 then .ok (moves.foldl arrive a).game
      else .error (.overflow .add) := by
  induction moves generalizing a with
  | nil =>
      rw [List.foldl_nil, if_pos h]
      rfl
  | cons d moves ih =>
      cases hf : a.game.isFinished with
      | true =>
          rw [foldl_arrive_of_finished hf, if_pos h, Game.play_of_isFinished hf]
          rfl
      | false =>
          have hg := Game.isFinished_eq_false_iff.1 hf
          have hturns := turns_arrive hf d
          have hnumber := turnNumber_game h
          rw [List.foldl_cons]
          by_cases hn : a.turns + 1 < 2 ^ 64
          · -- the turn can be counted, and the rest is played from the game after it
            have hrest := ih (a := a.arrive d) (by omega)
            rw [← hrest, game_arrive hf]
            have hmove := Game.move_eq_advance d hg (by omega)
            cases hplay : (a.game.advance d).1.play moves with
            | error fault =>
                simp [Game.play, hf, hmove, hplay, Game.counted, bind, Except.bind]
            | ok result =>
                simp [Game.play, hf, hmove, hplay, Game.counted, bind, Except.bind, pure,
                  Except.pure]
          · -- the turn cannot be counted, and never fewer turns are entered later
            have hle := turns_le_foldl_arrive (a.arrive d) moves
            have hmax : a.game.turnNumber = Game.maxTurns := by
              rw [← hnumber, ← Game.ne_maxTurns_iff] at hn
              exact Classical.not_not.1 hn
            rw [if_neg (by omega)]
            simp [Game.play, Game.move, hf, hmax, Game.counted, bind, Except.bind]

/-! ### Commands -/

theorem enter_eq_arrive (a : Account) {c : Command} (hreset : c ≠ .reset) :
    a.enter c = c.directions.foldl arrive a := by
  cases c with
  | reset => exact absurd rfl hreset
  | _ => rfl

theorem game_enter_reset (a : Account) : (a.enter .reset).game = a.origin.reset := rfl

theorem turns_enter_reset (a : Account) : (a.enter .reset).turns = 0 := rfl

/-- What holds however a direction arrives, and after starting over, holds after any commands. -/
theorem follow_induction {P : Account → Prop} (harrive : ∀ a d, P a → P (a.arrive d))
    (hreset : ∀ a, P a → P (a.enter .reset)) {a : Account} (h : P a) (commands : List Command) :
    P (a.follow commands) := by
  refine List.foldlRecOn commands enter h fun b hb c _ => ?_
  by_cases hc : c = .reset
  · subst hc
    exact hreset b hb
  · rw [enter_eq_arrive b hc]
    exact List.foldlRecOn c.directions arrive hb fun b hb d _ => harrive b d hb

theorem keepsSize_origin_enter {a : Account} (h : a.origin.keepsSize = true) (c : Command) :
    (a.enter c).origin.keepsSize = true := by
  by_cases hreset : c = .reset
  · subst hreset
    exact Game.keepsSize_start _ _
  · rw [enter_eq_arrive a hreset, origin_foldl_arrive]
    exact h

/-- **What a command does**, by the account: it comes to the game of the account, and fails when
the turns can no longer be counted. -/
theorem obey_game {a : Account} (hsize : a.origin.keepsSize = true) (h : a.turns < 2 ^ 64)
    (c : Command) :
    a.game.obey c =
      if (a.enter c).turns < 2 ^ 64 then .ok (a.enter c).game else .error (.overflow .add) := by
  by_cases hreset : c = .reset
  · subst hreset
    rw [turns_enter_reset, if_pos (by decide), game_enter_reset]
    exact congrArg Except.ok (Game.reset_after a.origin a.moves)
  · rw [enter_eq_arrive a hreset]
    by_cases hreload : c = .reload
    · subst hreload
      rw [Command.directions, List.foldl_nil, if_pos h]
      exact Game.load_save (keepsSize_game hsize)
    · rw [Game.obey_eq_play _ hreset hreload]
      exact play_game h c.directions

/-! ### Sessions -/

theorem turns_lt_of_countable {a : Account} {commands : List Command}
    (h : a.Countable commands) : a.turns < 2 ^ 64 :=
  h [] (List.nil_prefix)

theorem countable_nil {a : Account} : a.Countable [] ↔ a.turns < 2 ^ 64 := by
  constructor
  · exact turns_lt_of_countable
  · intro h before hbefore
    rw [List.prefix_nil.1 hbefore]
    exact h

theorem countable_cons {a : Account} {c : Command} {rest : List Command} :
    a.Countable (c :: rest) ↔ a.turns < 2 ^ 64 ∧ (a.enter c).Countable rest := by
  constructor
  · intro h
    refine ⟨turns_lt_of_countable h, fun before hbefore => ?_⟩
    exact h (c :: before) (List.cons_prefix_cons.2 ⟨rfl, hbefore⟩)
  · rintro ⟨hnow, hlater⟩ before hbefore
    cases before with
    | nil => exact hnow
    | cons c' before =>
        obtain ⟨rfl, hrest⟩ := List.cons_prefix_cons.1 hbefore
        exact hlater before hrest

/-- From the game of an account, a session whose turns can be counted comes to the game of the
account it is entered in. -/
theorem session_game {a : Account} {commands : List Command} (hsize : a.origin.keepsSize = true)
    (h : a.Countable commands) : a.game.session commands = .ok (a.follow commands).game := by
  induction commands generalizing a with
  | nil => rfl
  | cons c rest ih =>
      obtain ⟨hnow, hlater⟩ := countable_cons.1 h
      rw [Game.session_cons, obey_game hsize hnow, if_pos (turns_lt_of_countable hlater)]
      exact ih (keepsSize_origin_enter hsize c) hlater

theorem session_game_of_not_countable {a : Account} {commands : List Command}
    (hsize : a.origin.keepsSize = true) (hnow : a.turns < 2 ^ 64) (h : ¬a.Countable commands) :
    a.game.session commands = .error (.overflow .add) := by
  induction commands generalizing a with
  | nil => exact absurd (countable_nil.2 hnow) h
  | cons c rest ih =>
      rw [Game.session_cons, obey_game hsize hnow]
      by_cases hn : (a.enter c).turns < 2 ^ 64
      · rw [if_pos hn]
        exact ih (keepsSize_origin_enter hsize c) hn fun hlater =>
          h (countable_cons.2 ⟨hnow, hlater⟩)
      · rw [if_neg hn]
        rfl

/-! ### The run of an account -/

/-- The directions of an account lead to its game, each of them accepted in turn. -/
def Led (a : Account) : Prop := Game.Leads a.origin a.moves a.game

theorem led_begun (g : Game) : (begun g).Led := .nil g

theorem Led.arrive {a : Account} (hrun : a.Led) {d : Direction}
    (hn : (a.arrive d).turns < 2 ^ 64) : (a.arrive d).Led := by
  cases hf : a.game.isFinished with
  | true =>
      rw [arrive_of_finished hf]
      exact hrun
  | false =>
      rw [turns_arrive hf] at hn
      have hg := Game.isFinished_eq_false_iff.1 hf
      have hnumber := turnNumber_game (a := a) (by omega)
      have hmove := Game.move_eq_advance d hg (by omega)
      have hsnoc : Game.Leads a.origin (a.moves ++ [d]) (a.game.advance d).1 := hrun.snoc hg hmove
      rw [Led, game_arrive hf, arrive_of_playing hf]
      exact hsnoc

theorem Led.foldl_arrive {a : Account} (hrun : a.Led) {moves : List Direction}
    (hn : (moves.foldl Account.arrive a).turns < 2 ^ 64) : (moves.foldl Account.arrive a).Led := by
  induction moves generalizing a with
  | nil => exact hrun
  | cons d moves ih =>
      have hle := turns_le_foldl_arrive (a.arrive d) moves
      exact ih (hrun.arrive (Nat.lt_of_le_of_lt hle hn)) hn

theorem Led.enter {a : Account} (hrun : a.Led) {c : Command} (hn : (a.enter c).turns < 2 ^ 64) :
    (a.enter c).Led := by
  by_cases hreset : c = .reset
  · subst hreset
    exact .nil _
  · rw [enter_eq_arrive a hreset] at hn ⊢
    exact hrun.foldl_arrive hn

theorem Led.follow {a : Account} (hrun : a.Led) {commands : List Command}
    (h : a.Countable commands) : (a.follow commands).Led := by
  induction commands generalizing a with
  | nil => exact hrun
  | cons c rest ih =>
      have hlater := (countable_cons.1 h).2
      exact ih (hrun.enter (turns_lt_of_countable hlater)) hlater

/-! ### Counting -/

/-- No more turns are counted than directions were accepted. -/
def Covered (a : Account) : Prop := a.turns ≤ a.total

theorem Covered.arrive {a : Account} (h : a.Covered) (d : Direction) : (a.arrive d).Covered := by
  cases hf : a.game.isFinished with
  | true =>
      rw [arrive_of_finished hf]
      exact h
  | false =>
      have hturns := turns_arrive hf d
      have htotal : (a.arrive d).total = a.total + 1 := by rw [arrive_of_playing hf]
      unfold Covered at h ⊢
      omega

theorem Covered.follow {a : Account} (h : a.Covered) (commands : List Command) :
    (a.follow commands).Covered :=
  follow_induction (fun _ d ha => ha.arrive d) (fun _ _ => Nat.zero_le _) h commands

theorem total_le_arrive (a : Account) (d : Direction) : a.total ≤ (a.arrive d).total := by
  unfold arrive
  split
  · exact Nat.le_refl _
  · exact Nat.le_succ _

theorem total_le_follow (a : Account) (commands : List Command) :
    a.total ≤ (a.follow commands).total :=
  follow_induction (fun b d hb => Nat.le_trans hb (total_le_arrive b d)) (fun _ hb => hb)
    (Nat.le_refl _) commands

/-- When fewer directions are accepted than can be counted, the turns can be counted throughout. -/
theorem Covered.countable_of_total_lt {a : Account} (h : a.Covered) {commands : List Command}
    (hn : (a.follow commands).total < 2 ^ 64) : a.Countable commands := by
  rintro before ⟨rest, rfl⟩
  rw [follow_append] at hn
  have hcovered : (a.follow before).turns ≤ (a.follow before).total := h.follow before
  have hle := total_le_follow (a.follow before) rest
  omega

end Account

/-! ### Sessions of a new game -/

namespace Game

/-- The account of a session. -/
def account (g : Game) (commands : List Command) : Account := (Account.begun g).follow commands

/-- **A session whose turns can be counted comes to the game of its account.** -/
theorem session_of_countable {g : Game} {commands : List Command} (hsize : g.keepsSize = true)
    (h : (Account.begun g).Countable commands) :
    g.session commands = .ok (g.account commands).game :=
  Account.session_game (a := .begun g) hsize h

/-- A session whose turns cannot be counted is stopped. -/
theorem session_of_not_countable {g : Game} {commands : List Command}
    (hsize : g.keepsSize = true) (h : ¬(Account.begun g).Countable commands) :
    g.session commands = .error (.overflow .add) :=
  Account.session_game_of_not_countable (a := .begun g) hsize g.turnNumber.toNat_lt h

/-- However often a new game is started over, its session goes back to the same game. -/
theorem origin_account_start (grid : Grid) (seed : UInt64) (commands : List Command) :
    ((start grid seed).account commands).origin = start grid seed := by
  refine Account.follow_induction (P := fun a => a.origin = start grid seed) ?_ ?_ rfl commands
  · intro a d ha
    rw [Account.origin_arrive, ha]
  · intro a ha
    change a.origin.reset = _
    rw [ha, reset_start]

/-- A command leaves no trace when it asks for no direction, and neither does one that comes after
the end of the play. -/
theorem obey_of_idle {g : Game} (hsize : g.keepsSize = true) {c : Command} (hreset : c ≠ .reset)
    (hidle : c.directions = [] ∨ g.isFinished = true) : g.obey c = .ok g := by
  by_cases hreload : c = .reload
  · subst hreload
    exact load_save hsize
  · rw [obey_eq_play g hreset hreload]
    rcases hidle with hnone | hfinished
    · rw [hnone]
      rfl
    · rw [play_of_isFinished hfinished]
      rfl

/-- **A session of a new game is the run of the directions accepted since it was last started
over.**  It comes to the game of the account, which is reached by one accepted move for each of
these directions and counts as many turns.  Starting over gives the new game again, and what asks
for no direction or comes after the end leaves no trace. -/
theorem session_start (grid : Grid) (seed : UInt64) (commands : List Command)
    (h : ((start grid seed).account commands).total < 2 ^ 64) :
    (start grid seed).session commands = .ok ((start grid seed).account commands).game ∧
      Leads (start grid seed) ((start grid seed).account commands).moves
        ((start grid seed).account commands).game ∧
      ((start grid seed).account commands).game.turnNumber.toNat =
        ((start grid seed).account commands).moves.length ∧
      (start grid seed).session (commands ++ [.reset]) = .ok (start grid seed) ∧
      ∀ c, c ≠ .reset →
        c.directions = [] ∨ ((start grid seed).account commands).game.isFinished = true →
          (start grid seed).session (commands ++ [c]) =
            .ok ((start grid seed).account commands).game := by
  have hcovered : (Account.begun (start grid seed)).Covered := Nat.le_refl 0
  have hcountable := hcovered.countable_of_total_lt h
  have horigin := origin_account_start grid seed commands
  have hsession := session_of_countable (keepsSize_start grid seed) hcountable
  have hrun : ((start grid seed).account commands).Led :=
    (Account.led_begun (start grid seed)).follow hcountable
  rw [Account.Led, horigin] at hrun
  have hsize := keepsSize_of_session (keepsSize_start grid seed) hsession
  refine ⟨hsession, hrun, ?_, ?_, ?_⟩
  · rw [hrun.turnNumber]
    exact Nat.zero_add _
  · rw [session_append, hsession]
    change Except.ok ((start grid seed).account commands).game.reset = _
    rw [Account.game, reset_after, horigin, reset_start]
  · intro c hreset hidle
    rw [session_append, hsession]
    change ((start grid seed).account commands).game.session [c] = _
    rw [session_cons, obey_of_idle hsize hreset hidle]
    rfl

/-- A level that is lost by a step up, which pushes a word out of the only sentence. -/
def brittleLevel : Grid :=
  .ofFitting 3 3
    #[.empty, .empty, .empty,
      .ofKinds [.word .baba], .ofKinds [.is], .ofKinds [.property .you],
      .ofKinds [.icon .baba], .empty, .empty]
    (by decide)

/-- A session on that level with every kind of command; it is started over after the level has been
lost. -/
def brittleSession : List Command :=
  [.text "sideways", .play [.up, .down, .down], .move .left, .reset, .text " Right ", .code 9,
    .reload]

/-- Two directions are accepted in that session, and the game it comes to is that of the second
one alone. -/
theorem session_start_brittleLevel :
    ((start brittleLevel 7).account brittleSession).total = 2 ∧
      ∃ g, (start brittleLevel 7).session brittleSession = .ok g ∧
        Leads (start brittleLevel 7) [.right] g ∧ g.turnNumber.toNat = 1 ∧
        (start brittleLevel 7).session (brittleSession ++ [.reset]) =
          .ok (start brittleLevel 7) := by
  have haccount : ((start brittleLevel 7).account brittleSession).moves = [.right] ∧
      ((start brittleLevel 7).account brittleSession).total = 2 := by decide +kernel
  obtain ⟨hmoves, htotal⟩ := haccount
  obtain ⟨hsession, hrun, hcount, hreset, _⟩ :=
    session_start brittleLevel 7 brittleSession (by rw [htotal]; decide)
  rw [hmoves] at hrun hcount
  exact ⟨htotal, _, hsession, hrun, hcount, hreset⟩

end Game

end RuleTiles
