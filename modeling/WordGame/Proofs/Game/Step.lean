import WordGame.Proofs.Game.Passing

/-!
The rules of the game as a relation: every move in a room is one of a few kinds of steps, each with
the circumstances in which it is made. What a run preserves is shown for each of them.
-/

namespace WordGame.Room

def Ignores (room : Room) : Move → Prop
  | .add player _ => room.hasPlayer player = true ∧ ¬(room.phase = .waiting ∧ room.livesOf player = 0)
  | .start => room.phase ≠ .waiting
  | .advance => room.phase ≠ .inProgress
  | .answer player _ => room.current? ≠ some player
  | .expire ticket => room.isRunning ticket = false
  | .remove player => room.hasPlayer player = false ∨ room.phase = .finished
  | .check => room.phase = .waiting ∨ room.phase = .inProgress ∧ 2 ≤ room.aliveCount

inductive Step (rules : Rules) (supply : Supply) (room : Room) : Move → Play → Prop
  | ignored {move : Move} (ignores : room.Ignores move) : Step rules supply room move (Play.begin room)
  | reported (finished : room.phase = .finished) :
      Step rules supply room .check ⟨room, { Outcome.nothing with gameOver := true }⟩
  | enrolled {player : PlayerId} {lives : UInt32} (new : room.hasPlayer player = false) :
      Step rules supply room (.add player lives) (Play.begin (room.enrol player lives))
  /-- Whoever left during the countdown comes back. -/
  | revived {player : PlayerId} {lives : UInt32} (waiting : room.phase = .waiting)
      (present : room.hasPlayer player = true) (out : room.livesOf player = 0) :
      Step rules supply room (.add player lives) (Play.begin (room.setLives player lives))
  | withdrawn {player : PlayerId} (waiting : room.phase = .waiting)
      (present : room.hasPlayer player = true) :
      Step rules supply room (.remove player) (Play.begin (room.eliminate player))
  | opened {later : Play} (waiting : room.phase = .waiting)
      (opens : (room.opening rules supply).Opens rules supply later) :
      Step rules supply room .start later
  | passed {later : Play} (running : room.phase = .inProgress)
      (passes : (Play.begin room).Passes rules supply later) :
      Step rules supply room .advance later
  | expired {ticket : Ticket} {later : Play} (running : room.isRunning ticket = true)
      (passes : (room.timeUp ticket.player).Passes rules supply later) :
      Step rules supply room (.expire ticket) later
  | accepted {player : PlayerId} {text : String} {later : Play}
      (current : room.current? = some player)
      (accepts : room.accepts rules (Text.trim text) = true)
      (passes : (room.reward supply player (Text.trim text)).Passes rules supply later) :
      Step rules supply room (.answer player text) later
  /-- A wrong answer that leaves at most one player alive. -/
  | lost {player : PlayerId} {text : String} (current : room.current? = some player)
      (refuses : room.accepts rules (Text.trim text) = false)
      (decided : (room.loseLife player).aliveCount ≤ 1) :
      Step rules supply room (.answer player text)
        ((room.penalty player (Text.trim text)).finish (room.loseLife player).champion)
  /-- A wrong answer that costs the player the last life, but not the others the game. -/
  | failed {player : PlayerId} {text : String} {later : Play}
      (current : room.current? = some player)
      (refuses : room.accepts rules (Text.trim text) = false)
      (contested : 2 ≤ (room.loseLife player).aliveCount)
      (out : (room.loseLife player).livesOf player = 0)
      (passes : (room.penalty player (Text.trim text)).Passes rules supply later) :
      Step rules supply room (.answer player text) later
  /-- A wrong answer of a player with lives left, whose turn goes on. -/
  | erred {player : PlayerId} {text : String} (current : room.current? = some player)
      (refuses : room.accepts rules (Text.trim text) = false)
      (contested : 2 ≤ (room.loseLife player).aliveCount)
      (left : (room.loseLife player).livesOf player ≠ 0) :
      Step rules supply room (.answer player text) (room.penalty player (Text.trim text))
  /-- The player whose turn it is leaves. -/
  | resigned {player : PlayerId} {later : Play} (present : room.hasPlayer player = true)
      (current : room.current? = some player)
      (passes : (Play.begin (room.eliminate player)).Passes rules supply later) :
      Step rules supply room (.remove player) later
  /-- Another player leaves, and at most one is left alive. -/
  | abandoned {player : PlayerId} (running : room.phase = .inProgress)
      (present : room.hasPlayer player = true) (other : room.current? ≠ some player)
      (decided : (room.eliminate player).aliveCount ≤ 1) :
      Step rules supply room (.remove player)
        ((Play.begin (room.eliminate player)).finish (room.eliminate player).champion)
  /-- Another player leaves, and the turn goes on. -/
  | left {player : PlayerId} (running : room.phase = .inProgress)
      (present : room.hasPlayer player = true) (other : room.current? ≠ some player)
      (contested : 2 ≤ (room.eliminate player).aliveCount) :
      Step rules supply room (.remove player) (Play.begin (room.eliminate player))
  | decided (running : room.phase = .inProgress) (decided : room.aliveCount ≤ 1) :
      Step rules supply room .check ((Play.begin room).finish room.champion)

variable {rules : Rules} {supply : Supply} {room : Room}

theorem hasPlayer_eq (player : PlayerId) :
    room.hasPlayer player = (room.lives.get? player).isSome := rfl

theorem addPlayer_step (player : PlayerId) (lives : UInt32) :
    room.Step rules supply (.add player lives) (Play.begin (room.addPlayer player lives).1) := by
  unfold addPlayer
  cases listed : room.lives.get? player with
  | none =>
    refine .enrolled ?_
    rw [hasPlayer_eq, listed]
    rfl
  | some held =>
    have present : room.hasPlayer player = true := by
      rw [hasPlayer_eq, listed]
      rfl
    have livesHeld : room.livesOf player = held := by
      unfold livesOf Table.getD
      rw [listed]
      rfl
    dsimp only
    by_cases out : room.phase = .waiting ∧ held = 0
    · rw [if_pos out]
      exact .revived out.1 present (livesHeld.trans out.2)
    · rw [if_neg out]
      refine .ignored ⟨present, ?_⟩
      rw [livesHeld]
      exact out

theorem opening_phase (room : Room) (rules : Rules) (supply : Supply) :
    (room.opening rules supply).room.phase = .inProgress := rfl

theorem start_step : room.Step rules supply .start (room.start rules supply) := by
  unfold start
  by_cases waiting : room.phase = .waiting
  · rw [if_pos waiting]
    refine .opened waiting ?_
    have running := room.opening_phase rules supply
    by_cases decided : (room.opening rules supply).room.aliveCount ≤ 1
    · rw [Play.conclude_of_decided _ running decided]
      exact .ended decided
    · have contested : 2 ≤ (room.opening rules supply).room.aliveCount := by omega
      have unfinished : (room.opening rules supply).room.phase ≠ .finished := by
        rw [running]
        decide
      obtain ⟨index, player, first⟩ :=
        (room.opening rules supply).room.exists_firstAlive?
          (fun index within => List.mem_range.mpr within) (by omega)
      rw [Play.conclude_of_contested _ running contested]
      simp only [if_neg unfinished, first]
      exact .on index player contested first
  · rw [if_neg waiting]
    exact .ignored waiting

theorem expire_of_stale {ticket : Ticket} (stale : room.isRunning ticket = false) :
    room.expire rules supply ticket = Play.begin room := by
  unfold expire
  rw [stale, if_neg Bool.false_ne_true]

theorem expire_step (ticket : Ticket) :
    room.Step rules supply (.expire ticket) (room.expire rules supply ticket) := by
  unfold expire
  cases running : room.isRunning ticket with
  | false => exact .ignored running
  | true =>
    have inProgress : room.phase = .inProgress :=
      ((room.current?_eq_some_iff _).mp ((room.isRunning_iff ticket).mp running).2.2.2).1
    exact .expired running (Play.advance_passes _ inProgress)

theorem answerWrong_step (player : PlayerId) (text : String)
    (current : room.current? = some player)
    (refuses : room.accepts rules (Text.trim text) = false) :
    room.Step rules supply (.answer player text)
      (room.answerWrong rules supply player (Text.trim text)) := by
  have running : (room.penalty player (Text.trim text)).room.phase = .inProgress :=
    ((room.current?_eq_some_iff _).mp current).1
  unfold answerWrong
  by_cases decided : (room.loseLife player).aliveCount ≤ 1
  · rw [Play.conclude_of_decided _ running decided]
    exact .lost current refuses decided
  · have contested : 2 ≤ (room.loseLife player).aliveCount := by omega
    have unfinished : (room.penalty player (Text.trim text)).room.phase ≠ .finished := by
      rw [running]
      decide
    rw [Play.conclude_of_contested _ running contested]
    simp only [if_neg unfinished]
    by_cases out : (room.loseLife player).livesOf player = 0
    · rw [if_pos ⟨out, current⟩]
      exact .failed current refuses contested out (Play.advance_passes _ running)
    · rw [if_neg (fun both => out both.1)]
      exact .erred current refuses contested out

theorem answer_step (player : PlayerId) (text : String) :
    room.Step rules supply (.answer player text) (room.answer rules supply player text) := by
  unfold answer
  by_cases current : room.current? = some player
  · rw [if_pos current]
    have running : room.phase = .inProgress := ((room.current?_eq_some_iff _).mp current).1
    dsimp only
    cases accepts : room.accepts rules (Text.trim text) with
    | true => exact .accepted current accepts (Play.advance_passes _ running)
    | false => exact room.answerWrong_step player text current accepts
  · rw [if_neg current]
    exact .ignored current

theorem remove_step (player : PlayerId) :
    room.Step rules supply (.remove player) (room.remove rules supply player) := by
  unfold remove
  cases present : room.hasPlayer player with
  | false => exact .ignored (.inl present)
  | true =>
    rw [if_pos rfl]
    cases phase : room.phase with
    | waiting => exact .withdrawn phase present
    | finished => exact .ignored (.inr phase)
    | inProgress =>
      have running : (Play.begin (room.eliminate player)).room.phase = .inProgress := phase
      dsimp only
      by_cases current : room.current? = some player
      · rw [if_pos current]
        exact .resigned present current (Play.advance_passes _ running)
      · rw [if_neg current]
        by_cases decided : (room.eliminate player).aliveCount ≤ 1
        · rw [Play.conclude_of_decided _ running decided]
          exact .abandoned phase present current decided
        · have contested : 2 ≤ (room.eliminate player).aliveCount := by omega
          rw [Play.conclude_of_contested _ running contested]
          exact .left phase present current contested

theorem check_step : room.Step rules supply .check room.check := by
  unfold check
  cases phase : room.phase with
  | waiting =>
    rw [(Play.begin room).conclude_of_waiting phase]
    exact .ignored (.inl phase)
  | finished =>
    rw [(Play.begin room).conclude_of_finished phase]
    exact .reported phase
  | inProgress =>
    by_cases decided : room.aliveCount ≤ 1
    · rw [(Play.begin room).conclude_of_decided phase decided]
      exact .decided phase decided
    · have contested : 2 ≤ room.aliveCount := by omega
      rw [(Play.begin room).conclude_of_contested phase contested]
      exact .ignored (.inr ⟨phase, contested⟩)

theorem perform_step (room : Room) (rules : Rules) (supply : Supply) (move : Move) :
    room.Step rules supply move (room.perform rules supply move) := by
  cases move with
  | add player lives => exact addPlayer_step player lives
  | start => exact start_step
  | advance =>
    by_cases running : room.phase = .inProgress
    · exact .passed running (Play.advance_passes _ running)
    · have still : room.advance rules supply = Play.begin room := by
        unfold advance Play.advance
        exact if_neg running
      change room.Step rules supply .advance (room.advance rules supply)
      rw [still]
      exact .ignored running
  | answer player text => exact answer_step player text
  | expire ticket => exact expire_step ticket
  | remove player => exact remove_step player
  | check => exact check_step

end WordGame.Room
