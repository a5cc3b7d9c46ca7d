import WordGame.Game.Run
import WordGame.Proofs.Game.Search

/-!
How a game goes on: it is decided, or the turn passes to the next player alive.

While two are alive nothing but a change of turn can come of passing it on, and the search for the
next player cannot fail. The ticket of the turn that is running can be read off the room.
-/

namespace WordGame

namespace Room

/-- Who wins a decided game: the survivor, or the top scorer where nobody survives. -/
def champion (room : Room) : PlayerId :=
  match room.alive with
  | [] => room.topScorer
  | survivor :: _ => survivor

def runningTicket? (room : Room) : Option Ticket :=
  room.current?.map fun player =>
    ⟨room.epoch, room.turnNumber, room.turnIndex, player, room.timeLimit⟩

theorem current?_eq_some_iff (room : Room) (player : PlayerId) :
    room.current? = some player ↔
      room.phase = .inProgress ∧ room.players[room.turnIndex]? = some player := by
  unfold current? started
  by_cases running : room.phase = .inProgress
  · simp [running]
  · simp [running]

theorem runningTicket?_eq_some_iff (room : Room) (ticket : Ticket) :
    room.runningTicket? = some ticket ↔
      room.isRunning ticket = true ∧ ticket.timeLimit = room.timeLimit := by
  unfold runningTicket? isRunning
  simp only [Option.map_eq_some_iff, current?_eq_some_iff, decide_eq_true_eq]
  constructor
  · rintro ⟨player, ⟨running, held⟩, rfl⟩
    exact ⟨⟨running, rfl, rfl, rfl, held⟩, rfl⟩
  · rintro ⟨⟨running, epoch, number, index, held⟩, limit⟩
    refine ⟨ticket.player, ⟨running, held⟩, ?_⟩
    rw [epoch, number, index, ← limit]

/-- Newcomers sit behind the others, so they do not get in the way of the turn. -/
theorem current?_enrol {room : Room} {player holder : PlayerId} (lives : UInt32)
    (current : room.current? = some holder) :
    (room.enrol player lives).current? = some holder := by
  obtain ⟨running, seated⟩ := (room.current?_eq_some_iff holder).mp current
  obtain ⟨within, _⟩ := List.getElem?_eq_some_iff.mp seated
  refine ((room.enrol player lives).current?_eq_some_iff holder).mpr ⟨running, ?_⟩
  change (room.players ++ [player])[room.turnIndex]? = some holder
  rw [List.getElem?_append_left within]
  exact seated

theorem isRunning_iff (room : Room) (ticket : Ticket) :
    room.isRunning ticket = true ↔
      room.epoch = ticket.epoch ∧ room.turnNumber = ticket.number ∧
        room.turnIndex = ticket.turnIndex ∧ room.current? = some ticket.player := by
  rw [current?_eq_some_iff]
  unfold isRunning
  rw [decide_eq_true_eq]
  constructor
  · rintro ⟨running, epoch, number, index, held⟩
    exact ⟨epoch, number, index, running, held⟩
  · rintro ⟨epoch, number, index, running, held⟩
    exact ⟨running, epoch, number, index, held⟩

end Room

namespace Play

variable {rules : Rules} {supply : Supply} {play later : Play}

theorem conclude_of_decided (play : Play) (running : play.room.phase = .inProgress)
    (decided : play.room.aliveCount ≤ 1) : play.conclude = play.finish play.room.champion := by
  unfold conclude Room.champion
  unfold Room.aliveCount at decided
  rw [running]
  match living : play.room.alive with
  | [] => rfl
  | [survivor] => rfl
  | first :: second :: rest =>
    rw [living] at decided
    simp only [List.length_cons] at decided
    omega

theorem conclude_of_contested (play : Play) (running : play.room.phase = .inProgress)
    (contested : 2 ≤ play.room.aliveCount) : play.conclude = play := by
  unfold conclude
  unfold Room.aliveCount at contested
  rw [running]
  match living : play.room.alive with
  | [] =>
    rw [living] at contested
    cases contested
  | [survivor] =>
    rw [living] at contested
    simp only [List.length_cons, List.length_nil] at contested
    omega
  | first :: second :: rest => rfl

theorem conclude_of_waiting (play : Play) (waiting : play.room.phase = .waiting) :
    play.conclude = play := by
  unfold conclude
  rw [waiting]

theorem conclude_of_finished (play : Play) (finished : play.room.phase = .finished) :
    play.conclude = { play with outcome := { play.outcome with gameOver := true } } := by
  unfold conclude
  rw [finished]

inductive Passes (rules : Rules) (supply : Supply) (play : Play) : Play → Prop
  | ended (decided : play.room.aliveCount ≤ 1) :
      Passes rules supply play (play.finish play.room.champion)
  | on (index : Nat) (player : PlayerId) (contested : 2 ≤ play.room.aliveCount)
      (next : play.room.next? = some (index, player)) :
      Passes rules supply play ((play.countRound index).startTurn rules supply index player)

theorem advance_passes (play : Play) (running : play.room.phase = .inProgress) :
    play.Passes rules supply (play.advance rules supply) := by
  unfold advance
  rw [if_pos running]
  by_cases decided : play.room.aliveCount ≤ 1
  · rw [play.conclude_of_decided running decided]
    exact .ended decided
  · have contested : 2 ≤ play.room.aliveCount := by omega
    have unfinished : play.room.phase ≠ .finished := by
      rw [running]
      decide
    obtain ⟨index, player, next⟩ := play.room.exists_next? (by omega)
    rw [play.conclude_of_contested running contested]
    simp only [if_neg unfinished, next]
    exact .on index player contested next

inductive Opens (rules : Rules) (supply : Supply) (play : Play) : Play → Prop
  | ended (decided : play.room.aliveCount ≤ 1) :
      Opens rules supply play (play.finish play.room.champion)
  | on (index : Nat) (player : PlayerId) (contested : 2 ≤ play.room.aliveCount)
      (first : play.room.firstAlive? (List.range play.room.players.length) =
        some (index, player)) :
      Opens rules supply play (play.startTurn rules supply index player)

/-- What a play leads to when the game has gone on: its end, or a turn with a ticket. -/
inductive Closes (supply : Supply) (play : Play) (later : Play) : Prop
  | ended (standings : play.room.SameStandings later.room)
      (finished : later.room.phase = .finished) (ticketless : later.outcome.turn = none)
      (reported : later.outcome.gameOver = true) (told : later.outcome.messages ≠ [])
  | turn (ticket : Ticket) (standings : play.room.SameStandings later.room)
      (contested : 2 ≤ later.room.aliveCount) (living : later.room.isAlive ticket.player = true)
      (running : later.room.runningTicket? = some ticket)
      (issued : later.outcome.turn = some ticket) (number : ticket.number = supply.turnNumber)
      (unreported : later.outcome.gameOver = play.outcome.gameOver)

theorem Closes.standings (closes : play.Closes supply later) :
    play.room.SameStandings later.room := by
  cases closes with
  | ended standings => exact standings
  | turn _ standings => exact standings

theorem messages_finish_ne_nil (play : Play) (winner : PlayerId) :
    (play.finish winner).outcome.messages ≠ [] :=
  List.append_ne_nil_of_right_ne_nil _ (List.cons_ne_nil _ _)

theorem finish_closes (winner : PlayerId) : play.Closes supply (play.finish winner) :=
  .ended ⟨rfl, rfl, rfl, rfl, rfl, rfl⟩ rfl rfl rfl (messages_finish_ne_nil play winner)

theorem startTurn_closes (index : Nat) (player : PlayerId)
    (running : play.room.phase = .inProgress) (contested : 2 ≤ play.room.aliveCount)
    (seated : play.room.players[index]? = some player)
    (living : play.room.isAlive player = true) :
    play.Closes supply (play.startTurn rules supply index player) := by
  have standings : play.room.SameStandings (play.startTurn rules supply index player).room :=
    ⟨rfl, rfl, rfl, rfl, rfl, rfl⟩
  refine .turn _ standings ?_ ?_ ?_ rfl rfl rfl
  · rw [standings.aliveCount]
    exact contested
  · rw [standings.isAlive]
    exact living
  · rw [Room.runningTicket?_eq_some_iff, Room.isRunning_iff, Room.current?_eq_some_iff]
    exact ⟨⟨rfl, rfl, rfl, running, seated⟩, rfl⟩

theorem countRound_standings (index : Nat) :
    play.room.SameStandings (play.countRound index).room := by
  unfold countRound
  split
  · exact ⟨rfl, rfl, rfl, rfl, rfl, rfl⟩
  · exact .refl _

theorem countRound_outcome (index : Nat) : (play.countRound index).outcome = play.outcome := by
  unfold countRound
  split
  · rfl
  · rfl

theorem countRound_phase (index : Nat) : (play.countRound index).room.phase = play.room.phase := by
  unfold countRound
  split
  · rfl
  · rfl

theorem Passes.closes (passes : play.Passes rules supply later)
    (running : play.room.phase = .inProgress) : play.Closes supply later := by
  cases passes with
  | ended decided => exact finish_closes _
  | on index player contested next =>
    have counted := play.countRound_standings index
    obtain ⟨seated, living⟩ := Room.seated_of_firstAlive? next
    have closes : (play.countRound index).Closes supply
        ((play.countRound index).startTurn rules supply index player) := by
      refine startTurn_closes index player ?_ ?_ ?_ ?_
      · rw [countRound_phase, running]
      · rw [counted.aliveCount]
        exact contested
      · rw [counted.players]
        exact seated
      · rw [counted.isAlive]
        exact living
    cases closes with
    | ended standings finished ticketless reported told =>
      exact .ended (counted.trans standings) finished ticketless reported told
    | turn ticket standings contested living running issued number unreported =>
      rw [countRound_outcome] at unreported
      exact .turn ticket (counted.trans standings) contested living running issued number
        unreported

theorem Passes.told (passes : play.Passes rules supply later) : later.outcome.messages ≠ [] := by
  cases passes with
  | ended => exact messages_finish_ne_nil play _
  | on => exact List.append_ne_nil_of_right_ne_nil _ (List.cons_ne_nil _ _)

theorem Opens.closes (opens : play.Opens rules supply later)
    (running : play.room.phase = .inProgress) : play.Closes supply later := by
  cases opens with
  | ended decided => exact finish_closes _
  | on index player contested first =>
    obtain ⟨seated, living⟩ := Room.seated_of_firstAlive? first
    exact startTurn_closes index player running contested seated living

end Play

end WordGame
