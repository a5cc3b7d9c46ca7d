import WordGame.Proofs.Game.Alteration

/-!
What a move means for the clock: the running turn goes on, the game is over, or a new turn has a
ticket. Nothing but the start ends the countdown.
-/

namespace WordGame

theorem Outcome.turnsAfter_of_issued {outcome : Outcome} {ticket : Ticket} (turns : UInt64)
    (issued : outcome.turn = some ticket) : outcome.turnsAfter turns = ticket.number := by
  unfold turnsAfter
  rw [issued]

theorem Outcome.turnsAfter_of_ticketless {outcome : Outcome} (turns : UInt64)
    (ticketless : outcome.turn = none) : outcome.turnsAfter turns = turns := by
  unfold turnsAfter
  rw [ticketless]

namespace Room

/-- The circumstances in which a move need not touch the clock. -/
def Undisturbed (room : Room) : Move → Prop
  | .start => room.phase ≠ .waiting
  | .expire ticket => room.isRunning ticket = false
  | _ => True

inductive Sequel (supply : Supply) (room : Room) (move : Move) (play : Play) : Prop
  | same (undisturbed : room.Undisturbed move) (phase : play.room.phase = room.phase)
      (number : play.room.turnNumber = room.turnNumber)
      (running : ∀ ticket, room.runningTicket? = some ticket →
        play.room.runningTicket? = some ticket)
      (ticketless : play.outcome.turn = none) (unreported : play.outcome.gameOver = false)
  | ended (began : room.phase = .waiting → move = .start)
      (finished : play.room.phase = .finished) (ticketless : play.outcome.turn = none)
      (reported : play.outcome.gameOver = true)
      (told : move = .check ∨ play.outcome.messages ≠ [])
  | turn (ticket : Ticket) (began : room.phase = .waiting → move = .start)
      (unfinished : room.phase ≠ .finished)
      (running : play.room.runningTicket? = some ticket)
      (issued : play.outcome.turn = some ticket) (number : ticket.number = supply.turnNumber)
      (unreported : play.outcome.gameOver = false)

variable {rules : Rules} {supply : Supply} {room : Room} {move : Move} {play later : Play}

theorem running_of_runningTicket? {ticket : Ticket} (running : room.runningTicket? = some ticket) :
    room.phase = .inProgress :=
  running_of_isRunning ((room.runningTicket?_eq_some_iff ticket).mp running).1

/-- Whether a ticket is that of the running turn does not hang on the seconds that it names. -/
theorem isRunning_iff_runningTicket? (room : Room) (ticket : Ticket) :
    room.isRunning ticket = true ↔
      room.runningTicket? = some { ticket with timeLimit := room.timeLimit } := by
  rw [runningTicket?_eq_some_iff]
  exact (and_iff_left rfl).symm

theorem turnNumber_of_runningTicket? {ticket : Ticket}
    (running : room.runningTicket? = some ticket) : room.turnNumber = ticket.number :=
  ((room.isRunning_iff ticket).mp ((room.runningTicket?_eq_some_iff ticket).mp running).1).2.1

theorem isRunning_of_same {ticket : Ticket}
    (goesOn : ∀ ticket, room.runningTicket? = some ticket →
      play.room.runningTicket? = some ticket)
    (running : room.isRunning ticket = true) : play.room.isRunning ticket = true := by
  have still := goesOn _ ((room.isRunning_iff_runningTicket? ticket).mp running)
  have running := ((play.room.runningTicket?_eq_some_iff _).mp still).1
  exact (play.room.isRunning_iff ticket).mpr ((play.room.isRunning_iff _).mp running)

theorem runningTicket?_enrol {player : PlayerId} (lives : UInt32) {ticket : Ticket}
    (running : room.runningTicket? = some ticket) :
    (room.enrol player lives).runningTicket? = some ticket := by
  obtain ⟨holder, current, same⟩ := Option.map_eq_some_iff.mp running
  exact Option.map_eq_some_iff.mpr ⟨holder, current?_enrol lives current, same⟩

theorem began_of_running (running : room.phase = .inProgress) :
    room.phase = .waiting → move = .start := by
  intro waiting
  rw [running] at waiting
  cases waiting

theorem unfinished_of_running (running : room.phase = .inProgress) : room.phase ≠ .finished := by
  rw [running]
  decide

theorem finish_sequel (running : room.phase = .inProgress) (play : Play) (winner : PlayerId) :
    room.Sequel supply move (play.finish winner) :=
  .ended (began_of_running running) rfl rfl rfl (.inr (play.messages_finish_ne_nil winner))

theorem closes_sequel (began : room.phase = .waiting → move = .start)
    (unfinished : room.phase ≠ .finished) (unreported : play.outcome.gameOver = false)
    (closes : play.Closes supply later) : room.Sequel supply move later := by
  cases closes with
  | ended _ finished ticketless reported told =>
    exact .ended began finished ticketless reported (.inr told)
  | turn ticket _ _ _ running issued number same =>
    exact .turn ticket began unfinished running issued number (same.trans unreported)

theorem passes_sequel (running : room.phase = .inProgress)
    (still : play.room.phase = .inProgress) (unreported : play.outcome.gameOver = false)
    (passes : play.Passes rules supply later) : room.Sequel supply move later :=
  closes_sequel (began_of_running running) (unfinished_of_running running) unreported
    (passes.closes still)

theorem Ignores.undisturbed (ignores : room.Ignores move) : room.Undisturbed move := by
  cases move with
  | start => exact ignores
  | expire ticket => exact ignores
  | add | advance | answer | remove | check => trivial

theorem Step.sequel (step : room.Step rules supply move play) :
    room.Sequel supply move play := by
  cases step with
  | ignored ignores =>
    exact .same ignores.undisturbed rfl rfl (fun _ running => running) rfl rfl
  | reported finished =>
    exact .ended (fun waiting => nomatch finished.symm.trans waiting) finished rfl rfl (.inl rfl)
  | enrolled =>
    exact .same trivial rfl rfl (fun _ running => runningTicket?_enrol _ running) rfl rfl
  | revived => exact .same trivial rfl rfl (fun _ running => running) rfl rfl
  | withdrawn => exact .same trivial rfl rfl (fun _ running => running) rfl rfl
  | opened waiting opens =>
    have unfinished : room.phase ≠ .finished := by
      rw [waiting]
      decide
    exact closes_sequel (fun _ => rfl) unfinished rfl (opens.closes rfl)
  | passed running passes => exact passes_sequel running running rfl passes
  | expired running passes =>
    have running := running_of_isRunning running
    exact passes_sequel running running rfl passes
  | accepted current _ passes | failed current _ _ _ passes | resigned _ current passes =>
    have running := running_of_current? current
    exact passes_sequel running running rfl passes
  | lost current => exact finish_sequel (running_of_current? current) _ _
  | abandoned running | decided running => exact finish_sequel running _ _
  | erred => exact .same trivial rfl rfl (fun _ running => running) rfl rfl
  | left => exact .same trivial rfl rfl (fun _ running => running) rfl rfl

theorem perform_sequel (room : Room) (rules : Rules) (supply : Supply) (move : Move) :
    room.Sequel supply move (room.perform rules supply move) :=
  (room.perform_step rules supply move).sequel

theorem Sequel.finished (sequel : room.Sequel supply move play)
    (finished : room.phase = .finished) : play.room.phase = .finished := by
  cases sequel with
  | same _ phase => exact phase.trans finished
  | ended _ finished => exact finished
  | turn _ _ unfinished => exact absurd finished unfinished

theorem Sequel.waiting (sequel : room.Sequel supply move play)
    (waiting : play.room.phase = .waiting) : room.phase = .waiting := by
  cases sequel with
  | same _ phase => exact phase.symm.trans waiting
  | ended _ finished => cases finished.symm.trans waiting
  | turn _ _ _ running => cases (running_of_runningTicket? running).symm.trans waiting

end Room

end WordGame
