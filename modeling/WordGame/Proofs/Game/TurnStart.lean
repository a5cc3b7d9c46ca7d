import WordGame.Proofs.Game.RoundRobin

/-!
How turns start. A move starts one turn at most, which it announces to everybody in the room and
gives a ticket for; any other move leaves the turn that is running as it is. So what was announced
last is what the next answer is judged by.
-/

namespace WordGame

def ServerMessage.isTurn : ServerMessage → Bool
  | .nextTurn .. => true
  | _ => false

/-- What a room keeps of its turn, besides the fragment, which is drawn anew when an answer is
accepted. -/
structure Room.SameTurn (room later : Room) : Prop where
  round : later.round = room.round
  turnIndex : later.turnIndex = room.turnIndex
  turnNumber : later.turnNumber = room.turnNumber
  timeLimit : later.timeLimit = room.timeLimit

namespace Room.SameTurn

variable {room middle later : Room}

theorem refl (room : Room) : room.SameTurn room := ⟨rfl, rfl, rfl, rfl⟩

theorem trans (first : room.SameTurn middle) (second : middle.SameTurn later) :
    room.SameTurn later where
  round := second.round.trans first.round
  turnIndex := second.turnIndex.trans first.turnIndex
  turnNumber := second.turnNumber.trans first.turnNumber
  timeLimit := second.timeLimit.trans first.timeLimit

end Room.SameTurn

namespace Play

/-- The play ends with the start of a turn. -/
structure Starts (rules : Rules) (play : Play) (ticket : Ticket) : Prop where
  issued : play.outcome.turn = some ticket
  running : play.room.runningTicket? = some ticket
  limit : play.room.timeLimit = rules.config.timeLimit play.room.round
  told : play.outcome.messages.getLast? =
    some (.nextTurn play.room.id ticket.player play.room.fragment play.room.timeLimit
      play.room.round (play.room.livesOf ticket.player))

variable {rules : Rules} {supply : Supply} {play : Play}

theorem startTurn_starts (rules : Rules) (supply : Supply) {index : Nat} {player : PlayerId}
    (running : play.room.phase = .inProgress)
    (seated : play.room.players[index]? = some player) :
    (play.startTurn rules supply index player).Starts rules
      ⟨play.room.epoch, supply.turnNumber, index, player,
        rules.config.timeLimit play.room.round⟩ := by
  refine ⟨rfl, ?_, rfl, List.getLast?_concat⟩
  rw [Room.runningTicket?_eq_some_iff, Room.isRunning_iff, Room.current?_eq_some_iff]
  exact ⟨⟨rfl, rfl, rfl, running, seated⟩, rfl⟩

theorem Starts.timeLimit {ticket : Ticket} (starts : play.Starts rules ticket) :
    ticket.timeLimit = play.room.timeLimit :=
  ((play.room.runningTicket?_eq_some_iff ticket).mp starts.running).2

theorem Starts.room {ticket : Ticket} (starts : play.Starts rules ticket) :
    ticket = ⟨play.room.epoch, play.room.turnNumber, play.room.turnIndex, ticket.player,
        play.room.timeLimit⟩ ∧
      play.room.current? = some ticket.player := by
  obtain ⟨player, current, same⟩ := Option.map_eq_some_iff.mp starts.running
  subst same
  exact ⟨rfl, current⟩

end Play

namespace Room

inductive Proceeds (rules : Rules) (room : Room) (play : Play) : Prop
  /-- No turn is started. Only the start of a game that is over at once touches the old one. -/
  | rests (ticketless : play.outcome.turn = none)
      (untold : play.outcome.messages.any ServerMessage.isTurn = false)
      (turn : room.phase ≠ .waiting → room.SameTurn play.room)
      (still : play.room.phase = .inProgress → room.phase = .inProgress ∧
        play.room.fragment = room.fragment ∧
        ∀ player, room.current? = some player → play.room.current? = some player) :
      Proceeds rules room play
  | opens (ticket : Ticket) (waiting : room.phase = .waiting) (starts : play.Starts rules ticket)
      (round : play.room.round = 1) : Proceeds rules room play
  | passes (ticket : Ticket) (running : room.phase = .inProgress)
      (starts : play.Starts rules ticket)
      (round : play.room.round =
        room.round + UInt32.ofNat (if ticket.turnIndex ≤ room.turnIndex then 1 else 0)) :
      Proceeds rules room play

variable {rules : Rules} {supply : Supply} {room : Room} {move : Move} {play later : Play}

theorem finish_proceeds (winner : PlayerId) (turn : room.SameTurn play.room)
    (untold : play.outcome.messages.any ServerMessage.isTurn = false) :
    room.Proceeds rules (play.finish winner) := by
  refine .rests rfl ?_ (fun _ => ⟨turn.round, turn.turnIndex, turn.turnNumber, turn.timeLimit⟩) ?_
  · change (play.outcome.messages ++ [_]).any ServerMessage.isTurn = false
    rw [List.any_append, untold]
    rfl
  · intro running
    cases running

theorem proceeds_of_passes (passes : play.Passes rules supply later)
    (running : room.phase = .inProgress) (still : play.room.phase = .inProgress)
    (turn : room.SameTurn play.room)
    (untold : play.outcome.messages.any ServerMessage.isTurn = false) :
    room.Proceeds rules later := by
  cases passes with
  | ended => exact finish_proceeds _ turn untold
  | on index player _ next =>
    have counted := play.countRound_standings index
    have seated := (seated_of_firstAlive? next).1
    rw [← counted.players] at seated
    have starts :=
      Play.startTurn_starts rules supply ((play.countRound_phase index).trans still) seated
    refine .passes _ running starts ?_
    change (play.countRound index).room.round = _
    rw [round_countRound, turn.round, turn.turnIndex]

theorem proceeds_of_opens (opens : (room.opening rules supply).Opens rules supply later)
    (waiting : room.phase = .waiting) : room.Proceeds rules later := by
  cases opens with
  | ended =>
    refine .rests rfl rfl (fun begun => absurd waiting begun) ?_
    intro running
    cases running
  | on index player _ first =>
    exact .opens _ waiting
      (Play.startTurn_starts rules supply rfl (seated_of_firstAlive? first).1) rfl

theorem Step.proceeds (step : room.Step rules supply move play) : room.Proceeds rules play := by
  cases step with
  | ignored | reported | revived | withdrawn | erred | left =>
    exact .rests rfl rfl (fun _ => ⟨rfl, rfl, rfl, rfl⟩)
      (fun running => ⟨running, rfl, fun _ current => current⟩)
  | enrolled =>
    exact .rests rfl rfl (fun _ => ⟨rfl, rfl, rfl, rfl⟩)
      (fun running => ⟨running, rfl, fun _ current => current?_enrol _ current⟩)
  | opened waiting opens => exact proceeds_of_opens opens waiting
  | passed running passes => exact proceeds_of_passes passes running running (.refl room) rfl
  | expired expiring passes =>
    have running := running_of_isRunning expiring
    exact proceeds_of_passes passes running running ⟨rfl, rfl, rfl, rfl⟩ rfl
  | accepted current _ passes | failed current _ _ _ passes | resigned _ current passes =>
    have running := running_of_current? current
    exact proceeds_of_passes passes running running ⟨rfl, rfl, rfl, rfl⟩ rfl
  | lost | abandoned | decided => exact finish_proceeds _ ⟨rfl, rfl, rfl, rfl⟩ rfl

theorem perform_proceeds (room : Room) (rules : Rules) (supply : Supply) (move : Move) :
    room.Proceeds rules (room.perform rules supply move) :=
  (room.perform_step rules supply move).proceeds

theorem Proceeds.isSome_turn_iff (proceeds : room.Proceeds rules play) :
    play.outcome.turn.isSome = true ↔
      ∃ message, play.outcome.messages.getLast? = some message ∧ message.isTurn = true := by
  cases proceeds with
  | rests ticketless untold =>
    rw [ticketless]
    refine iff_of_false Bool.false_ne_true ?_
    rintro ⟨message, last, turn⟩
    have told := List.any_eq_false.mp untold message (List.mem_of_getLast? last)
    exact told turn
  | opens ticket _ starts | passes ticket _ starts =>
    rw [starts.issued]
    exact iff_of_true rfl ⟨_, starts.told, rfl⟩

theorem Proceeds.starts {ticket : Ticket} (proceeds : room.Proceeds rules play)
    (issued : play.outcome.turn = some ticket) : play.Starts rules ticket := by
  cases proceeds with
  | rests ticketless => cases issued.symm.trans ticketless
  | opens other _ starts | passes other _ starts =>
    cases issued.symm.trans starts.issued
    exact starts

end Room

namespace Course

/-- The turn of a running game is the one that was announced and ticketed last. -/
def Announced (course : Course) : Prop :=
  course.room.phase = .inProgress →
    ∃ player lives, course.room.current? = some player ∧
      (course.messages.filter ServerMessage.isTurn).getLast? =
        some (.nextTurn course.room.id player course.room.fragment course.room.timeLimit
          course.room.round lives) ∧
      course.tickets.getLast? =
        some ⟨course.room.epoch, course.room.turnNumber, course.room.turnIndex, player,
          course.room.timeLimit⟩

variable {rules : Rules} {course : Course} {play : Play}

theorem announced_of_starts {ticket : Ticket} (starts : play.Starts rules ticket) :
    (course.extend play).Announced := by
  intro _
  obtain ⟨same, current⟩ := starts.room
  refine ⟨ticket.player, play.room.livesOf ticket.player, current, ?_, ?_⟩
  · change ((course.messages ++ play.outcome.messages).filter _).getLast? = _
    obtain ⟨before, split⟩ := List.getLast?_eq_some_iff.mp starts.told
    rw [split, ← List.append_assoc, List.filter_append]
    exact List.getLast?_concat
  · change (course.tickets ++ play.outcome.turn.toList).getLast? = _
    rw [starts.issued, Option.toList_some, List.getLast?_concat]
    exact congrArg some same

theorem Announced.step (announced : course.Announced) (rules : Rules) (move : Move × Supply) :
    (course.step rules move).Announced := by
  have id := course.room.id_perform rules move.2 move.1
  have epoch := course.room.epoch_perform rules move.2 move.1
  have proceeds := course.room.perform_proceeds rules move.2 move.1
  unfold Course.step
  generalize course.room.perform rules move.2 move.1 = play at *
  cases proceeds with
  | opens ticket _ starts | passes ticket _ starts => exact announced_of_starts starts
  | rests ticketless untold turn still =>
    -- Nothing is announced, so what was announced last has to describe the later room as well.
    intro running
    change play.room.phase = .inProgress at running
    obtain ⟨before, fragment, goesOn⟩ := still running
    have begun : course.room.phase ≠ .waiting := by
      rw [before]
      decide
    have turn := turn begun
    obtain ⟨player, lives, current, message, ticket⟩ := announced before
    have silent : play.outcome.messages.filter ServerMessage.isTurn = [] := by
      rw [List.filter_eq_nil_iff]
      exact List.any_eq_false.mp untold
    refine ⟨player, lives, goesOn player current, ?_, ?_⟩
    · change ((course.messages ++ play.outcome.messages).filter _).getLast? =
        some (.nextTurn play.room.id player play.room.fragment play.room.timeLimit
          play.room.round lives)
      rw [List.filter_append, silent, List.append_nil, id, fragment, turn.timeLimit, turn.round]
      exact message
    · change (course.tickets ++ play.outcome.turn.toList).getLast? =
        some ⟨play.room.epoch, play.room.turnNumber, play.room.turnIndex, player,
          play.room.timeLimit⟩
      rw [ticketless, Option.toList_none, List.append_nil, epoch, turn.turnNumber, turn.turnIndex,
        turn.timeLimit]
      exact ticket

theorem run_announced (rules : Rules) (id : RoomId) (epoch : Epoch) (founder : PlayerId)
    (lives : UInt32) (moves : List (Move × Supply)) :
    ((begin (Room.new id epoch founder lives)).run rules moves).Announced := by
  refine run_induction rules Announced (fun _ move announced => announced.step rules move) _ _ ?_
  intro running
  cases running

/-- However a game is played, its players are judged by what they were told last. The latest
announcement of a turn and the latest ticket describe the turn that is running, and an outcome has a
ticket just when it ends with such an announcement, of the same turn. -/
theorem turn_is_as_announced (rules : Rules) (id : RoomId) (epoch : Epoch) (founder : PlayerId)
    (lives : UInt32) (moves : List (Move × Supply)) :
    let course := (begin (Room.new id epoch founder lives)).run rules moves
    let room := course.room
    (room.phase = .inProgress →
      ∃ player lives, room.current? = some player ∧
        (course.messages.filter ServerMessage.isTurn).getLast? =
          some (.nextTurn room.id player room.fragment room.timeLimit room.round lives) ∧
        course.tickets.getLast? =
          some ⟨room.epoch, room.turnNumber, room.turnIndex, player, room.timeLimit⟩) ∧
      ∀ (move : Move) (supply : Supply),
        let play := room.perform rules supply move
        (play.outcome.turn.isSome = true ↔
          ∃ message, play.outcome.messages.getLast? = some message ∧ message.isTurn = true) ∧
        ∀ ticket, play.outcome.turn = some ticket →
          play.room.current? = some ticket.player ∧
            ticket = ⟨play.room.epoch, play.room.turnNumber, play.room.turnIndex, ticket.player,
              play.room.timeLimit⟩ ∧
            play.outcome.messages.getLast? =
              some (.nextTurn play.room.id ticket.player play.room.fragment ticket.timeLimit
                play.room.round (play.room.livesOf ticket.player)) := by
  intro course room
  refine ⟨run_announced rules id epoch founder lives moves, ?_⟩
  intro move supply play
  have proceeds := room.perform_proceeds rules supply move
  refine ⟨proceeds.isSome_turn_iff, ?_⟩
  intro ticket issued
  have starts := proceeds.starts issued
  obtain ⟨same, current⟩ := starts.room
  refine ⟨current, same, ?_⟩
  rw [starts.timeLimit]
  exact starts.told

/-- Two players and a third who comes late: the first gives a wrong answer, which leaves the turn as
it was announced, and then a right one, which takes it on. -/
theorem turn_is_as_announced_after_answers :
    let rules : Rules := ⟨{}, ⟨fun word => word = "other", fun _ _ => true⟩⟩
    let supply (number : UInt64) : Supply := ⟨number, fun n => if n = 0 then "the" else "oth"⟩
    let moves : List (Move × Supply) :=
      [(.add 2 3, supply 1), (.start, supply 1), (.answer 1 "another", supply 2),
        (.add 3 3, supply 2)]
    let course := (begin (Room.new 42 0 1 3)).run rules moves
    let room := course.room
    let play := room.perform rules (supply 2) (.answer 1 "other")
    let ticket : Ticket := ⟨0, 2, 1, 2, 19⟩
    room.phase = .inProgress ∧
      (∃ player lives, room.current? = some player ∧
        (course.messages.filter ServerMessage.isTurn).getLast? =
          some (.nextTurn room.id player room.fragment room.timeLimit room.round lives) ∧
        course.tickets.getLast? =
          some ⟨room.epoch, room.turnNumber, room.turnIndex, player, room.timeLimit⟩) ∧
      play.outcome.turn = some ticket ∧ play.room.current? = some ticket.player ∧
      ticket = ⟨play.room.epoch, play.room.turnNumber, play.room.turnIndex, ticket.player,
        play.room.timeLimit⟩ ∧
      play.outcome.messages.getLast? =
        some (.nextTurn play.room.id ticket.player play.room.fragment ticket.timeLimit
          play.room.round (play.room.livesOf ticket.player)) :=
  ⟨by decide +kernel, And.left (turn_is_as_announced _ 42 0 1 3 _) (by decide +kernel),
    by decide +kernel,
    And.right (And.right (turn_is_as_announced _ 42 0 1 3 _) _ _) _ (by decide +kernel)⟩

end Course

end WordGame
