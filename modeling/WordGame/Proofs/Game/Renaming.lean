import WordGame.Proofs.Game.Sequel

/-!
Other names for the same things. Epochs and the numbers of turns are only ever compared, so a game
goes the same way under all names that keep apart what is compared.
-/

namespace WordGame

/-- New names for epochs, for turns and for alarms. -/
structure Names where
  epoch : Nat → Nat
  number : Nat → Nat
  alarm : Nat → Nat

def Names.turn (names : Names) (number : UInt64) : UInt64 :=
  UInt64.ofNat (names.number number.toNat)

def Ticket.rename (names : Names) (ticket : Ticket) : Ticket :=
  { ticket with epoch := names.epoch ticket.epoch, number := names.turn ticket.number }

def Supply.rename (names : Names) (supply : Supply) : Supply :=
  { supply with turnNumber := names.turn supply.turnNumber }

def Move.rename (names : Names) : Move → Move
  | .expire ticket => .expire (ticket.rename names)
  | .add player lives => .add player lives
  | .start => .start
  | .advance => .advance
  | .answer player text => .answer player text
  | .remove player => .remove player
  | .check => .check

def Outcome.rename (names : Names) (outcome : Outcome) : Outcome :=
  { outcome with turn := outcome.turn.map (Ticket.rename names) }

namespace Room

def rename (names : Names) (room : Room) : Room :=
  { room with
    epoch := names.epoch room.epoch
    turnNumber := names.turn room.turnNumber }

theorem leader_rename (names : Names) (room : Room) (favourite : PlayerId)
    (players : List PlayerId) :
    (room.rename names).leader favourite players = room.leader favourite players := by
  induction players generalizing favourite with
  | nil => rfl
  | cons player rest ih => exact ih _

theorem champion_rename (names : Names) (room : Room) :
    (room.rename names).champion = room.champion := by
  have top : (room.rename names).topScorer = room.topScorer := by
    unfold topScorer
    rw [show (room.rename names).players = room.players from rfl]
    cases room.players with
    | nil => rfl
    | cons first rest => exact room.leader_rename names first rest
  unfold champion
  rw [top, show (room.rename names).alive = room.alive from rfl]

/-- A move tells the running turn from others under new names as it does under the old ones. -/
def Distinguishes (names : Names) (room : Room) : Move → Prop
  | .expire ticket => (room.rename names).isRunning (ticket.rename names) = room.isRunning ticket
  | _ => True

theorem distinguishes_expire {names : Names} {room : Room} {ticket : Ticket}
    (epoch : names.epoch room.epoch = names.epoch ticket.epoch ↔ room.epoch = ticket.epoch)
    (number : names.turn room.turnNumber = names.turn ticket.number ↔
      room.turnNumber = ticket.number) : room.Distinguishes names (.expire ticket) := by
  change decide (_ ∧ names.epoch room.epoch = names.epoch ticket.epoch ∧
    names.turn room.turnNumber = names.turn ticket.number ∧ _) = decide _
  simp only [epoch, number]
  rfl

end Room

namespace Play

variable (names : Names) (play : Play)

def rename : Play := ⟨play.room.rename names, play.outcome.rename names⟩

theorem conclude_rename :
    (play.rename names).conclude = play.conclude.rename names := by
  cases phase : play.room.phase with
  | waiting =>
    rw [play.conclude_of_waiting phase]
    exact (play.rename names).conclude_of_waiting phase
  | finished =>
    rw [play.conclude_of_finished phase]
    exact (play.rename names).conclude_of_finished phase
  | inProgress =>
    by_cases decided : play.room.aliveCount ≤ 1
    · rw [play.conclude_of_decided phase decided, ← play.room.champion_rename names]
      exact (play.rename names).conclude_of_decided phase decided
    · have contested : 2 ≤ play.room.aliveCount := Nat.lt_of_not_le decided
      rw [play.conclude_of_contested phase contested]
      exact (play.rename names).conclude_of_contested phase contested

theorem startTurn_rename (rules : Rules) (supply : Supply) (index : Nat) (player : PlayerId) :
    (play.rename names).startTurn rules (supply.rename names) index player =
      (play.startTurn rules supply index player).rename names := rfl

theorem countRound_rename (index : Nat) :
    (play.rename names).countRound index = (play.countRound index).rename names := by
  unfold countRound
  rw [show (play.rename names).room.turnIndex = play.room.turnIndex from rfl]
  by_cases round : index ≤ play.room.turnIndex
  · rw [if_pos round, if_pos round]
    rfl
  · rw [if_neg round, if_neg round]

theorem advance_rename (rules : Rules) (supply : Supply) :
    (play.rename names).advance rules (supply.rename names) =
      (play.advance rules supply).rename names := by
  unfold advance
  rw [conclude_rename, show (play.rename names).room.phase = play.room.phase from rfl]
  generalize play.conclude = concluded
  dsimp only
  rw [show (concluded.rename names).room.phase = concluded.room.phase from rfl,
    show (concluded.rename names).room.next? = concluded.room.next? from rfl]
  by_cases running : play.room.phase = .inProgress
  · rw [if_pos running, if_pos running]
    by_cases finished : concluded.room.phase = .finished
    · rw [if_pos finished, if_pos finished]
    · rw [if_neg finished, if_neg finished]
      cases concluded.room.next? with
      | none => rfl
      | some next =>
        dsimp only
        rw [countRound_rename, startTurn_rename]
  · rw [if_neg running, if_neg running]

end Play

namespace Room

variable (names : Names) (rules : Rules) (supply : Supply) (room : Room)

theorem start_rename :
    (room.rename names).start rules (supply.rename names) =
      (room.start rules supply).rename names := by
  have opening : (room.rename names).opening rules (supply.rename names) =
      (room.opening rules supply).rename names := rfl
  unfold start
  rw [opening, Play.conclude_rename, show (room.rename names).phase = room.phase from rfl]
  generalize (room.opening rules supply).conclude = play
  dsimp only
  rw [show (play.rename names).room.phase = play.room.phase from rfl,
    show (play.rename names).room.firstAlive?
        (List.range (play.rename names).room.players.length) =
      play.room.firstAlive? (List.range play.room.players.length) from rfl]
  by_cases waiting : room.phase = .waiting
  · rw [if_pos waiting, if_pos waiting]
    by_cases finished : play.room.phase = .finished
    · rw [if_pos finished, if_pos finished]
    · rw [if_neg finished, if_neg finished]
      cases play.room.firstAlive? (List.range play.room.players.length) with
      | none => rfl
      | some first => rfl
  · rw [if_neg waiting, if_neg waiting]
    rfl

theorem answerWrong_rename (player : PlayerId) (word : String) :
    (room.rename names).answerWrong rules (supply.rename names) player word =
      (room.answerWrong rules supply player word).rename names := by
  have penalty : (room.rename names).penalty player word =
      (room.penalty player word).rename names := rfl
  unfold answerWrong
  rw [penalty, Play.conclude_rename]
  generalize (room.penalty player word).conclude = play
  dsimp only
  rw [show (play.rename names).room.phase = play.room.phase from rfl,
    show (play.rename names).room.livesOf player = play.room.livesOf player from rfl,
    show (play.rename names).room.current? = play.room.current? from rfl]
  by_cases finished : play.room.phase = .finished
  · rw [if_pos finished, if_pos finished]
  · rw [if_neg finished, if_neg finished]
    by_cases out : play.room.livesOf player = 0 ∧ play.room.current? = some player
    · rw [if_pos out, if_pos out]
      exact play.advance_rename names rules supply
    · rw [if_neg out, if_neg out]

theorem answer_rename (player : PlayerId) (text : String) :
    (room.rename names).answer rules (supply.rename names) player text =
      (room.answer rules supply player text).rename names := by
  unfold answer
  dsimp only
  rw [show (room.rename names).current? = room.current? from rfl,
    show (room.rename names).accepts rules (Text.trim text) =
      room.accepts rules (Text.trim text) from rfl]
  by_cases current : room.current? = some player
  · rw [if_pos current, if_pos current]
    by_cases accepted : room.accepts rules (Text.trim text) = true
    · rw [if_pos accepted, if_pos accepted]
      exact (room.reward supply player (Text.trim text)).advance_rename names rules supply
    · rw [if_neg accepted, if_neg accepted]
      exact room.answerWrong_rename names rules supply player (Text.trim text)
  · rw [if_neg current, if_neg current]
    rfl

theorem remove_rename (player : PlayerId) :
    (room.rename names).remove rules (supply.rename names) player =
      (room.remove rules supply player).rename names := by
  unfold remove
  rw [show (room.rename names).hasPlayer player = room.hasPlayer player from rfl,
    show (room.rename names).phase = room.phase from rfl,
    show (room.rename names).current? = room.current? from rfl]
  by_cases present : room.hasPlayer player = true
  · rw [if_pos present, if_pos present]
    cases room.phase with
    | waiting | finished => rfl
    | inProgress =>
      dsimp only
      by_cases current : room.current? = some player
      · rw [if_pos current, if_pos current]
        exact (Play.begin (room.eliminate player)).advance_rename names rules supply
      · rw [if_neg current, if_neg current]
        exact (Play.begin (room.eliminate player)).conclude_rename names
  · rw [if_neg present, if_neg present]
    rfl

theorem addPlayer_rename (player : PlayerId) (lives : UInt32) :
    ((room.rename names).addPlayer player lives).1 =
      (room.addPlayer player lives).1.rename names := by
  unfold addPlayer
  rw [show (room.rename names).lives = room.lives from rfl,
    show (room.rename names).phase = room.phase from rfl]
  cases room.lives.get? player with
  | none => rfl
  | some held =>
    dsimp only
    by_cases out : room.phase = .waiting ∧ held = 0
    · rw [if_pos out, if_pos out]
      rfl
    · rw [if_neg out, if_neg out]

/-- A move under new names leads to what it leads to under the old ones, under new names. -/
theorem perform_rename (move : Move) (distinguishes : room.Distinguishes names move) :
    (room.rename names).perform rules (supply.rename names) (move.rename names) =
      (room.perform rules supply move).rename names := by
  cases move with
  | add player lives => exact congrArg Play.begin (room.addPlayer_rename names player lives)
  | start => exact room.start_rename names rules supply
  | advance => exact (Play.begin room).advance_rename names rules supply
  | answer player text => exact room.answer_rename names rules supply player text
  | expire ticket =>
    have same : (room.rename names).isRunning (ticket.rename names) = room.isRunning ticket :=
      distinguishes
    change (room.rename names).expire rules (supply.rename names) (ticket.rename names) =
      (room.expire rules supply ticket).rename names
    unfold expire
    rw [same]
    by_cases running : room.isRunning ticket = true
    · rw [if_pos running, if_pos running]
      exact (room.timeUp ticket.player).advance_rename names rules supply
    · rw [if_neg running, if_neg running]
      rfl
  | remove player => exact room.remove_rename names rules supply player
  | check => exact (Play.begin room).conclude_rename names

/-- The number of the latest turn in a room is that of the turn that a move starts, or stays. -/
theorem turnNumber_perform (move : Move) :
    (room.perform rules supply move).room.turnNumber =
      (room.perform rules supply move).outcome.turnsAfter room.turnNumber := by
  have step := room.perform_step rules supply move
  generalize room.perform rules supply move = play at step ⊢
  cases step with
  | ignored | reported | enrolled | revived | withdrawn | lost | erred | abandoned | left
  | decided => rfl
  | opened _ opens =>
    cases opens with
    | ended => rfl
    | on => rfl
  | passed _ passes | expired _ passes | accepted _ _ passes | failed _ _ _ _ passes
  | resigned _ _ passes =>
    cases passes with
    | ended => rfl
    | on => rfl

end Room

end WordGame
