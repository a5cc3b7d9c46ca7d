import WordGame.Proofs.Game.Roster

/-!
What is announced of a move. Every move is reported by a few messages at most: the judgement of the
turn, if the move judges it, and then the next turn or the end of the game. Whatever they say of a
player is true of the room that the move leaves behind.
-/

namespace WordGame

namespace Room

/-- The message with which a game goes on to its next turn, or is over. -/
inductive GoesOn (room : Room) : ServerMessage → Prop
  | turn {player : PlayerId} {fragment : String} {timeLimit round : UInt32}
      (current : room.current? = some player) :
      GoesOn room (.nextTurn room.id player fragment timeLimit round (room.livesOf player))
  | ended {winner : PlayerId} {scores : Table String FinalScore}
      (finished : room.phase = .finished) : GoesOn room (.gameOver room.id winner scores)

/-- The standings after a move that judges nobody. -/
structure Unjudged (room : Room) (move : Move) (later : Room) : Prop where
  id : later.id = room.id
  points : ∀ query, later.pointsOf query = room.pointsOf query
  lives : ∀ query, (∀ lives, move ≠ .add query lives) → move ≠ .remove query →
    later.livesOf query = room.livesOf query

inductive Reports (room : Room) (play : Play) : Move → List ServerMessage → Prop
  | quiet {move : Move} (unjudged : room.Unjudged move play.room)
      (phase : play.room.phase = room.phase)
      (current : ∀ player, room.current? = some player → play.room.current? = some player) :
      Reports room play move []
  | opened {fragment : String} {round timeLimit : UInt32} {message : ServerMessage}
      (waiting : room.phase = .waiting) (unjudged : room.Unjudged .start play.room)
      (goesOn : play.room.GoesOn message) :
      Reports room play .start [.startGame room.id fragment round timeLimit, message]
  | passed {move : Move} {message : ServerMessage} (running : room.phase = .inProgress)
      (unjudged : room.Unjudged move play.room) (goesOn : play.room.GoesOn message) :
      Reports room play move [message]
  | expired {ticket : Ticket} {round : UInt32} {message : ServerMessage}
      (current : room.current? = some ticket.player)
      (lost : (room.loseLife ticket.player).SameStandings play.room)
      (goesOn : play.room.GoesOn message) :
      Reports room play (.expire ticket)
        [.turnEnded room.id ticket.player .timeout (play.room.livesOf ticket.player) round
          (play.room.pointsOf ticket.player), message]
  | accepted {player : PlayerId} {text word fragment : String} {round : UInt32}
      {message : ServerMessage} (current : room.current? = some player)
      (scored : (room.score player).SameStandings play.room)
      (goesOn : play.room.GoesOn message) :
      Reports room play (.answer player text)
        [.answer room.id player true word (some fragment) (play.room.pointsOf player)
            (play.room.livesOf player),
          .turnEnded room.id player .correctAnswer (play.room.livesOf player) round
            (play.room.pointsOf player), message]
  /-- A wrong answer that ends the turn. -/
  | failed {player : PlayerId} {text word : String} {round : UInt32} {message : ServerMessage}
      (current : room.current? = some player)
      (lost : (room.loseLife player).SameStandings play.room)
      (goesOn : play.room.GoesOn message) :
      Reports room play (.answer player text)
        [.answer room.id player false word none (play.room.pointsOf player)
            (play.room.livesOf player),
          .turnEnded room.id player .wrongAnswer (play.room.livesOf player) round
            (play.room.pointsOf player), message]
  /-- A wrong answer after which the turn goes on. -/
  | erred {player : PlayerId} {text word : String} {round : UInt32}
      (current : room.current? = some player)
      (lost : (room.loseLife player).SameStandings play.room)
      (left : play.room.livesOf player ≠ 0) (still : play.room.current? = some player) :
      Reports room play (.answer player text)
        [.answer room.id player false word none (play.room.pointsOf player)
            (play.room.livesOf player),
          .turnEnded room.id player .wrongAnswer (play.room.livesOf player) round
            (play.room.pointsOf player)]

end Room

namespace Play

variable {rules : Rules} {supply : Supply} {play later : Play}

theorem finish_goesOn (play : Play) (winner : PlayerId) :
    ∃ message, (play.finish winner).outcome.messages = play.outcome.messages ++ [message] ∧
      (play.finish winner).room.GoesOn message :=
  ⟨.gameOver play.room.id winner play.room.finalScores, rfl, .ended rfl⟩

theorem startTurn_goesOn (rules : Rules) (supply : Supply) {index : Nat} {player : PlayerId}
    (running : play.room.phase = .inProgress)
    (seated : play.room.players[index]? = some player) :
    ∃ message, (play.startTurn rules supply index player).outcome.messages =
        play.outcome.messages ++ [message] ∧
      (play.startTurn rules supply index player).room.GoesOn message := by
  have current : (play.startTurn rules supply index player).room.current? = some player :=
    (Room.current?_eq_some_iff _ player).mpr ⟨running, seated⟩
  exact ⟨_, rfl, .turn current⟩

theorem Passes.goesOn (passes : play.Passes rules supply later)
    (running : play.room.phase = .inProgress) :
    ∃ message, later.outcome.messages = play.outcome.messages ++ [message] ∧
      later.room.GoesOn message := by
  cases passes with
  | ended => exact play.finish_goesOn _
  | on index player _ next =>
    have counted := play.countRound_standings index
    have seated := (Room.seated_of_firstAlive? next).1
    rw [← counted.players] at seated
    have running := (play.countRound_phase index).trans running
    have goesOn := startTurn_goesOn rules supply running seated
    rw [countRound_outcome] at goesOn
    exact goesOn

theorem Opens.goesOn (opens : play.Opens rules supply later)
    (running : play.room.phase = .inProgress) :
    ∃ message, later.outcome.messages = play.outcome.messages ++ [message] ∧
      later.room.GoesOn message := by
  cases opens with
  | ended => exact play.finish_goesOn _
  | on index player _ first =>
    exact startTurn_goesOn rules supply running (Room.seated_of_firstAlive? first).1

end Play

namespace Room

variable {rules : Rules} {supply : Supply} {room : Room} {move : Move} {play : Play}

theorem unjudged_of_same {later : Room} (same : room.SameStandings later) :
    room.Unjudged move later :=
  ⟨same.id, same.pointsOf, fun query _ _ => same.livesOf query⟩

theorem enrol_unjudged {player : PlayerId} {lives : UInt32} (rostered : room.Rostered)
    (new : room.hasPlayer player = false) :
    room.Unjudged (.add player lives) (room.enrol player lives) := by
  refine ⟨rfl, ?_, ?_⟩
  · intro query
    rw [pointsOf_enrol]
    split
    · rename_i same
      rw [same, rostered.pointsOf_of_absent new]
    · rfl
  · intro query other _
    rw [livesOf_enrol, if_neg]
    rintro rfl
    exact other lives rfl

theorem revive_unjudged (room : Room) (player : PlayerId) (lives : UInt32) :
    room.Unjudged (.add player lives) (room.setLives player lives) := by
  refine ⟨rfl, fun _ => rfl, ?_⟩
  intro query other _
  rw [livesOf_setLives, if_neg]
  rintro rfl
  exact other lives rfl

theorem eliminate_unjudged (room : Room) (player : PlayerId) :
    room.Unjudged (.remove player) (room.eliminate player) := by
  refine ⟨rfl, fun _ => rfl, ?_⟩
  intro query _ other
  rw [livesOf_eliminate, if_neg]
  rintro rfl
  exact other rfl

theorem Unjudged.trans {middle later : Room} (unjudged : room.Unjudged move middle)
    (same : middle.SameStandings later) : room.Unjudged move later where
  id := same.id.trans unjudged.id
  points query := (same.pointsOf query).trans (unjudged.points query)
  lives query joined left := (same.livesOf query).trans (unjudged.lives query joined left)

theorem Step.reports (step : room.Step rules supply move play)
    (rostered : ∀ player lives, move = .add player lives → room.Rostered) :
    room.Reports play move play.outcome.messages := by
  cases step with
  | ignored | reported => exact .quiet (unjudged_of_same (.refl room)) rfl (fun _ current => current)
  | enrolled new =>
    refine .quiet (enrol_unjudged (rostered _ _ rfl) new) rfl ?_
    exact fun _ current => current?_enrol _ current
  | revived => exact .quiet (revive_unjudged room _ _) rfl (fun _ current => current)
  | withdrawn => exact .quiet (eliminate_unjudged room _) rfl (fun _ current => current)
  | left => exact .quiet (eliminate_unjudged room _) rfl (fun _ current => current)
  | opened waiting opens =>
    have standings := (room.opening_standings rules supply).trans (opens.closes rfl).standings
    obtain ⟨message, told, goesOn⟩ := opens.goesOn rfl
    rw [told]
    exact .opened waiting (unjudged_of_same standings) goesOn
  | passed running passes =>
    obtain ⟨message, told, goesOn⟩ := passes.goesOn running
    rw [told]
    exact .passed running (unjudged_of_same (passes.closes running).standings) goesOn
  | resigned _ current passes =>
    have running := running_of_current? current
    obtain ⟨message, told, goesOn⟩ := passes.goesOn running
    rw [told]
    exact .passed running
      ((eliminate_unjudged room _).trans (passes.closes running).standings) goesOn
  | @abandoned player running =>
    exact .passed running
      ((eliminate_unjudged room player).trans (finish_standings (Play.begin _) _)) (.ended rfl)
  | decided running =>
    exact .passed running (unjudged_of_same (finish_standings (Play.begin room) _)) (.ended rfl)
  | @expired ticket _ running passes =>
    have current := current?_of_isRunning running
    have lost : (room.loseLife ticket.player).SameStandings play.room :=
      (passes.closes (running_of_isRunning running)).standings
    obtain ⟨message, told, goesOn⟩ := passes.goesOn (running_of_isRunning running)
    rw [told]
    change room.Reports play (.expire ticket)
      [.turnEnded room.id ticket.player .timeout ((room.loseLife ticket.player).livesOf ticket.player)
        room.round ((room.loseLife ticket.player).pointsOf ticket.player), message]
    rw [← lost.livesOf, ← lost.pointsOf]
    exact .expired current lost goesOn
  | @accepted player text _ current _ passes =>
    have running := running_of_current? current
    have scored : (room.score player).SameStandings play.room :=
      (room.reward_standings supply player (Text.trim text)).trans (passes.closes running).standings
    obtain ⟨message, told, goesOn⟩ := passes.goesOn running
    rw [told]
    change room.Reports play (.answer player text)
      [.answer room.id player true (Text.trim text) (some (supply.fragment 0))
          ((room.score player).pointsOf player) ((room.score player).livesOf player),
        .turnEnded room.id player .correctAnswer ((room.score player).livesOf player) room.round
          ((room.score player).pointsOf player), message]
    rw [← scored.livesOf, ← scored.pointsOf]
    exact .accepted current scored goesOn
  | @lost player text current =>
    exact .failed current (finish_standings (room.penalty player (Text.trim text)) _) (.ended rfl)
  | @failed player text _ current _ _ _ passes =>
    have running := running_of_current? current
    have lost : (room.loseLife player).SameStandings play.room := (passes.closes running).standings
    obtain ⟨message, told, goesOn⟩ := passes.goesOn running
    rw [told]
    change room.Reports play (.answer player text)
      [.answer room.id player false (Text.trim text) none ((room.loseLife player).pointsOf player)
          ((room.loseLife player).livesOf player),
        .turnEnded room.id player .wrongAnswer ((room.loseLife player).livesOf player) room.round
          ((room.loseLife player).pointsOf player), message]
    rw [← lost.livesOf, ← lost.pointsOf]
    exact .failed current lost goesOn
  | erred current _ _ left => exact .erred current (.refl _) left current

theorem perform_reports (rules : Rules) (supply : Supply) (move : Move)
    (rostered : room.Rostered) :
    room.Reports (room.perform rules supply move) move
      (room.perform rules supply move).outcome.messages :=
  (room.perform_step rules supply move).reports fun _ _ _ => rostered

end Room

end WordGame
