import WordGame.Proofs.Game.Step

/-!
What a move does to the standings. A step changes the lives or the points of one player at most, and
whatever else it does, it does to the course of the game.
-/

namespace WordGame.Room

/-- How the standings are altered by a move. -/
inductive Alters (room : Room) : Move → Room → Prop
  | not {move : Move}
      (stays : ∀ player, move = .remove player → room.livesOf player = 0 ∨ room.phase = .finished) :
      Alters room move room
  | enrols {player : PlayerId} {lives : UInt32} (new : room.hasPlayer player = false) :
      Alters room (.add player lives) (room.enrol player lives)
  | revives {player : PlayerId} {lives : UInt32} (waiting : room.phase = .waiting)
      (present : room.hasPlayer player = true) (out : room.livesOf player = 0) :
      Alters room (.add player lives) (room.setLives player lives)
  | eliminates {player : PlayerId} (present : room.hasPlayer player = true) :
      Alters room (.remove player) (room.eliminate player)
  | expires {ticket : Ticket} (running : room.isRunning ticket = true) :
      Alters room (.expire ticket) (room.loseLife ticket.player)
  | scores {player : PlayerId} {text : String} (current : room.current? = some player) :
      Alters room (.answer player text) (room.score player)
  | penalises {player : PlayerId} {text : String} (current : room.current? = some player) :
      Alters room (.answer player text) (room.loseLife player)

theorem opening_standings (room : Room) (rules : Rules) (supply : Supply) :
    room.SameStandings (room.opening rules supply).room :=
  ⟨rfl, rfl, rfl, rfl, rfl, rfl⟩

theorem reward_standings (room : Room) (supply : Supply) (player : PlayerId) (word : String) :
    (room.score player).SameStandings (room.reward supply player word).room :=
  ⟨rfl, rfl, rfl, rfl, rfl, rfl⟩

theorem finish_standings (play : Play) (winner : PlayerId) :
    play.room.SameStandings (play.finish winner).room :=
  ⟨rfl, rfl, rfl, rfl, rfl, rfl⟩

variable {rules : Rules} {supply : Supply} {room : Room}

theorem running_of_current? {player : PlayerId} (current : room.current? = some player) :
    room.phase = .inProgress :=
  ((room.current?_eq_some_iff player).mp current).1

theorem current?_of_isRunning {ticket : Ticket} (running : room.isRunning ticket = true) :
    room.current? = some ticket.player :=
  ((room.isRunning_iff ticket).mp running).2.2.2

theorem running_of_isRunning {ticket : Ticket} (running : room.isRunning ticket = true) :
    room.phase = .inProgress :=
  running_of_current? (current?_of_isRunning running)

theorem Ignores.stays {move : Move} (ignores : room.Ignores move) :
    ∀ player, move = .remove player → room.livesOf player = 0 ∨ room.phase = .finished := by
  rintro player rfl
  rcases ignores with absent | finished
  · exact .inl (room.livesOf_of_absent player absent)
  · exact .inr finished

theorem Step.alters {move : Move} {play : Play} (step : room.Step rules supply move play) :
    ∃ altered, room.Alters move altered ∧ altered.SameStandings play.room := by
  cases step with
  | ignored ignores => exact ⟨room, .not ignores.stays, .refl room⟩
  | reported => exact ⟨room, .not (fun _ other => nomatch other), .refl room⟩
  | enrolled new => exact ⟨_, .enrols new, .refl _⟩
  | revived waiting present out => exact ⟨_, .revives waiting present out, .refl _⟩
  | withdrawn _ present => exact ⟨_, .eliminates present, .refl _⟩
  | opened _ opens =>
    have opened := room.opening_standings rules supply
    exact ⟨room, .not (fun _ other => nomatch other),
      opened.trans (opens.closes rfl).standings⟩
  | passed running passes =>
    exact ⟨room, .not (fun _ other => nomatch other), (passes.closes running).standings⟩
  | expired running passes =>
    exact ⟨_, .expires running, (passes.closes (running_of_isRunning running)).standings⟩
  | @accepted player text _ current _ passes =>
    have rewarded := room.reward_standings supply player (Text.trim text)
    exact ⟨_, .scores current,
      rewarded.trans (passes.closes (running_of_current? current)).standings⟩
  | @lost player text current =>
    exact ⟨_, .penalises current, finish_standings (room.penalty player (Text.trim text)) _⟩
  | failed current _ _ _ passes =>
    exact ⟨_, .penalises current, (passes.closes (running_of_current? current)).standings⟩
  | erred current => exact ⟨_, .penalises current, .refl _⟩
  | resigned present current passes =>
    exact ⟨_, .eliminates present, (passes.closes (running_of_current? current)).standings⟩
  | @abandoned player _ present =>
    exact ⟨_, .eliminates present, finish_standings (Play.begin (room.eliminate player)) _⟩
  | left _ present => exact ⟨_, .eliminates present, .refl _⟩
  | decided =>
    exact ⟨room, .not (fun _ other => nomatch other), finish_standings (Play.begin room) _⟩

theorem Alters.id {move : Move} {altered : Room} (alters : room.Alters move altered) :
    altered.id = room.id := by
  cases alters with
  | not | enrols | revives | eliminates | expires | scores | penalises => rfl

theorem id_perform (room : Room) (rules : Rules) (supply : Supply) (move : Move) :
    (room.perform rules supply move).room.id = room.id := by
  obtain ⟨altered, alters, same⟩ := (room.perform_step rules supply move).alters
  exact same.id.trans alters.id

theorem Alters.epoch {move : Move} {altered : Room} (alters : room.Alters move altered) :
    altered.epoch = room.epoch := by
  cases alters with
  | not | enrols | revives | eliminates | expires | scores | penalises => rfl

theorem epoch_perform (room : Room) (rules : Rules) (supply : Supply) (move : Move) :
    (room.perform rules supply move).room.epoch = room.epoch := by
  obtain ⟨altered, alters, same⟩ := (room.perform_step rules supply move).alters
  exact same.epoch.trans alters.epoch

end WordGame.Room
