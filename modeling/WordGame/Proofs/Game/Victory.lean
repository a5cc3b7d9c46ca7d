import Mathlib.Data.List.Dedup
import WordGame.Proofs.Game.Ending
import WordGame.Proofs.Game.TurnHeld

/-!
Who wins. A running game ends when a move leaves at most one player alive: the survivor wins, or the
earliest of the top scorers where nobody survives. No move takes more than one player out, so in a
game that came to a turn there is a survivor.
-/

namespace WordGame

namespace Room

/-- The earliest in a list of the players with the most points. -/
def Tops (room : Room) (players : List PlayerId) (winner : PlayerId) : Prop :=
  ∃ before after, players = before ++ winner :: after ∧
    (∀ other ∈ before, room.pointsOf other < room.pointsOf winner) ∧
    ∀ other ∈ after, room.pointsOf other ≤ room.pointsOf winner

/-- Who has won a game that is decided: the only place that is held by somebody alive is the
winner's, or there is none and the winner is on top. -/
def Won (room : Room) (winner : PlayerId) : Prop :=
  room.alive = [winner] ∨ room.alive = [] ∧ room.Tops room.players winner

variable {rules : Rules} {supply : Supply} {room altered : Room} {move : Move} {play later : Play}

/-! ### The top scorer -/

namespace Tops

variable {players : List PlayerId} {favourite player winner : PlayerId}

theorem le (tops : room.Tops players winner) (member : player ∈ players) :
    room.pointsOf player ≤ room.pointsOf winner := by
  obtain ⟨before, after, rfl, less, most⟩ := tops
  rcases List.mem_append.mp member with earlier | rest
  · exact UInt32.le_of_lt (less player earlier)
  · rcases List.mem_cons.mp rest with rfl | later
    · exact UInt32.le_refl _
    · exact most player later

/-- Whoever has fewer points may come first. -/
theorem cons (tops : room.Tops players winner)
    (fewer : room.pointsOf player < room.pointsOf winner) :
    room.Tops (player :: players) winner := by
  obtain ⟨before, after, split, less, most⟩ := tops
  refine ⟨player :: before, after, ?_, ?_, most⟩
  · rw [split, List.cons_append]
  · intro other member
    rcases List.mem_cons.mp member with rfl | earlier
    · exact fewer
    · exact less other earlier

/-- Whoever has no more points than the favourite may come right behind. -/
theorem insert (tops : room.Tops (favourite :: players) winner)
    (behind : room.pointsOf player ≤ room.pointsOf favourite) :
    room.Tops (favourite :: player :: players) winner := by
  obtain ⟨before, after, split, less, most⟩ := tops
  cases before with
  | nil =>
    cases split
    refine ⟨[], player :: players, rfl, less, ?_⟩
    intro other member
    rcases List.mem_cons.mp member with rfl | later
    · exact behind
    · exact most other later
  | cons first before =>
    cases split
    have ahead := less favourite List.mem_cons_self
    refine ⟨favourite :: player :: before, after, rfl, ?_, most⟩
    intro other member
    rcases List.mem_cons.mp member with rfl | rest
    · exact ahead
    · rcases List.mem_cons.mp rest with rfl | earlier
      · exact UInt32.lt_of_le_of_lt behind ahead
      · exact less other (List.mem_cons_of_mem _ earlier)

end Tops

theorem leader_tops (room : Room) (favourite : PlayerId) (rest : List PlayerId) :
    room.Tops (favourite :: rest) (room.leader favourite rest) := by
  induction rest generalizing favourite with
  | nil => exact ⟨[], [], rfl, List.forall_mem_nil _, List.forall_mem_nil _⟩
  | cons player rest ih =>
    rw [leader]
    by_cases more : room.pointsOf favourite < room.pointsOf player
    · rw [if_pos more]
      have tops := ih player
      exact tops.cons (UInt32.lt_of_lt_of_le more (tops.le List.mem_cons_self))
    · rw [if_neg more]
      exact (ih favourite).insert (UInt32.not_lt.mp more)

theorem topScorer_tops (inhabited : room.players ≠ []) :
    room.Tops room.players room.topScorer := by
  unfold topScorer
  match roster : room.players with
  | [] => exact absurd roster inhabited
  | first :: rest => exact room.leader_tops first rest

theorem champion_won (inhabited : room.players ≠ []) (decided : room.aliveCount ≤ 1) :
    room.Won room.champion := by
  unfold Won champion
  unfold aliveCount at decided
  match living : room.alive with
  | [] => exact .inr ⟨rfl, topScorer_tops inhabited⟩
  | [survivor] => exact .inl rfl
  | first :: second :: rest =>
    rw [living] at decided
    simp only [List.length_cons] at decided
    omega

/-! ### The final scores -/

theorem keys_finalScores (room : Room) :
    room.finalScores.keys.Perm (room.players.dedup.map finalScoreKey) := by
  have distinct : (room.players.dedup.map finalScoreKey).Nodup :=
    (List.nodup_dedup room.players).map fun _ _ same => finalScoreKey_injective same
  rw [List.perm_ext_iff_of_nodup room.finalScores.nodup_keys distinct]
  intro key
  have listed : (room.players.map fun player =>
      (finalScoreKey player, FinalScore.mk (room.pointsOf player) (room.livesOf player))).map
        Prod.fst = room.players.map finalScoreKey := by
    rw [List.map_map]
    rfl
  rw [Table.mem_keys, finalScores, Table.contains_ofList, listed, List.mem_map, List.mem_map]
  simp only [List.mem_dedup]

theorem get?_finalScores {player : PlayerId} (member : player ∈ room.players) :
    room.finalScores.get? (finalScoreKey player) =
      some ⟨room.pointsOf player, room.livesOf player⟩ := by
  refine Table.get?_ofList_of_mem (List.mem_map.mpr ⟨player, member, rfl⟩) ?_
  intro other listed
  obtain ⟨holder, _, same⟩ := List.mem_map.mp listed
  obtain ⟨key, rfl⟩ := Prod.mk.inj same
  rw [finalScoreKey_injective key]

/-! ### The move that ends a game -/

/-- How a move ends a game: with a judgement that leaves at most one alive, after which nothing is
done but to declare the winner. -/
structure Decides (room : Room) (judged later : Play) : Prop where
  decided : judged.room.aliveCount ≤ 1
  players : judged.room.players = room.players
  quiet : judged.outcome.messages.countP ServerMessage.isEnd = 0
  finished : later = judged.finish judged.room.champion

theorem Passes.decides (passes : play.Passes rules supply later)
    (running : play.room.phase = .inProgress) (finished : later.room.phase = .finished)
    (players : play.room.players = room.players)
    (quiet : play.outcome.messages.countP ServerMessage.isEnd = 0) :
    room.Decides play later := by
  cases passes with
  | ended decided => exact ⟨decided, players, quiet, rfl⟩
  | on index =>
    have still : (play.countRound index).room.phase = .finished := finished
    rw [play.countRound_phase, running] at still
    cases still

theorem Step.decides (step : room.Step rules supply move later) (running : room.phase = .inProgress)
    (finished : later.room.phase = .finished) : ∃ judged, room.Decides judged later := by
  cases step with
  | ignored | reported | enrolled | revived | withdrawn | erred | left =>
    cases running.symm.trans finished
  | opened waiting => cases running.symm.trans waiting
  | passed _ passes | expired _ passes | accepted _ _ passes | failed _ _ _ _ passes
  | resigned _ _ passes => exact ⟨_, Passes.decides passes running finished rfl rfl⟩
  | @lost player text _ _ decided =>
    exact ⟨room.penalty player (Text.trim text), decided, rfl, rfl, rfl⟩
  | @abandoned player _ _ _ decided =>
    exact ⟨Play.begin (room.eliminate player), decided, rfl, rfl, rfl⟩
  | decided _ decided => exact ⟨Play.begin room, decided, rfl, rfl, rfl⟩

theorem Decides.won {judged : Play} (decides : room.Decides judged later)
    (inhabited : room.players ≠ []) :
    later.room.winner = some judged.room.champion ∧ later.room.Won judged.room.champion := by
  have won : judged.room.Won judged.room.champion := by
    refine champion_won ?_ decides.decided
    rw [decides.players]
    exact inhabited
  rw [decides.finished]
  exact ⟨rfl, won⟩

/-! ### The survivors of a move -/

theorem Alters.livesOf_of_ne (alters : room.Alters move altered) :
    ∃ player, ∀ other, other ≠ player → altered.livesOf other = room.livesOf other := by
  cases alters with
  | not | scores => exact ⟨room.founder, fun _ _ => rfl⟩
  | @enrols player lives =>
    refine ⟨player, fun other different => ?_⟩
    rw [livesOf_enrol, if_neg different]
  | @revives player lives | @eliminates player =>
    refine ⟨player, fun other different => ?_⟩
    exact (room.livesOf_setLives player other _).trans (if_neg different)
  | @expires ticket =>
    exact ⟨ticket.player, fun _ different => livesOf_loseLife_of_ne room different⟩
  | @penalises player => exact ⟨player, fun _ different => livesOf_loseLife_of_ne room different⟩

theorem exists_survivor (rostered : room.Rostered) (contested : 2 ≤ room.aliveCount)
    (rules : Rules) (supply : Supply) (move : Move) :
    ∃ survivor, survivor ∈ (room.perform rules supply move).room.alive := by
  obtain ⟨first, second, different, ⟨listed, living⟩, ⟨alsoListed, alsoLiving⟩⟩ :=
    exists_two_alive rostered contested
  obtain ⟨altered, alters, same⟩ := (room.perform_step rules supply move).alters
  obtain ⟨player, others⟩ := alters.livesOf_of_ne
  have survives (survivor : PlayerId) (other : survivor ≠ player)
      (listed : survivor ∈ room.players) (living : 0 < room.livesOf survivor) :
      survivor ∈ (room.perform rules supply move).room.alive := by
    refine List.mem_filter.mpr
      ⟨(room.players_prefix_perform rules supply move).subset listed, ?_⟩
    rw [isAlive_iff, same.livesOf, others survivor other]
    exact living
  by_cases here : first = player
  · refine ⟨second, survives second ?_ alsoListed alsoLiving⟩
    rintro rfl
    exact different here
  · exact ⟨first, survives first here listed living⟩

theorem Sequel.ticketless (sequel : room.Sequel supply move play)
    (idle : play.room.phase ≠ .inProgress) : play.outcome.turn = none := by
  cases sequel with
  | same _ _ _ _ ticketless => exact ticketless
  | ended _ _ ticketless => exact ticketless
  | turn _ _ _ running => exact absurd (running_of_runningTicket? running) idle

theorem winner_perform (rostered : room.Rostered) (held : room.TurnHeld)
    (running : room.phase = .inProgress) (rules : Rules) (supply : Supply) (move : Move)
    (finished : (room.perform rules supply move).room.phase = .finished) :
    ∃ winner, (room.perform rules supply move).room.winner = some winner ∧
      winner ∈ (room.perform rules supply move).room.alive := by
  obtain ⟨contested, holder, current, _⟩ := held running
  have inhabited : room.players ≠ [] := List.ne_nil_of_mem (mem_players_of_current? current)
  obtain ⟨judged, decides⟩ := (room.perform_step rules supply move).decides running finished
  obtain ⟨declared, alone | ⟨nobody, _⟩⟩ := decides.won inhabited
  · refine ⟨_, declared, ?_⟩
    rw [alone]
    exact List.mem_singleton_self _
  · obtain ⟨survivor, surviving⟩ := exists_survivor rostered contested rules supply move
    rw [nobody] at surviving
    cases surviving

/-- Whoever comes after the end leaves the winner as they are. -/
theorem winner_perform_of_finished (rostered : room.Rostered) (finished : room.phase = .finished)
    {winner : PlayerId} (surviving : winner ∈ room.alive) (rules : Rules) (supply : Supply)
    (move : Move) :
    (room.perform rules supply move).room.winner = room.winner ∧
      winner ∈ (room.perform rules supply move).room.alive := by
  rcases ((room.perform_step rules supply move).of_finished finished).1 with
    same | ⟨player, lives, _, new, same⟩
  · rw [same]
    exact ⟨rfl, surviving⟩
  · rw [same]
    obtain ⟨member, living⟩ := List.mem_filter.mp surviving
    have different : winner ≠ player := by
      rintro rfl
      exact (rostered.hasPlayer_eq_false_iff winner).mp new member
    refine ⟨rfl, List.mem_filter.mpr ⟨List.mem_append_left _ member, ?_⟩⟩
    rw [room.isAlive_enrol_of_ne lives different]
    exact living

end Room

namespace Course

/-- Before its start a game has no turns; and if it had any, its winner is alive when it is over. -/
structure Survived (course : Course) : Prop where
  rostered : course.room.Rostered
  held : course.room.TurnHeld
  turnless : course.room.phase = .waiting → course.tickets = []
  won : course.room.phase = .finished → course.tickets ≠ [] →
    ∃ winner, course.room.winner = some winner ∧ winner ∈ course.room.alive

theorem Survived.step {course : Course} (survived : course.Survived) (rules : Rules)
    (move : Move × Supply) : (course.step rules move).Survived := by
  obtain ⟨rostered, held, turnless, won⟩ := survived
  obtain ⟨move, supply⟩ := move
  have sequel := course.room.perform_sequel rules supply move
  -- A move after which the game is not running hands out no ticket.
  have tickets (idle : (course.room.perform rules supply move).room.phase ≠ .inProgress) :
      (course.step rules (move, supply)).tickets = course.tickets := by
    change course.tickets ++ (course.room.perform rules supply move).outcome.turn.toList = _
    rw [sequel.ticketless idle, Option.toList_none, List.append_nil]
  refine ⟨Room.perform_rostered rules supply move rostered,
    Room.perform_turnHeld rules supply move rostered held, ?_, ?_⟩
  · intro (waiting : (course.room.perform rules supply move).room.phase = .waiting)
    rw [tickets (by rw [waiting]; decide)]
    exact turnless (sequel.waiting waiting)
  · intro (finished : (course.room.perform rules supply move).room.phase = .finished) turns
    rw [tickets (by rw [finished]; decide)] at turns
    cases phase : course.room.phase with
    | waiting => exact absurd (turnless phase) turns
    | inProgress => exact Room.winner_perform rostered held phase rules supply move finished
    | finished =>
      obtain ⟨winner, declared, surviving⟩ := won phase turns
      obtain ⟨kept, surviving⟩ :=
        Room.winner_perform_of_finished rostered phase surviving rules supply move
      exact ⟨winner, kept.trans declared, surviving⟩

theorem run_survived (rules : Rules) (id : RoomId) (epoch : Epoch) (founder : PlayerId)
    (lives : UInt32) (moves : List (Move × Supply)) :
    ((begin (Room.new id epoch founder lives)).run rules moves).Survived := by
  refine run_induction rules Survived ?_ _ moves ?_
  · intro course move survived
    exact survived.step rules move
  · exact ⟨Room.new_rostered id epoch founder lives, Room.new_turnHeld id epoch founder lives,
      fun _ => rfl, fun finished => nomatch finished⟩

/-- Whatever move ends a running game in a room with players, reached by a game or not: the winner
is the only one who is alive, or else the earliest of the top scorers. The end is announced last,
with that winner, and with the points and lives of each player under one key of their own. And in a
game in which there was a turn, the winner is alive when it is over. -/
theorem right_player_wins (rules : Rules) :
    (∀ (room : Room) (supply : Supply) (move : Move),
      room.phase = .inProgress → room.players ≠ [] →
        let play := room.perform rules supply move
        play.room.phase = .finished →
          ∃ winner scores before, play.room.winner = some winner ∧ play.room.Won winner ∧
            play.outcome.messages = before ++ [.gameOver room.id winner scores] ∧
            before.countP ServerMessage.isEnd = 0 ∧
            scores.keys.Perm (play.room.players.dedup.map finalScoreKey) ∧
            ∀ player ∈ play.room.players, scores.get? (finalScoreKey player) =
              some ⟨play.room.pointsOf player, play.room.livesOf player⟩) ∧
    ∀ (id : RoomId) (epoch : Epoch) (founder : PlayerId) (lives : UInt32)
      (moves : List (Move × Supply)),
      let course := (begin (Room.new id epoch founder lives)).run rules moves
      course.tickets ≠ [] → course.room.phase = .finished →
        ∃ winner, course.room.winner = some winner ∧ winner ∈ course.room.players ∧
          course.room.isAlive winner = true := by
  constructor
  · intro room supply move running inhabited play finished
    obtain ⟨judged, decides⟩ := (room.perform_step rules supply move).decides running finished
    obtain ⟨declared, won⟩ := decides.won inhabited
    have ended : play = judged.finish judged.room.champion := decides.finished
    refine ⟨_, play.room.finalScores, judged.outcome.messages, declared, won, ?_, decides.quiet,
      play.room.keys_finalScores, fun player member => Room.get?_finalScores member⟩
    rw [← room.id_perform rules supply move]
    change play.outcome.messages = _ ++ [.gameOver play.room.id _ play.room.finalScores]
    rw [ended]
    rfl
  · intro id epoch founder lives moves course turns finished
    obtain ⟨winner, declared, surviving⟩ :=
      (run_survived rules id epoch founder lives moves).won finished turns
    obtain ⟨member, living⟩ := List.mem_filter.mp surviving
    exact ⟨winner, declared, member, living⟩

/-- Three players of whom none is alive, the second and the third with the same points; and two
players of whom the second gives a wrong answer with the last life. -/
theorem right_player_wins_at_last :
    let rules : Rules := ⟨{}, ⟨fun word => word = "other", fun _ _ => true⟩⟩
    let supply (number : UInt64) : Supply := ⟨number, fun _ => "the"⟩
    let room : Room :=
      { Room.new 42 0 1 0 with
        players := [1, 2, 3], points := Table.ofList [(1, 2), (2, 5), (3, 5)], phase := .inProgress }
    let moves : List (Move × Supply) :=
      [(.add 2 1, supply 1), (.start, supply 1), (.answer 1 "other", supply 2),
        (.answer 2 "any", supply 3)]
    let play := room.perform rules (supply 9) .check
    let course := (begin (Room.new 42 0 1 3)).run rules moves
    room.phase = .inProgress ∧ room.players ≠ [] ∧ play.room.phase = .finished ∧
      play.room.winner = some 2 ∧
      (∃ winner, play.room.winner = some winner ∧ play.room.Won winner) ∧
      course.tickets ≠ [] ∧ course.room.phase = .finished ∧
      ∃ winner, course.room.winner = some winner ∧ winner ∈ course.room.players ∧
        course.room.isAlive winner = true := by
  refine ⟨by decide +kernel, by decide +kernel, by decide +kernel, by decide +kernel, ?_,
    by decide +kernel, by decide +kernel, ?_⟩
  · refine (And.left (right_player_wins _) _ _ _ ?_ ?_ ?_).imp
      fun winner ⟨_, _, declared, won, _⟩ => ⟨declared, won⟩
    all_goals decide +kernel
  · refine And.right (right_player_wins _) 42 0 1 3 _ ?_ ?_
    all_goals decide +kernel

end Course

end WordGame
