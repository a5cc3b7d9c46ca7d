import WordGame.Proofs.Game.Roster

/-!
Who holds the turn. While a game is in progress at least two players are alive, and the turn is at a
place that is held by one of them.

That two are alive is what carries the argument: a step that leaves fewer ends the game, so a turn is
never passed on in vain, nor back to somebody who is out.
-/

namespace WordGame

namespace Room

def TurnHeld (room : Room) : Prop :=
  room.phase = .inProgress →
    2 ≤ room.aliveCount ∧
      ∃ player, room.current? = some player ∧ room.isAlive player = true

variable {rules : Rules} {supply : Supply} {room : Room}

theorem turnHeld_of_not_running (idle : room.phase ≠ .inProgress) : room.TurnHeld :=
  fun running => absurd running idle

theorem new_turnHeld (id : RoomId) (epoch : Epoch) (founder : PlayerId) (initialLives : UInt32) :
    (new id epoch founder initialLives).TurnHeld := by
  apply turnHeld_of_not_running
  change Phase.waiting ≠ .inProgress
  decide

theorem finish_turnHeld (play : Play) (winner : PlayerId) : (play.finish winner).room.TurnHeld := by
  apply turnHeld_of_not_running
  change Phase.finished ≠ .inProgress
  decide

theorem closes_turnHeld {play later : Play} (closes : play.Closes supply later) :
    later.room.TurnHeld := by
  cases closes with
  | ended _ finished =>
    apply turnHeld_of_not_running
    rw [finished]
    decide
  | turn ticket _ contested living running =>
    intro _
    have current := current?_of_isRunning ((later.room.runningTicket?_eq_some_iff ticket).mp running).1
    exact ⟨contested, ticket.player, current, living⟩

/-- A newcomer takes nothing from those who are alive. -/
theorem aliveCount_le_enrol {player : PlayerId} (lives : UInt32)
    (absent : player ∉ room.players) :
    room.aliveCount ≤ (room.enrol player lives).aliveCount := by
  have same : room.players.filter (room.enrol player lives).isAlive = room.alive := by
    apply List.filter_congr
    intro other member
    apply room.isAlive_enrol_of_ne lives
    rintro rfl
    exact absent member
  have split : (room.enrol player lives).alive =
      room.alive ++ [player].filter (room.enrol player lives).isAlive := by
    change (room.players ++ [player]).filter (room.enrol player lives).isAlive = _
    rw [List.filter_append, same]
  unfold aliveCount
  rw [split, List.length_append]
  omega

theorem enrol_turnHeld {player : PlayerId} (lives : UInt32) (rostered : room.Rostered)
    (new : room.hasPlayer player = false) (held : room.TurnHeld) :
    (room.enrol player lives).TurnHeld := by
  intro running
  obtain ⟨contested, holder, current, living⟩ := held running
  have absent := (rostered.hasPlayer_eq_false_iff player).mp new
  have different : holder ≠ player := by
    rintro rfl
    exact absent (mem_players_of_current? current)
  refine ⟨Nat.le_trans contested (aliveCount_le_enrol lives absent), holder,
    current?_enrol lives current, ?_⟩
  rw [room.isAlive_enrol_of_ne lives different]
  exact living

theorem Step.turnHeld {move : Move} {play : Play} (step : room.Step rules supply move play)
    (rostered : room.Rostered) (held : room.TurnHeld) : play.room.TurnHeld := by
  cases step with
  | ignored => exact held
  | reported => exact held
  | enrolled new => exact enrol_turnHeld _ rostered new held
  | revived waiting | withdrawn waiting =>
    apply turnHeld_of_not_running
    change room.phase ≠ .inProgress
    rw [waiting]
    decide
  | opened _ opens => exact closes_turnHeld (opens.closes rfl)
  | passed running passes => exact closes_turnHeld (passes.closes running)
  | expired running passes =>
    exact closes_turnHeld (passes.closes (running_of_isRunning running))
  | accepted current _ passes | failed current _ _ _ passes | resigned _ current passes =>
    exact closes_turnHeld (passes.closes (running_of_current? current))
  | lost | abandoned | decided => exact finish_turnHeld _ _
  | @erred player text current _ contested left =>
    -- The turn goes on with one life less.
    intro _
    exact ⟨contested, player, current, (isAlive_iff_ne _ player).mpr left⟩
  | @left player running _ other contested =>
    -- Whoever holds the turn is not the one who leaves.
    intro _
    obtain ⟨_, holder, current, living⟩ := held running
    have different : holder ≠ player := by
      rintro rfl
      exact other current
    refine ⟨contested, holder, current, ?_⟩
    rw [← living]
    exact room.isAlive_setLives_of_ne 0 different

theorem perform_turnHeld (rules : Rules) (supply : Supply) (move : Move)
    (rostered : room.Rostered) (held : room.TurnHeld) :
    (room.perform rules supply move).room.TurnHeld :=
  (room.perform_step rules supply move).turnHeld rostered held

/-- Two different players of a list without repetitions that has at least two. -/
theorem exists_two_alive (rostered : room.Rostered) (contested : 2 ≤ room.aliveCount) :
    ∃ first second, first ≠ second ∧
      (first ∈ room.players ∧ 0 < room.livesOf first) ∧
      (second ∈ room.players ∧ 0 < room.livesOf second) := by
  have distinct : room.alive.Nodup := rostered.nodup.filter _
  have living : ∀ player ∈ room.alive, player ∈ room.players ∧ 0 < room.livesOf player := by
    intro player member
    obtain ⟨listed, alive⟩ := List.mem_filter.mp member
    exact ⟨listed, (room.isAlive_iff player).mp alive⟩
  unfold aliveCount at contested
  match shape : room.alive with
  | [] =>
    rw [shape] at contested
    cases contested
  | [only] =>
    rw [shape, List.length_singleton] at contested
    omega
  | first :: second :: rest =>
    rw [shape] at distinct living
    refine ⟨first, second, ?_, living first List.mem_cons_self, ?_⟩
    · rintro rfl
      exact (List.nodup_cons.mp distinct).1 List.mem_cons_self
    · exact living second (List.mem_cons_of_mem _ List.mem_cons_self)

end Room

namespace Course

theorem run_preserves (rules : Rules) (P : Room → Prop)
    (preserved : ∀ room supply move, P room → P (room.perform rules supply move).room)
    (course : Course) (moves : List (Move × Supply)) (initially : P course.room) :
    P (course.run rules moves).room :=
  run_induction rules (fun course => P course.room)
    (fun course move => preserved course.room move.2 move.1) course moves initially

theorem run_rostered_turnHeld (rules : Rules) (id : RoomId) (epoch : Epoch) (founder : PlayerId)
    (lives : UInt32) (moves : List (Move × Supply)) :
    let room := ((Course.begin (Room.new id epoch founder lives)).run rules moves).room
    room.Rostered ∧ room.TurnHeld := by
  refine run_preserves rules (fun room => room.Rostered ∧ room.TurnHeld) ?_ _ moves ?_
  · rintro room supply move ⟨rostered, held⟩
    exact ⟨Room.perform_rostered rules supply move rostered,
      Room.perform_turnHeld rules supply move rostered held⟩
  · exact ⟨Room.new_rostered id epoch founder lives, Room.new_turnHeld id epoch founder lives⟩

/-- However a game is played, while it is in progress the turn is with a player who is alive, and
not with the only one. -/
theorem turn_is_held (rules : Rules) (id : RoomId) (epoch : Epoch) (founder : PlayerId)
    (lives : UInt32) (moves : List (Move × Supply))
    (running : ((Course.begin (Room.new id epoch founder lives)).run rules moves).room.phase =
      .inProgress) :
    let room := ((Course.begin (Room.new id epoch founder lives)).run rules moves).room
    (∃ player, room.players[room.turnIndex]? = some player ∧ 0 < room.livesOf player) ∧
      2 ≤ room.aliveCount ∧
      ∃ first second, first ≠ second ∧
        (first ∈ room.players ∧ 0 < room.livesOf first) ∧
        (second ∈ room.players ∧ 0 < room.livesOf second) := by
  intro room
  obtain ⟨rostered, held⟩ := run_rostered_turnHeld rules id epoch founder lives moves
  obtain ⟨contested, player, current, living⟩ := held running
  have seated := ((room.current?_eq_some_iff player).mp current).2
  exact ⟨⟨player, seated, (room.isAlive_iff player).mp living⟩, contested,
    Room.exists_two_alive rostered contested⟩

/-- Three players: the first gives a wrong answer, the others leave the countdown and the game, and
the second comes back too late to be alive. -/
theorem turn_is_held_among_three :
    let rules : Rules := ⟨{}, ⟨fun _ => false, fun _ _ => false⟩⟩
    let supply (number : UInt64) : Supply := ⟨number, fun _ => "the"⟩
    let moves : List (Move × Supply) :=
      [(.add 2 3, supply 1), (.add 3 3, supply 1), (.add 4 3, supply 1), (.remove 4, supply 1),
        (.start, supply 1), (.answer 1 "cathedral", supply 2), (.advance, supply 2),
        (.remove 2, supply 3), (.add 2 3, supply 4)]
    let room := ((Course.begin (Room.new 42 0 1 3)).run rules moves).room
    room.phase = .inProgress ∧
      (∃ player, room.players[room.turnIndex]? = some player ∧ 0 < room.livesOf player) ∧
      2 ≤ room.aliveCount ∧
      ∃ first second, first ≠ second ∧
        (first ∈ room.players ∧ 0 < room.livesOf first) ∧
        (second ∈ room.players ∧ 0 < room.livesOf second) :=
  ⟨by decide +kernel, turn_is_held _ 42 0 1 3 _ (by decide +kernel)⟩

end Course

end WordGame
