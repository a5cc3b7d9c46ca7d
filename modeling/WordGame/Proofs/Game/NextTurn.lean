import WordGame.Proofs.Game.Rotation

/-!
The search for the next turn misses nobody. It works in any room where the game goes on, also in one
that no game leads to: the turn may lie past the end of the roster, and a player may sit in it more
than once.
-/

namespace WordGame

namespace Room

/-- The seat so many steps on from the turn, round the roster. A whole round leads back to the seat
of the turn. -/
def seatAfter (room : Room) (steps : Nat) : Nat :=
  (room.turnIndex + steps) % room.players.length

/-- So many steps on from the turn sits the player, who is alive, and nobody alive before. -/
structure Nearest (room : Room) (steps : Nat) (player : PlayerId) : Prop where
  onward : 0 < steps
  once : steps ≤ room.players.length
  seated : room.players[room.seatAfter steps]? = some player
  living : room.isAlive player = true
  passed : ∀ fewer, 0 < fewer → fewer < steps → ∀ holder,
    room.players[room.seatAfter fewer]? = some holder → room.isAlive holder = false

variable {room : Room} {index : Nat} {player : PlayerId}

theorem dead_of_aliveAt?_eq_none {holder : PlayerId} (free : room.aliveAt? index = none)
    (seated : room.players[index]? = some holder) : room.isAlive holder = false := by
  rw [← Bool.not_eq_true]
  intro living
  rw [(room.aliveAt?_eq_some_iff index holder).mpr ⟨seated, living⟩] at free
  cases free

theorem exists_nearest_of_next? (next : room.next? = some (index, player)) :
    ∃ steps, room.Nearest steps player ∧ room.seatAfter steps = index := by
  obtain ⟨seated, living⟩ := seated_of_firstAlive? next
  obtain ⟨distance, within, found, free⟩ := nearest_of_next? next
  have arrives : room.seatAfter (distance + 1) = index := found.symm
  refine ⟨distance + 1, ⟨Nat.succ_pos _, within, ?_, living, ?_⟩, arrives⟩
  · rw [arrives]
    exact seated
  · intro fewer onward less holder sits
    obtain ⟨nearer, rfl⟩ := Nat.exists_eq_succ_of_ne_zero (Nat.pos_iff_ne_zero.mp onward)
    exact dead_of_aliveAt?_eq_none (free nearer (Nat.lt_of_succ_lt_succ less)) sits

end Room

namespace Play

theorem countRound_eq (play : Play) (index : Nat) :
    play.countRound index =
      { play with
        room :=
          { play.room with
            round :=
              if index ≤ play.room.turnIndex then play.room.round + 1 else play.room.round } } := by
  unfold countRound
  split
  · rfl
  · rfl

/-- While more than one seat is held by somebody alive, passing the turn on starts one turn, at the
nearest of these seats, and counts a round if that seat is not behind the turn. -/
theorem advance_starts_nearest (rules : Rules) (supply : Supply) (play : Play)
    (running : play.room.phase = .inProgress) (contested : 1 < play.room.aliveCount) :
    ∃ steps player, play.room.Nearest steps player ∧
      let index := play.room.seatAfter steps
      let round := if index ≤ play.room.turnIndex then play.room.round + 1 else play.room.round
      let timeLimit := rules.config.timeLimit round
      let fragment := supply.fragment play.outcome.drawn
      play.advance rules supply =
        { room :=
            { play.room with
              turnIndex := index, round := round, turnNumber := supply.turnNumber,
              timeLimit := timeLimit, fragment := fragment }
          outcome :=
            { messages := play.outcome.messages ++
                [.nextTurn play.room.id player fragment timeLimit round (play.room.livesOf player)]
              turn := some ⟨play.room.epoch, supply.turnNumber, index, player, timeLimit⟩
              gameOver := play.outcome.gameOver
              drawn := play.outcome.drawn + 1 } } := by
  have passes : play.Passes rules supply (play.advance rules supply) :=
    play.advance_passes running
  generalize play.advance rules supply = later at passes ⊢
  cases passes with
  | ended decided => exact absurd contested (Nat.not_lt.mpr decided)
  | on index player _ next =>
    obtain ⟨steps, nearest, rfl⟩ := Room.exists_nearest_of_next? next
    refine ⟨steps, player, nearest, ?_⟩
    rw [countRound_eq]
    rfl

/-- The turn lies past the end, and both seats alive are held by the same player. -/
theorem advance_starts_nearest_past_end :
    let rules : Rules := ⟨{}, ⟨fun _ => true, fun _ _ => true⟩⟩
    let supply : Supply := ⟨8, fun _ => "the"⟩
    let room : Room :=
      { Room.new 42 0 5 0 with
        players := [5, 7, 5, 7, 9], lives := Table.empty.insert 7 2, phase := .inProgress
        turnIndex := 11, turnNumber := 7, round := 3 }
    let play := Play.begin room
    play.room.phase = .inProgress ∧ 1 < play.room.aliveCount ∧
      ∃ steps player, play.room.Nearest steps player ∧
        let index := play.room.seatAfter steps
        let round := if index ≤ play.room.turnIndex then play.room.round + 1 else play.room.round
        let timeLimit := rules.config.timeLimit round
        let fragment := supply.fragment play.outcome.drawn
        play.advance rules supply =
          { room :=
              { play.room with
                turnIndex := index, round := round, turnNumber := supply.turnNumber,
                timeLimit := timeLimit, fragment := fragment }
            outcome :=
              { messages := play.outcome.messages ++
                  [.nextTurn play.room.id player fragment timeLimit round
                    (play.room.livesOf player)]
                turn := some ⟨play.room.epoch, supply.turnNumber, index, player, timeLimit⟩
                gameOver := play.outcome.gameOver
                drawn := play.outcome.drawn + 1 } } := by
  intro rules supply room play
  have contested : 1 < play.room.aliveCount := by decide
  exact ⟨rfl, contested, advance_starts_nearest rules supply play rfl contested⟩

end Play

end WordGame
