import WordGame.Proofs.Game.Sequel

/-!
The lives of players in the course of a game. Nobody gains lives but those who join, and nobody loses
any during the countdown but those who leave.
-/

namespace WordGame.Room

variable {rules : Rules} {supply : Supply} {room altered : Room} {move : Move}

namespace Alters

theorem livesOf_le (alters : room.Alters move altered)
    (joined : ∀ player lives, move ≠ .add player lives) (query : PlayerId) :
    altered.livesOf query ≤ room.livesOf query := by
  cases alters with
  | not | scores => exact UInt32.le_refl _
  | enrols | revives => exact absurd rfl (joined _ _)
  | eliminates =>
    rw [livesOf_eliminate]
    split
    · exact UInt32.zero_le
    · exact UInt32.le_refl _
  | expires | penalises => exact room.livesOf_loseLife_le _ query

theorem livesOf_le_of_begun (alters : room.Alters move altered) (begun : room.phase ≠ .waiting)
    {query : PlayerId} (present : room.hasPlayer query = true) :
    altered.livesOf query ≤ room.livesOf query := by
  by_cases joined : ∃ player lives, move = .add player lives
  · obtain ⟨player, lives, rfl⟩ := joined
    cases alters with
    | not => exact UInt32.le_refl _
    | enrols new =>
      have other : query ≠ player := by
        rintro rfl
        cases present.symm.trans new
      rw [livesOf_enrol, if_neg other]
      exact UInt32.le_refl _
    | revives waiting => exact absurd waiting begun
  · exact alters.livesOf_le (fun player lives same => joined ⟨player, lives, same⟩) query

theorem livesOf_of_waiting (alters : room.Alters move altered) (waiting : room.phase = .waiting)
    {query : PlayerId} (joined : ∀ lives, move ≠ .add query lives) (left : move ≠ .remove query) :
    altered.livesOf query = room.livesOf query := by
  cases alters with
  | not | scores => rfl
  | @enrols player lives =>
    have other : query ≠ player := by
      rintro rfl
      exact joined lives rfl
    rw [livesOf_enrol, if_neg other]
  | @revives player lives =>
    have other : query ≠ player := by
      rintro rfl
      exact joined lives rfl
    rw [livesOf_setLives, if_neg other]
  | @eliminates player =>
    have other : query ≠ player := by
      rintro rfl
      exact left rfl
    rw [livesOf_eliminate, if_neg other]
  | expires running => cases waiting.symm.trans (running_of_isRunning running)
  | penalises current => cases waiting.symm.trans (running_of_current? current)

theorem livesOf_removed {player : PlayerId} (alters : room.Alters (.remove player) altered)
    (unfinished : room.phase ≠ .finished) : altered.livesOf player = 0 := by
  cases alters with
  | not stays => exact (stays player rfl).resolve_right unfinished
  | eliminates => rw [livesOf_eliminate, if_pos rfl]

end Alters

theorem livesOf_perform_le (room : Room) (rules : Rules) (supply : Supply) (move : Move)
    (joined : ∀ player lives, move ≠ .add player lives) (query : PlayerId) :
    (room.perform rules supply move).room.livesOf query ≤ room.livesOf query := by
  obtain ⟨altered, alters, same⟩ := (room.perform_step rules supply move).alters
  rw [same.livesOf]
  exact alters.livesOf_le joined query

theorem isAlive_of_perform (rules : Rules) (supply : Supply) (begun : room.phase ≠ .waiting)
    {query : PlayerId} (present : room.hasPlayer query = true)
    (alive : (room.perform rules supply move).room.isAlive query = true) :
    room.isAlive query = true := by
  obtain ⟨altered, alters, same⟩ := (room.perform_step rules supply move).alters
  rw [same.isAlive, isAlive_iff] at alive
  rw [isAlive_iff]
  exact UInt32.lt_of_lt_of_le alive (alters.livesOf_le_of_begun begun present)

theorem livesOf_perform_of_waiting (rules : Rules) (supply : Supply)
    (waiting : room.phase = .waiting) {query : PlayerId}
    (joined : ∀ lives, move ≠ .add query lives) (left : move ≠ .remove query) :
    (room.perform rules supply move).room.livesOf query = room.livesOf query := by
  obtain ⟨altered, alters, same⟩ := (room.perform_step rules supply move).alters
  rw [same.livesOf]
  exact alters.livesOf_of_waiting waiting joined left

theorem livesOf_perform_remove (rules : Rules) (supply : Supply) (player : PlayerId)
    (unfinished : room.phase ≠ .finished) :
    (room.perform rules supply (.remove player)).room.livesOf player = 0 := by
  obtain ⟨altered, alters, same⟩ := (room.perform_step rules supply (.remove player)).alters
  rw [same.livesOf]
  exact alters.livesOf_removed unfinished

theorem livesOf_new (id : RoomId) (epoch : Epoch) (founder query : PlayerId)
    (initialLives : UInt32) :
    (new id epoch founder initialLives).livesOf query =
      if query = founder then initialLives else 0 := by
  change (Table.empty.insert founder initialLives).getD query 0 = _
  rw [Table.getD_insert]
  rfl

theorem livesOf_addPlayer_of_ne (room : Room) {player query : PlayerId} (lives : UInt32)
    (other : query ≠ player) :
    (room.addPlayer player lives).1.livesOf query = room.livesOf query := by
  unfold addPlayer
  split
  · split
    · rw [livesOf_setLives, if_neg other]
    · rfl
  · rw [livesOf_enrol, if_neg other]

theorem livesOf_addPlayer_pos (room : Room) (player : PlayerId) {lives : UInt32}
    (some : 0 < lives) (waiting : room.phase = .waiting) :
    0 < (room.addPlayer player lives).1.livesOf player := by
  unfold addPlayer
  cases listed : room.lives.get? player with
  | none =>
    dsimp only
    rw [livesOf_enrol, if_pos rfl]
    exact some
  | some held =>
    dsimp only
    by_cases out : held = 0
    · rw [if_pos ⟨waiting, out⟩, livesOf_setLives, if_pos rfl]
      exact some
    · rw [if_neg (fun both => out both.2)]
      unfold livesOf Table.getD
      rw [listed]
      exact UInt32.pos_iff_ne_zero.mpr out

end WordGame.Room
