import WordGame.Game.Room

/-!
The standings of a room: what a change of lives or points does to each player, and that they do not
hang on the course of the game.
-/

namespace WordGame.Room

theorem isAlive_iff (room : Room) (player : PlayerId) :
    room.isAlive player = true ↔ 0 < room.livesOf player := decide_eq_true_iff

theorem isAlive_iff_ne (room : Room) (player : PlayerId) :
    room.isAlive player = true ↔ room.livesOf player ≠ 0 := by
  rw [isAlive_iff]
  exact UInt32.pos_iff_ne_zero

theorem livesOf_of_absent (room : Room) (player : PlayerId)
    (absent : room.hasPlayer player = false) : room.livesOf player = 0 := by
  unfold hasPlayer Table.contains at absent
  unfold livesOf Table.getD
  rw [Option.isSome_eq_false_iff, Option.isNone_iff_eq_none] at absent
  rw [absent]
  rfl

theorem livesOf_setLives (room : Room) (player query : PlayerId) (lives : UInt32) :
    (room.setLives player lives).livesOf query =
      if query = player then lives else room.livesOf query :=
  Table.getD_insert room.lives player query lives 0

theorem livesOf_enrol (room : Room) (player query : PlayerId) (lives : UInt32) :
    (room.enrol player lives).livesOf query =
      if query = player then lives else room.livesOf query :=
  Table.getD_insert room.lives player query lives 0

theorem livesOf_eliminate (room : Room) (player query : PlayerId) :
    (room.eliminate player).livesOf query = if query = player then 0 else room.livesOf query :=
  room.livesOf_setLives player query 0

theorem livesOf_loseLife_of_ne (room : Room) {player query : PlayerId}
    (different : query ≠ player) : (room.loseLife player).livesOf query = room.livesOf query := by
  unfold loseLife
  rw [livesOf_setLives, if_neg different]

theorem toNat_livesOf_loseLife (room : Room) (player : PlayerId) :
    ((room.loseLife player).livesOf player).toNat = (room.livesOf player).toNat - 1 := by
  unfold loseLife
  rw [livesOf_setLives, if_pos rfl]
  split
  · rename_i none
    rw [none]
    rfl
  · rename_i some
    have positive : 0 < (room.livesOf player).toNat :=
      UInt32.lt_iff_toNat_lt.mp (UInt32.pos_iff_ne_zero.mpr some)
    exact UInt32.toNat_sub_of_le _ _ (UInt32.le_iff_toNat_le.mpr positive)

theorem livesOf_loseLife_le (room : Room) (player query : PlayerId) :
    (room.loseLife player).livesOf query ≤ room.livesOf query := by
  by_cases same : query = player
  · subst same
    rw [UInt32.le_iff_toNat_le, toNat_livesOf_loseLife]
    omega
  · rw [livesOf_loseLife_of_ne room same]
    exact UInt32.le_refl _

theorem isAlive_setLives_of_ne (room : Room) {player query : PlayerId} (lives : UInt32)
    (different : query ≠ player) :
    (room.setLives player lives).isAlive query = room.isAlive query := by
  unfold isAlive
  rw [livesOf_setLives, if_neg different]

theorem isAlive_enrol_of_ne (room : Room) {player query : PlayerId} (lives : UInt32)
    (different : query ≠ player) :
    (room.enrol player lives).isAlive query = room.isAlive query := by
  unfold isAlive
  rw [livesOf_enrol, if_neg different]

theorem pointsOf_score (room : Room) (player query : PlayerId) :
    (room.score player).pointsOf query =
      if query = player then room.pointsOf player + 1 else room.pointsOf query :=
  Table.getD_insert room.points player query _ 0

theorem livesOf_score (room : Room) (player query : PlayerId) :
    (room.score player).livesOf query = room.livesOf query := rfl

theorem pointsOf_loseLife (room : Room) (player query : PlayerId) :
    (room.loseLife player).pointsOf query = room.pointsOf query := rfl

theorem pointsOf_enrol (room : Room) (player query : PlayerId) (lives : UInt32) :
    (room.enrol player lives).pointsOf query =
      if query = player then 0 else room.pointsOf query :=
  Table.getD_insert room.points player query 0 0

/-- Two rooms with the same players, who have the same lives and points. -/
structure SameStandings (room later : Room) : Prop where
  id : later.id = room.id
  epoch : later.epoch = room.epoch
  founder : later.founder = room.founder
  players : later.players = room.players
  lives : later.lives = room.lives
  points : later.points = room.points

namespace SameStandings

variable {room middle later : Room}

theorem refl (room : Room) : room.SameStandings room := ⟨rfl, rfl, rfl, rfl, rfl, rfl⟩

theorem trans (first : room.SameStandings middle) (second : middle.SameStandings later) :
    room.SameStandings later where
  id := second.id.trans first.id
  epoch := second.epoch.trans first.epoch
  founder := second.founder.trans first.founder
  players := second.players.trans first.players
  lives := second.lives.trans first.lives
  points := second.points.trans first.points

theorem livesOf (same : room.SameStandings later) (player : PlayerId) :
    later.livesOf player = room.livesOf player := by
  unfold Room.livesOf
  rw [same.lives]

theorem pointsOf (same : room.SameStandings later) (player : PlayerId) :
    later.pointsOf player = room.pointsOf player := by
  unfold Room.pointsOf
  rw [same.points]

theorem isAlive (same : room.SameStandings later) : later.isAlive = room.isAlive := by
  funext player
  unfold Room.isAlive
  rw [same.livesOf]

theorem alive (same : room.SameStandings later) : later.alive = room.alive := by
  unfold Room.alive
  rw [same.players, same.isAlive]

theorem aliveCount (same : room.SameStandings later) : later.aliveCount = room.aliveCount := by
  unfold Room.aliveCount
  rw [same.alive]

end SameStandings

end WordGame.Room
