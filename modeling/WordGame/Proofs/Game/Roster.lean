import Mathlib.Data.List.Nodup
import WordGame.Proofs.Game.Alteration

/-!
The roster of a room. It begins with the founder, lists nobody twice and only grows at its end, and
the lives and the points have an entry for each of its players and for nobody else.
-/

namespace WordGame

namespace Room

structure Rostered (room : Room) : Prop where
  founded : room.players.head? = some room.founder
  nodup : room.players.Nodup
  lives : ∀ player, room.lives.contains player = true ↔ player ∈ room.players
  points : ∀ player, room.points.contains player = true ↔ player ∈ room.players

variable {rules : Rules} {supply : Supply} {room later : Room}

theorem new_rostered (id : RoomId) (epoch : Epoch) (founder : PlayerId) (initialLives : UInt32) :
    (new id epoch founder initialLives).Rostered where
  founded := rfl
  nodup := List.nodup_singleton founder
  lives player := by
    change (Table.empty.insert founder initialLives).contains player = true ↔ player ∈ [founder]
    rw [Table.contains_insert, List.mem_singleton]
    exact or_iff_left Bool.false_ne_true
  points player := by
    change (Table.empty.insert founder (0 : UInt32)).contains player = true ↔ player ∈ [founder]
    rw [Table.contains_insert, List.mem_singleton]
    exact or_iff_left Bool.false_ne_true

theorem mem_players_of_current? {player : PlayerId} (current : room.current? = some player) :
    player ∈ room.players :=
  List.mem_of_getElem? ((room.current?_eq_some_iff player).mp current).2

namespace Rostered

theorem hasPlayer_iff (rostered : room.Rostered) (player : PlayerId) :
    room.hasPlayer player = true ↔ player ∈ room.players :=
  rostered.lives player

theorem hasPlayer_eq_false_iff (rostered : room.Rostered) (player : PlayerId) :
    room.hasPlayer player = false ↔ player ∉ room.players := by
  rw [← rostered.hasPlayer_iff, Bool.not_eq_true]

theorem perm_keys_lives (rostered : room.Rostered) : room.lives.keys.Perm room.players := by
  refine (List.perm_ext_iff_of_nodup room.lives.nodup_keys rostered.nodup).mpr ?_
  intro player
  rw [Table.mem_keys, rostered.lives]

theorem perm_keys_points (rostered : room.Rostered) : room.points.keys.Perm room.players := by
  refine (List.perm_ext_iff_of_nodup room.points.nodup_keys rostered.nodup).mpr ?_
  intro player
  rw [Table.mem_keys, rostered.points]

theorem seat_of_isAlive (rostered : room.Rostered) {player : PlayerId}
    (alive : room.isAlive player = true) : ∃ seat : Nat, room.players[seat]? = some player := by
  apply List.mem_iff_getElem?.mp
  rw [← rostered.hasPlayer_iff]
  by_contra absent
  rw [isAlive_iff, room.livesOf_of_absent player (Bool.eq_false_iff.mpr absent)] at alive
  exact UInt32.lt_irrefl 0 alive

theorem seat_unique (rostered : room.Rostered) {seat other : Nat} {player : PlayerId}
    (sits : room.players[seat]? = some player) (same : room.players[other]? = some player) :
    seat = other := by
  have within := (List.getElem?_eq_some_iff.mp sits).1
  exact (List.getElem?_inj within rostered.nodup).mp (sits.trans same.symm)

theorem pointsOf_of_absent (rostered : room.Rostered) {player : PlayerId}
    (absent : room.hasPlayer player = false) : room.pointsOf player = 0 := by
  have unlisted : room.points.contains player = false := by
    rw [← Bool.not_eq_true, rostered.points, ← rostered.hasPlayer_eq_false_iff]
    exact absent
  unfold Table.contains at unlisted
  rw [Option.isSome_eq_false_iff, Option.isNone_iff_eq_none] at unlisted
  unfold pointsOf Table.getD
  rw [unlisted]
  rfl

theorem sameStandings (rostered : room.Rostered) (same : room.SameStandings later) :
    later.Rostered where
  founded := by
    rw [same.players, same.founder]
    exact rostered.founded
  nodup := by
    rw [same.players]
    exact rostered.nodup
  lives player := by
    rw [same.lives, same.players]
    exact rostered.lives player
  points player := by
    rw [same.points, same.players]
    exact rostered.points player

theorem enrol (rostered : room.Rostered) {player : PlayerId} (lives : UInt32)
    (new : room.hasPlayer player = false) : (room.enrol player lives).Rostered where
  founded := by
    change (room.players ++ [player]).head? = some room.founder
    rw [List.head?_append, rostered.founded]
    rfl
  nodup := by
    have absent := (rostered.hasPlayer_eq_false_iff player).mp new
    refine List.nodup_append.mpr ⟨rostered.nodup, List.nodup_singleton player, ?_⟩
    intro first member second newcomer
    rw [List.mem_singleton] at newcomer
    rintro rfl
    exact absent (newcomer ▸ member)
  lives query := by
    change (room.lives.insert player lives).contains query = true ↔
      query ∈ room.players ++ [player]
    rw [Table.contains_insert, rostered.lives, List.mem_append, List.mem_singleton, or_comm]
  points query := by
    change (room.points.insert player 0).contains query = true ↔
      query ∈ room.players ++ [player]
    rw [Table.contains_insert, rostered.points, List.mem_append, List.mem_singleton, or_comm]

theorem setLives (rostered : room.Rostered) {player : PlayerId} (lives : UInt32)
    (member : player ∈ room.players) : (room.setLives player lives).Rostered where
  founded := rostered.founded
  nodup := rostered.nodup
  lives query := by
    change (room.lives.insert player lives).contains query = true ↔ query ∈ room.players
    rw [Table.contains_insert, rostered.lives]
    exact or_iff_right_of_imp (fun same => same ▸ member)
  points := rostered.points

theorem score (rostered : room.Rostered) {player : PlayerId}
    (member : player ∈ room.players) : (room.score player).Rostered where
  founded := rostered.founded
  nodup := rostered.nodup
  lives := rostered.lives
  points query := by
    change (room.points.insert player (room.pointsOf player + 1)).contains query = true ↔
      query ∈ room.players
    rw [Table.contains_insert, rostered.points]
    exact or_iff_right_of_imp (fun same => same ▸ member)

theorem alters {move : Move} {altered : Room} (rostered : room.Rostered)
    (alters : room.Alters move altered) : altered.Rostered := by
  cases alters with
  | not => exact rostered
  | enrols new => exact rostered.enrol _ new
  | revives _ present => exact rostered.setLives _ ((rostered.hasPlayer_iff _).mp present)
  | eliminates present => exact rostered.setLives _ ((rostered.hasPlayer_iff _).mp present)
  | expires running =>
    exact rostered.setLives _ (mem_players_of_current? (current?_of_isRunning running))
  | scores current => exact rostered.score (mem_players_of_current? current)
  | penalises current => exact rostered.setLives _ (mem_players_of_current? current)

end Rostered

theorem Alters.players_prefix {move : Move} {altered : Room} (alters : room.Alters move altered) :
    room.players <+: altered.players := by
  cases alters with
  | enrols => exact List.prefix_append _ _
  | not => exact List.prefix_refl _
  | revives => exact List.prefix_refl _
  | eliminates => exact List.prefix_refl _
  | expires => exact List.prefix_refl _
  | scores => exact List.prefix_refl _
  | penalises => exact List.prefix_refl _

theorem Alters.mem_players_iff {move : Move} {altered : Room} (alters : room.Alters move altered)
    {player : PlayerId} (joined : ∀ lives, move ≠ .add player lives) :
    player ∈ altered.players ↔ player ∈ room.players := by
  cases alters with
  | @enrols other lives =>
    have different : player ≠ other := by
      rintro rfl
      exact joined lives rfl
    change player ∈ room.players ++ [other] ↔ player ∈ room.players
    rw [List.mem_append, List.mem_singleton]
    exact or_iff_left different
  | not | revives | eliminates | expires | scores | penalises => exact Iff.rfl

/-- Whoever sits somewhere sits there however the roster grows. -/
theorem seated_of_prefix {seat : Nat} {player : PlayerId}
    (roster : room.players <+: later.players) (sits : room.players[seat]? = some player) :
    later.players[seat]? = some player := by
  obtain ⟨within, same⟩ := List.getElem?_eq_some_iff.mp sits
  rw [List.prefix_iff_getElem?.mp roster seat within, same]

theorem perform_rostered (rules : Rules) (supply : Supply) (move : Move)
    (rostered : room.Rostered) : (room.perform rules supply move).room.Rostered := by
  obtain ⟨altered, alters, same⟩ := (room.perform_step rules supply move).alters
  exact (rostered.alters alters).sameStandings same

theorem players_prefix_perform (room : Room) (rules : Rules) (supply : Supply) (move : Move) :
    room.players <+: (room.perform rules supply move).room.players := by
  obtain ⟨altered, alters, same⟩ := (room.perform_step rules supply move).alters
  rw [same.players]
  exact alters.players_prefix

/-- Only those who join come into a room, and nobody is taken off its roster. -/
theorem mem_players_perform (room : Room) (rules : Rules) (supply : Supply) {move : Move}
    {player : PlayerId} (joined : ∀ lives, move ≠ .add player lives) :
    player ∈ (room.perform rules supply move).room.players ↔ player ∈ room.players := by
  obtain ⟨altered, alters, same⟩ := (room.perform_step rules supply move).alters
  rw [same.players]
  exact alters.mem_players_iff joined

end Room

namespace Course

theorem run_induction (rules : Rules) (P : Course → Prop)
    (preserved : ∀ course move, P course → P (course.step rules move)) (course : Course)
    (moves : List (Move × Supply)) (initially : P course) : P (course.run rules moves) := by
  induction moves generalizing course with
  | nil => exact initially
  | cons move rest ih =>
    rw [run_cons]
    exact ih (course.step rules move) (preserved course move initially)

theorem run_rostered (rules : Rules) (id : RoomId) (epoch : Epoch) (founder : PlayerId)
    (lives : UInt32) (moves : List (Move × Supply)) :
    ((begin (Room.new id epoch founder lives)).run rules moves).room.Rostered := by
  refine run_induction rules (fun course => course.room.Rostered) ?_ _ moves ?_
  · intro course move rostered
    exact Room.perform_rostered rules move.2 move.1 rostered
  · exact Room.new_rostered id epoch founder lives

theorem players_prefix_run (rules : Rules) (course : Course) (moves : List (Move × Supply)) :
    course.room.players <+: (course.run rules moves).room.players := by
  refine run_induction rules (fun later => course.room.players <+: later.room.players) ?_ _ moves ?_
  · intro later move grown
    exact grown.trans (later.room.players_prefix_perform rules move.2 move.1)
  · exact List.prefix_refl _

/-- However a game is played, and whoever is named in its moves: the roster begins with the founder
and lists nobody twice, and lives and points are kept for those on it and for nobody else. Whatever
is done next, the roster stays as it is but for whoever joins, behind the others. -/
theorem roster_is_consistent (rules : Rules) (id : RoomId) (epoch : Epoch) (founder : PlayerId)
    (lives : UInt32) (moves : List (Move × Supply)) :
    let room := ((begin (Room.new id epoch founder lives)).run rules moves).room
    room.players.Nodup ∧ room.players.head? = some founder ∧
      room.lives.keys.Perm room.players ∧ room.points.keys.Perm room.players ∧
      ∀ (move : Move) (supply : Supply),
        let later := (room.perform rules supply move).room
        room.players <+: later.players ∧
          ∀ player ∈ later.players, player ∈ room.players ∨ ∃ given, move = .add player given := by
  intro room
  have rostered : room.Rostered := run_rostered rules id epoch founder lives moves
  have begins : [founder] <+: room.players :=
    players_prefix_run rules (begin (Room.new id epoch founder lives)) moves
  refine ⟨rostered.nodup, ?_, rostered.perm_keys_lives, rostered.perm_keys_points, ?_⟩
  · obtain ⟨others, roster⟩ := begins
    rw [← roster]
    rfl
  · intro move supply later
    refine ⟨room.players_prefix_perform rules supply move, ?_⟩
    intro player member
    by_cases joined : ∃ given, move = .add player given
    · exact .inr joined
    · exact .inl ((room.mem_players_perform rules supply (not_exists.mp joined)).mp member)

end Course

end WordGame
