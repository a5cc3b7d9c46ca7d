import WordGame.Proofs.Game.Lives
import WordGame.Proofs.Game.TurnHeld
import WordGame.Proofs.Server.Agreement

/-!
Nobody plays who is not there. Until a game is over, whoever has lives left in it is connected to its
room, so a game never waits for somebody who has gone.
-/

namespace WordGame

namespace Site

structure Populated (site : Site) (capacity : Nat) (initialLives : UInt32) : Prop where
  held : ∀ room, site.room = some room → room.TurnHeld
  connected : ∀ room, site.room = some room → room.phase ≠ .finished →
    ∀ player, 0 < room.livesOf player → site.members.contains player = true
  alive : 0 < initialLives → ∀ room, site.room = some room → room.phase = .waiting →
    ∀ player, site.members.contains player = true → 0 < room.livesOf player
  places : site.members.size ≤ capacity

namespace Populated

variable {rules : Rules} {capacity : Nat} {site later : Site} {room : Room}

theorem moved (populated : site.Populated capacity rules.config.initialLives)
    (agrees : site.Agrees) (present : site.room = some room) (supply : Supply) (move : Move)
    (joined : ∀ player lives, move ≠ .add player lives) (left : ∀ player, move ≠ .remove player)
    (entry : RoomTimers) :
    Populated ⟨some (room.perform rules supply move).room, site.members, entry⟩ capacity
      rules.config.initialLives := by
  have sequel := room.perform_sequel rules supply move
  refine ⟨?_, ?_, ?_, populated.places⟩
  · intro after same
    cases same
    have rostered := agrees.rostered room present
    exact Room.perform_turnHeld rules supply move rostered (populated.held room present)
  · intro after same unfinished player alive
    cases same
    have before : 0 < room.livesOf player :=
      UInt32.lt_of_lt_of_le alive (room.livesOf_perform_le rules supply move joined player)
    exact populated.connected room present (fun finished => unfinished (sequel.finished finished))
      player before
  · intro some after same waiting player member
    cases same
    have waiting := sequel.waiting waiting
    rw [Room.livesOf_perform_of_waiting rules supply waiting (joined player) (left player)]
    exact populated.alive some room present waiting player member

theorem parted (populated : site.Populated capacity rules.config.initialLives)
    (agrees : site.Agrees) (present : site.room = some room) (supply : Supply) (player : PlayerId)
    (entry : RoomTimers) :
    Populated ⟨some (room.perform rules supply (.remove player)).room, site.members.erase player,
      entry⟩ capacity rules.config.initialLives := by
  have sequel := room.perform_sequel rules supply (.remove player)
  refine ⟨?_, ?_, ?_, Nat.le_trans (site.members.size_erase_le player) populated.places⟩
  · intro after same
    cases same
    have rostered := agrees.rostered room present
    exact Room.perform_turnHeld rules supply _ rostered (populated.held room present)
  · intro after same unfinished query alive
    cases same
    have before : room.phase ≠ .finished := fun finished => unfinished (sequel.finished finished)
    rw [Table.contains_erase]
    constructor
    · rintro rfl
      rw [Room.livesOf_perform_remove rules supply query before] at alive
      cases alive
    · have lives := room.livesOf_perform_le rules supply (.remove player)
        (fun _ _ other => nomatch other) query
      exact populated.connected room present before query (UInt32.lt_of_lt_of_le alive lives)
  · intro some after same waiting query member
    cases same
    obtain ⟨other, member⟩ := (Table.contains_erase _ _ _).mp member
    have waiting := sequel.waiting waiting
    have joined : ∀ lives, Move.remove player ≠ .add query lives := fun _ other => nomatch other
    have left : Move.remove player ≠ .remove query := by
      rintro ⟨⟩
      exact other rfl
    rw [Room.livesOf_perform_of_waiting rules supply waiting joined left]
    exact populated.alive some room present waiting query member

/-- A connection takes the place of another of its player, or one that is free. -/
theorem places_insert (populated : site.Populated capacity rules.config.initialLives)
    (connection : Connection)
    (place : site.members.contains connection.identity.id = true ∨ site.members.size < capacity) :
    (site.members.insert connection.identity.id connection).size ≤ capacity := by
  cases present : site.members.contains connection.identity.id with
  | true =>
    rw [Table.size_insert_of_contains _ present]
    exact populated.places
  | false =>
    rw [present] at place
    rw [Table.size_insert_of_new _ present]
    exact place.resolve_left Bool.false_ne_true

theorem founded (populated : site.Populated capacity rules.config.initialLives)
    (agrees : site.Agrees) (absent : site.room = none) (connection : Connection) (id : RoomId)
    (epoch : Epoch)
    (place : site.members.contains connection.identity.id = true ∨ site.members.size < capacity)
    (entry : RoomTimers) :
    Populated ⟨some (Room.new id epoch connection.identity.id rules.config.initialLives),
      site.members.insert connection.identity.id connection, entry⟩ capacity
      rules.config.initialLives := by
  refine ⟨?_, ?_, ?_, populated.places_insert connection place⟩
  · intro room same
    cases same
    exact Room.new_turnHeld id epoch connection.identity.id rules.config.initialLives
  · intro room same _ player alive
    cases same
    rw [Room.livesOf_new] at alive
    rw [Table.contains_insert]
    by_cases founder : player = connection.identity.id
    · exact .inl founder
    · rw [if_neg founder] at alive
      cases alive
  · intro some room same _ player member
    cases same
    rw [Room.livesOf_new]
    rcases (Table.contains_insert _ _ _ _).mp member with founder | before
    · rw [if_pos founder]
      exact some
    · rw [agrees.no_members absent player] at before
      cases before

/-- A newcomer, or a player whose connection is replaced. -/
theorem entered (populated : site.Populated capacity rules.config.initialLives)
    (agrees : site.Agrees) (present : site.room = some room) (connection : Connection)
    (place : site.members.contains connection.identity.id = true ∨ site.members.size < capacity) :
    Populated
      { site with
        room := some (room.addPlayer connection.identity.id rules.config.initialLives).1
        members := site.members.insert connection.identity.id connection } capacity
      rules.config.initialLives := by
  refine ⟨?_, ?_, ?_, populated.places_insert connection place⟩
  · intro after same
    cases same
    exact Room.perform_turnHeld rules ⟨0, fun _ => ""⟩
      (.add connection.identity.id rules.config.initialLives) (agrees.rostered room present)
      (populated.held room present)
  · intro after same unfinished player alive
    cases same
    rw [Room.addPlayer_phase] at unfinished
    rw [Table.contains_insert]
    by_cases newcomer : player = connection.identity.id
    · exact .inl newcomer
    · rw [Room.livesOf_addPlayer_of_ne room _ newcomer] at alive
      exact .inr (populated.connected room present unfinished player alive)
  · intro some after same waiting player member
    cases same
    rw [Room.addPlayer_phase] at waiting
    by_cases newcomer : player = connection.identity.id
    · rw [newcomer]
      exact room.livesOf_addPlayer_pos _ some waiting
    · rw [Room.livesOf_addPlayer_of_ne room _ newcomer]
      have before := ((Table.contains_insert _ _ _ _).mp member).resolve_left newcomer
      exact populated.alive some room present waiting player before

/-- A room that does not exist. -/
theorem of_absent {members : Table PlayerId Connection} (places : members.size ≤ capacity)
    (entry : RoomTimers) : Populated ⟨none, members, entry⟩ capacity rules.config.initialLives := by
  refine ⟨?_, ?_, ?_, places⟩
  · intro room same
    cases same
  · intro room same
    cases same
  · intro _ room same
    cases same

end Populated

theorem Step.populated {rules : Rules} {capacity : Nat} {site later : Site}
    (step : site.Step rules capacity later) (agrees : site.Agrees)
    (populated : site.Populated capacity rules.config.initialLives) :
    later.Populated capacity rules.config.initialLives := by
  cases step with
  | away => exact populated
  | founded connection id epoch _ absent place =>
    exact populated.founded agrees absent connection id epoch place _
  | entered connection found present place =>
    exact populated.entered agrees present connection place
  | emptied player last =>
    refine Populated.of_absent ?_ _
    rw [last]
    exact Nat.zero_le _
  | parted player found supply _ present =>
    exact populated.parted agrees present supply player _
  | strayed player absent =>
    have fewer := site.members.size_erase_le player
    rw [absent]
    exact Populated.of_absent (Nat.le_trans fewer populated.places) _
  | answered player text found supply _ present =>
    exact populated.moved agrees present supply (.answer player text) (fun _ _ other => nomatch other)
      (fun _ other => nomatch other) _
  | started found supply _ present =>
    exact populated.moved agrees present supply .start (fun _ _ other => nomatch other)
      (fun _ other => nomatch other) _
  | expired ticket found supply _ present =>
    exact populated.moved agrees present supply (.expire ticket) (fun _ _ other => nomatch other)
      (fun _ other => nomatch other) _
  | outlived number absent =>
    rw [absent]
    exact Populated.of_absent populated.places _

end Site

namespace Chronicle

theorem run_populated (rules : Rules) (occurrences : List (Occurrence × (Nat → String)))
    (id : RoomId) :
    (((begin (.initial rules.config)).run rules occurrences).server.site id).Populated
      rules.config.maxRoomCapacity rules.config.initialLives := by
  let capacity := rules.config.maxRoomCapacity
  let lives := rules.config.initialLives
  have holds := run_preserves_server rules (fun server =>
    server.registry.capacity = capacity ∧ (server.site id).Agrees ∧
      (server.site id).Populated capacity lives) ?_ (begin (.initial rules.config)) occurrences ?_
  · exact holds.2.2
  · rintro server later fragment occurrence step ⟨same, agrees, populated⟩
    have siteStep := step.site id
    rw [same] at siteStep
    exact ⟨step.capacity.trans same, siteStep.agrees agrees, siteStep.populated agrees populated⟩
  · exact ⟨rfl, Site.nobody_agrees, Site.Populated.of_absent (Nat.zero_le _) _⟩

/-- Whatever happens and in whatever order: as long as a game is not over, everybody who has lives
left is connected to its room, and so is the player whose turn it is. During the countdown exactly
those who are connected are alive, if players begin with any lives. -/
theorem players_are_connected (rules : Rules) (occurrences : List (Occurrence × (Nat → String)))
    (id : RoomId) (room : Room)
    (present : ((begin (.initial rules.config)).run rules
      occurrences).server.store.get? id = some room) :
    let registry :=
      ((begin (.initial rules.config)).run rules occurrences).server.registry
    (room.phase = .waiting ∨ room.phase = .inProgress →
      (∀ player, 0 < room.livesOf player → registry.contains id player = true) ∧
        room.aliveCount ≤ rules.config.maxRoomCapacity) ∧
      (room.phase = .inProgress →
        ∃ player, room.current? = some player ∧ registry.contains id player = true) ∧
      (0 < rules.config.initialLives → room.phase = .waiting →
        ∀ player, 0 < room.livesOf player ↔ registry.contains id player = true) := by
  intro registry
  have agrees := run_agrees rules occurrences id
  have populated := run_populated rules occurrences id
  refine ⟨?_, ?_, ?_⟩
  · intro unfinished
    have unfinished : room.phase ≠ .finished := by
      rcases unfinished with waiting | running
      · rw [waiting]
        decide
      · rw [running]
        decide
    have connected := populated.connected room present unfinished
    refine ⟨connected, ?_⟩
    have distinct : room.alive.Nodup := (agrees.rostered room present).nodup.filter _
    have fewer : room.aliveCount ≤ (registry.members id).size := by
      apply Table.length_le_size distinct
      intro player member
      exact connected player ((room.isAlive_iff player).mp (List.mem_filter.mp member).2)
    exact Nat.le_trans fewer populated.places
  · intro running
    obtain ⟨_, player, current, alive⟩ := populated.held room present running
    have connected := populated.connected room present (by rw [running]; decide) player
    exact ⟨player, current, connected ((room.isAlive_iff player).mp alive)⟩
  · intro some waiting player
    constructor
    · exact populated.connected room present (by rw [waiting]; decide) player
    · exact populated.alive some room present waiting player

/-- In one room a game is running, which a third player joins, while the first comes back on another
connection and the old one leaves; in another room the second of two has left the countdown. -/
theorem players_are_connected_in_two_rooms :
    let rules : Rules := ⟨{}, ⟨fun _ => false, fun _ _ => false⟩⟩
    let one : Connection := ⟨1, ⟨10, "one", false⟩⟩
    let two : Connection := ⟨2, ⟨20, "two", false⟩⟩
    let three : Connection := ⟨3, ⟨30, "three", false⟩⟩
    let moves : List Occurrence :=
      [.join one 7 none, .join two 7 none, .wait 120000, .ring, .call 0, .join three 7 none,
        .join { one with id := 4 } 7 none, .leave one 7, .join one 8 none, .join two 8 none,
        .leave two 8]
    let occurrences := moves.map fun move => (move, fun _ => "the")
    let server := ((begin (.initial rules.config)).run rules occurrences).server
    (∃ room, server.store.get? 7 = some room ∧ room.phase = .inProgress ∧
      (∃ player, room.current? = some player ∧ server.registry.contains 7 player = true) ∧
      room.aliveCount ≤ 10) ∧
    ∃ room, server.store.get? 8 = some room ∧ room.phase = .waiting ∧
      ∀ player, 0 < room.livesOf player ↔ server.registry.contains 8 player = true := by
  intro rules one two three moves occurrences server
  have running : (server.store.get? 7).map Room.phase = some .inProgress := by decide +kernel
  have waiting : (server.store.get? 8).map Room.phase = some .waiting := by decide +kernel
  obtain ⟨playing, present, running⟩ := Option.map_eq_some_iff.mp running
  obtain ⟨counting, listed, waiting⟩ := Option.map_eq_some_iff.mp waiting
  have played := players_are_connected rules occurrences 7 playing present
  have counted := players_are_connected rules occurrences 8 counting listed
  exact ⟨⟨playing, present, running, played.2.1 running, (played.1 (.inr running)).2⟩,
    counting, listed, waiting, counted.2.2 (by decide) waiting⟩

end Chronicle

end WordGame
