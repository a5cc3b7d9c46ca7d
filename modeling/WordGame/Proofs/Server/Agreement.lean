import WordGame.Proofs.Game.Roster
import WordGame.Proofs.Server.Numbering

/-!
The store, the registry and the timers agree on every room: a room exists just as long as somebody is
connected to it, whoever is connected is on its roster, and what is recorded for its timers is what
the phase of its game asks for.
-/

namespace WordGame

/-- Whether a record is that of a room in the given phase, or of a room that does not exist. -/
def RoomTimers.Fits (entry : RoomTimers) : Option Phase → Prop
  | some .waiting => entry.countdown.isSome = true ∧ entry.turn = .none
  | some .inProgress => entry.countdown = .none
  | some .finished => entry = .none
  | .none => entry = .none

namespace RoomTimers.Fits

variable {supply : Supply} {room : Room} {move : Move} {play : Play} {entry : RoomTimers}

theorem countdown_eq_none (fits : entry.Fits (some room.phase)) (begun : room.phase ≠ .waiting) :
    entry.countdown = .none := by
  cases phase : room.phase with
  | waiting => exact absurd phase begun
  | inProgress =>
    rw [phase] at fits
    exact fits
  | finished =>
    rw [phase] at fits
    rw [show entry = .none from fits]
    rfl

theorem cleared {phase : Option Phase} (fits : entry.Fits phase) (number : UInt64) :
    (entry.cleared number).Fits phase := by
  unfold RoomTimers.cleared
  split
  · rename_i recorded
    match phase with
    | some .waiting => exact ⟨fits.1, rfl⟩
    | some .inProgress => exact fits
    | some .finished | .none =>
      rw [show entry = .none from fits]
      rfl
  · exact fits

theorem followed (sequel : room.Sequel supply move play) (armed : Armed)
    (undisturbed : room.Undisturbed move → entry.Fits (some room.phase))
    (stopped : (room.phase = .waiting → move = .start) → entry.countdown = .none) :
    (play.outcome.followed entry armed).Fits (some play.room.phase) := by
  cases sequel with
  | same goesOn phase _ _ ticketless unreported =>
    rw [Outcome.followed_of_unreported _ _ unreported ticketless, phase]
    exact undisturbed goesOn
  | ended began finished _ reported =>
    rw [Outcome.followed_of_reported _ _ reported, finished]
    change (⟨entry.countdown, .none⟩ : RoomTimers) = .none
    rw [stopped began]
    rfl
  | turn ticket began _ running =>
    rw [Room.running_of_runningTicket? running]
    change (play.outcome.followed entry armed).countdown = .none
    rw [Outcome.countdown_followed]
    exact stopped began

/-- A move other than the start of the game leaves a countdown alone. -/
theorem followed_of_other (fits : entry.Fits (some room.phase))
    (sequel : room.Sequel supply move play) (other : move ≠ .start) (armed : Armed) :
    (play.outcome.followed entry armed).Fits (some play.room.phase) := by
  apply followed sequel armed (fun _ => fits)
  intro began
  apply fits.countdown_eq_none
  intro waiting
  exact other (began waiting)

theorem followed_of_start (fits : entry.Fits (some room.phase))
    (sequel : room.Sequel supply .start play) (armed : Armed) :
    (play.outcome.followed { entry with countdown := .none } armed).Fits
      (some play.room.phase) := by
  refine followed sequel armed ?_ (fun _ => rfl)
  intro begun
  rw [← fits.countdown_eq_none begun]
  exact fits

end RoomTimers.Fits

namespace Room

variable {room : Room}

theorem addPlayer_phase (room : Room) (player : PlayerId) (lives : UInt32) :
    (room.addPlayer player lives).1.phase = room.phase := by
  unfold addPlayer
  split
  · split
    · rfl
    · rfl
  · rfl

theorem Rostered.mem_addPlayer (rostered : room.Rostered) (player : PlayerId) (lives : UInt32) :
    player ∈ (room.addPlayer player lives).1.players := by
  unfold addPlayer
  cases listed : room.lives.get? player with
  | none => exact List.mem_append_right _ List.mem_cons_self
  | some held =>
    have member : player ∈ room.players := by
      rw [← rostered.lives]
      unfold Table.contains
      rw [listed]
      rfl
    dsimp only
    split
    · exact member
    · exact member

end Room

namespace Site

/-- The store, the registry and the timers agree on a room. -/
structure Agrees (site : Site) : Prop where
  occupied : site.room.isSome = true ↔ 0 < site.members.size
  rostered : ∀ room, site.room = some room → room.Rostered
  listed : ∀ room, site.room = some room →
    ∀ player, site.members.contains player = true → player ∈ room.players
  timed : site.timers.Fits (site.room.map Room.phase)

variable {rules : Rules} {capacity : Nat} {site later : Site}

theorem Agrees.no_members (agrees : site.Agrees) (absent : site.room = none) (player : PlayerId) :
    site.members.contains player = false := by
  cases present : site.members.contains player with
  | false => rfl
  | true =>
    have occupied := agrees.occupied.mpr ((Table.size_pos_iff _).mpr ⟨player, present⟩)
    rw [absent] at occupied
    cases occupied

theorem Agrees.timers_of_absent (agrees : site.Agrees) (absent : site.room = none) :
    site.timers = .none := by
  have timed := agrees.timed
  rw [absent] at timed
  exact timed

theorem Agrees.timed_of_present {room : Room} (agrees : site.Agrees)
    (present : site.room = some room) : site.timers.Fits (some room.phase) := by
  have timed := agrees.timed
  rw [present] at timed
  exact timed

/-- A move in a room, after which everybody connected was so before or is on the roster now. -/
theorem Agrees.played {room : Room} (agrees : site.Agrees) (present : site.room = some room)
    (rules : Rules) (supply : Supply) (move : Move) {members : Table PlayerId Connection} {entry : RoomTimers}
    (others : 0 < members.size)
    (listed : ∀ player, members.contains player = true → site.members.contains player = true ∨
      player ∈ (room.perform rules supply move).room.players)
    (timed : entry.Fits (some (room.perform rules supply move).room.phase)) :
    Agrees ⟨some (room.perform rules supply move).room, members, entry⟩ := by
  refine ⟨iff_of_true rfl others, ?_, ?_, timed⟩
  · intro after same
    cases same
    exact Room.perform_rostered rules supply move (agrees.rostered room present)
  · intro after same player member
    cases same
    rcases listed player member with before | now
    · have was := agrees.listed room present player before
      exact (room.players_prefix_perform rules supply move).subset was
    · exact now

/-- A move of those who are connected. -/
theorem Agrees.moved {room : Room} (agrees : site.Agrees) (present : site.room = some room)
    (rules : Rules) (supply : Supply) (move : Move) {entry : RoomTimers}
    (timed : entry.Fits (some (room.perform rules supply move).room.phase)) :
    Agrees ⟨some (room.perform rules supply move).room, site.members, entry⟩ := by
  have others : 0 < site.members.size := by
    rw [← agrees.occupied, present]
    rfl
  exact agrees.played present rules supply move others (fun _ member => .inl member) timed

theorem Step.agrees (step : site.Step rules capacity later) (agrees : site.Agrees) :
    later.Agrees := by
  cases step with
  | away => exact agrees
  | founded connection id epoch armed absent =>
    refine ⟨iff_of_true rfl (Table.size_insert_pos _ _ _), ?_, ?_, ?_⟩
    · intro room same
      cases same
      exact Room.new_rostered id epoch connection.identity.id rules.config.initialLives
    · intro room same player member
      cases same
      rcases (Table.contains_insert _ _ _ _).mp member with founder | before
      · rw [founder]
        exact List.mem_cons_self
      · rw [agrees.no_members absent player] at before
        cases before
    · rw [agrees.timers_of_absent absent]
      exact ⟨rfl, rfl⟩
  | entered connection found present =>
    let lives := rules.config.initialLives
    refine agrees.played present rules ⟨0, fun _ => ""⟩ (.add connection.identity.id lives)
      (Table.size_insert_pos _ _ _) ?_ ?_
    · intro player member
      rcases (Table.contains_insert _ _ _ _).mp member with newcomer | before
      · rw [newcomer]
        exact .inr ((agrees.rostered found present).mem_addPlayer connection.identity.id lives)
      · exact .inl before
    · change site.timers.Fits (some (found.addPlayer connection.identity.id lives).1.phase)
      rw [Room.addPlayer_phase]
      exact agrees.timed_of_present present
  | emptied player last =>
    refine ⟨iff_of_false Bool.false_ne_true (Nat.not_lt_of_le (Nat.le_of_eq last)), ?_, ?_, rfl⟩
    · intro room same
      cases same
    · intro room same
      cases same
  | parted player found supply armed present others =>
    have sequel := found.perform_sequel rules supply (.remove player)
    have timed := agrees.timed_of_present present
    refine agrees.played present rules supply (.remove player) others ?_
      (timed.followed_of_other sequel (fun other => nomatch other) armed)
    intro other member
    exact .inl ((Table.contains_erase _ _ _).mp member).2
  | strayed player absent others =>
    have occupied := Nat.lt_of_lt_of_le others (site.members.size_erase_le player)
    rw [← agrees.occupied, absent] at occupied
    cases occupied
  | answered player text found supply armed present =>
    have sequel := found.perform_sequel rules supply (.answer player text)
    have timed := agrees.timed_of_present present
    exact agrees.moved present rules supply (.answer player text)
      (timed.followed_of_other sequel (fun other => nomatch other) armed)
  | started found supply armed present =>
    have sequel := found.perform_sequel rules supply .start
    have timed := agrees.timed_of_present present
    exact agrees.moved present rules supply .start (timed.followed_of_start sequel armed)
  | expired ticket found supply armed present =>
    have sequel := found.perform_sequel rules supply (.expire ticket)
    have timed := (agrees.timed_of_present present).cleared ticket.number
    exact agrees.moved present rules supply (.expire ticket)
      (timed.followed_of_other sequel (fun other => nomatch other) armed)
  | outlived number absent =>
    refine ⟨agrees.occupied, agrees.rostered, agrees.listed, ?_⟩
    exact agrees.timed.cleared number

theorem nobody_agrees : Agrees ⟨none, .empty, .none⟩ := by
  refine ⟨iff_of_false Bool.false_ne_true (Nat.lt_irrefl 0), ?_, ?_, rfl⟩
  · intro room same
    cases same
  · intro room same
    cases same

end Site

theorem Outcome.follow_tidy (outcome : Outcome) (room : RoomId) {timers : Timers Callback}
    (tidy : timers.Tidy) : (outcome.follow room timers).Tidy := by
  unfold follow
  split
  · exact tidy.stopTurn room
  · split
    · exact tidy.scheduleTurn room _ _ _
    · exact tidy

namespace Server

theorem Step.tidy {rules : Rules} {fragment : Nat → String} {server later : Server}
    {occurrence : Occurrence} (step : server.Step rules fragment occurrence later)
    (tidy : server.timers.Tidy) : later.timers.Tidy := by
  cases step with
  | idle _ _ _ recorded => exact tidy.of_recorded recorded
  | founded => exact tidy.startCountdown _ _ _
  | entered | strayed => exact tidy
  | emptied => exact tidy.cancelRoom _
  | parted | answered => exact Outcome.follow_tidy _ _ tidy
  | started => exact Outcome.follow_tidy _ _ (tidy.clearCountdown _)
  | expired => exact Outcome.follow_tidy _ _ (tidy.clearTurn _ _)
  | outlived => exact tidy.clearTurn _ _

end Server

namespace Chronicle

theorem run_agrees (rules : Rules) (occurrences : List (Occurrence × (Nat → String)))
    (id : RoomId) :
    (((begin (.initial rules.config)).run rules occurrences).server.site id).Agrees := by
  refine run_preserves_server rules (fun server => (server.site id).Agrees) ?_ _ _ ?_
  · intro server later fragment occurrence step agrees
    exact (step.site id).agrees agrees
  · exact Site.nobody_agrees

theorem run_tidy (rules : Rules) (occurrences : List (Occurrence × (Nat → String))) :
    ((begin (.initial rules.config)).run rules occurrences).server.timers.Tidy := by
  refine run_preserves_server rules (fun server => server.timers.Tidy) ?_ _ _ ?_
  · intro server later fragment occurrence step tidy
    exact step.tidy tidy
  · exact Timers.initial_tidy

/-- Until more turns were started than have numbers, the counter knows how many there were, and
every running turn has its timer. -/
theorem run_settled (rules : Rules) (occurrences : List (Occurrence × (Nat → String))) :
    let chronicle := (begin (.initial rules.config)).run rules occurrences
    chronicle.started < UInt64.size →
      chronicle.server.turns.toNat = chronicle.started ∧ ∀ id, chronicle.server.Settled id := by
  refine run_preserves rules (fun chronicle => chronicle.started < UInt64.size →
    chronicle.server.turns.toNat = chronicle.started ∧ ∀ id, chronicle.server.Settled id) ?_ _ _ ?_
  · intro chronicle fragment occurrence holds
    have step := chronicle.server.undergo_step rules fragment occurrence
    unfold Chronicle.step
    dsimp only
    generalize (chronicle.server.undergo rules fragment occurrence).server = later at *
    intro small
    obtain ⟨counted, settled⟩ := holds (by omega)
    by_cases same : later.turns = chronicle.server.turns
    · rw [if_pos same]
      refine ⟨?_, step.settled (.inl same) settled⟩
      rw [same, counted]
      rfl
    · rw [if_neg same] at small ⊢
      have next := step.turns.resolve_left same
      have number : later.turns.toNat = chronicle.server.turns.toNat + 1 := by
        rw [next, UInt64.toNat_add, counted]
        exact Nat.mod_eq_of_lt small
      refine ⟨?_, step.settled (.inr number) settled⟩
      rw [number, counted]
  · intro _
    exact ⟨rfl, Server.initial_settled rules.config⟩

/-- The store, the registry and the timers agree on every room, whatever happens and in whatever
order. Only when the counter of turns has come round, after `2 ^ 64` turns, may a new turn look older
than the one before it, and get no timer. -/
theorem tables_agree (rules : Rules) (occurrences : List (Occurrence × (Nat → String)))
    (id : RoomId) :
    let chronicle := (begin (.initial rules.config)).run rules occurrences
    let server := chronicle.server
    let entry := server.timers.entry id
    ((server.store.get? id).isSome = true ↔ 0 < server.registry.count id) ∧
      (∀ room, server.store.get? id = some room →
        (∀ player, server.registry.contains id player = true → player ∈ room.players) ∧
          (room.phase = .waiting → entry.countdown.isSome = true ∧ entry.turn = none) ∧
          (room.phase = .inProgress → entry.countdown = none ∧
            (chronicle.started < UInt64.size →
              entry.turn.map TurnTimer.number = some room.turnNumber)) ∧
          (room.phase = .finished → entry = .none ∧ server.timers.hasTimers id = false)) ∧
      (server.store.get? id = none → entry = .none ∧ server.timers.hasTimers id = false) := by
  intro chronicle server entry
  have agrees := run_agrees rules occurrences id
  have settled := run_settled rules occurrences
  have untimed : entry = .none → entry = .none ∧ server.timers.hasTimers id = false := by
    intro nothing
    have tidy := run_tidy rules occurrences
    exact ⟨nothing, tidy.hasTimers_eq_false nothing⟩
  refine ⟨agrees.occupied, ?_, fun absent => untimed (agrees.timers_of_absent absent)⟩
  intro room present
  have timed : entry.Fits (some room.phase) := agrees.timed_of_present present
  refine ⟨agrees.listed room present, ?_, ?_, ?_⟩
  · intro waiting
    rw [waiting] at timed
    exact timed
  · intro running
    rw [running] at timed
    refine ⟨timed, ?_⟩
    intro small
    exact ((settled small).2 id).watched room present running
  · intro finished
    rw [finished] at timed
    exact untimed timed

/-- Two players: the timer of the first turn rings, but before anything is done about it the turn is
answered. -/
theorem tables_agree_between_two :
    let rules : Rules := ⟨{}, ⟨fun _ => true, fun _ _ => true⟩⟩
    let one : Connection := ⟨1, ⟨10, "one", false⟩⟩
    let two : Connection := ⟨2, ⟨20, "two", false⟩⟩
    let moves : List Occurrence :=
      [.join one 7 none, .join two 7 none, .wait 120000, .ring, .call 0, .wait 140000, .ring,
        .answer 7 10 "other", .call 0]
    let occurrences := moves.map fun move => (move, fun _ => "the")
    let chronicle := (begin (.initial rules.config)).run rules occurrences
    chronicle.started < UInt64.size ∧ ∃ room, chronicle.server.store.get? 7 = some room ∧
      room.phase = .inProgress ∧
      (chronicle.server.timers.entry 7).turn.map TurnTimer.number = some room.turnNumber := by
  intro rules one two moves occurrences chronicle
  have small : chronicle.started < UInt64.size := by decide +kernel
  have running : (chronicle.server.store.get? 7).map Room.phase = some .inProgress := by
    decide +kernel
  obtain ⟨room, present, phase⟩ := Option.map_eq_some_iff.mp running
  have agrees := And.right (tables_agree rules occurrences 7)
  have timed := And.right (And.left agrees room present)
  exact ⟨small, room, present, phase, (timed.2.1 phase).2 small⟩

end Chronicle

end WordGame
