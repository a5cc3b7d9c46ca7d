import Mathlib.Order.WellFounded
import WordGame.Proofs.Server.MirrorTimers

/-!
Servers that show the same of a room, under different names. Whatever happens in the room on both of
them, they go on doing so, and the members of the room are told the same.
-/

namespace WordGame

namespace Registry

variable {one other : Registry} {id : RoomId}

theorem broadcast_congr (members : one.members id = other.members id) (message : ServerMessage) :
    one.broadcast id message = other.broadcast id message := by
  unfold broadcast
  rw [members]

/-- Whether a connection is let into a room, and in whose place, hangs on that room alone. -/
theorem register_congr (members : one.members id = other.members id)
    (capacity : one.capacity = other.capacity) (connection : Connection) :
    (∃ full, one.register id connection = .error full ∧
        other.register id connection = .error full) ∨
      ∃ registration first second, one.register id connection = .ok (registration, first) ∧
        other.register id connection = .ok (registration, second) ∧
        first.members id = second.members id ∧ first.capacity = second.capacity := by
  have listed : (one.list id ((other.members id).insert connection.identity.id connection)).members
        id =
      (other.list id ((other.members id).insert connection.identity.id connection)).members id := by
    rw [members_list, members_list, if_pos rfl, if_pos rfl]
  unfold register
  dsimp only
  rw [members, capacity]
  cases (other.members id).get? connection.identity.id with
  | some previous => exact .inr ⟨_, _, _, rfl, rfl, listed, capacity⟩
  | none =>
    dsimp only
    split
    · exact .inl ⟨_, rfl, rfl⟩
    · exact .inr ⟨_, _, _, rfl, rfl, listed, capacity⟩

theorem unregister_congr (members : one.members id = other.members id)
    (capacity : one.capacity = other.capacity) (player : PlayerId) (holder : ConnectionId) :
    (one.unregister id player holder = none ∧ other.unregister id player holder = none) ∨
      ∃ left first second, one.unregister id player holder = some (left, first) ∧
        other.unregister id player holder = some (left, second) ∧
        first.members id = second.members id ∧ first.capacity = second.capacity := by
  unfold unregister
  dsimp only
  rw [members]
  split
  · refine .inr ⟨_, _, _, rfl, rfl, ?_, capacity⟩
    rw [members_list, members_list, if_pos rfl, if_pos rfl]
  · exact .inl ⟨rfl, rfl⟩

end Registry

namespace Server

/-- What one server shows of a room is what another shows of it, under new names, and the names that
they give next go together. -/
structure Mirrors (names : Names) (id : RoomId) (since : Epoch) (one other : Server) : Prop where
  room : one.store.get? id = (other.store.get? id).map (Room.rename names)
  members : one.registry.members id = other.registry.members id
  capacity : one.registry.capacity = other.registry.capacity
  timers : one.timers.Mirrors names id since other.timers
  handed : one.handed.filter (Callback.concerns id since) =
    (other.handed.filter (Callback.concerns id 0)).map (Callback.rename names)
  epochs : ∀ more, names.epoch (other.store.epochs + more) = one.store.epochs + more
  turns : ∀ more, names.number (other.turns.toNat + 1 + more) = one.turns.toNat + 1 + more

variable {names : Names} {id : RoomId} {since : Epoch} {one other : Server}

theorem Mirrors.view (mirrors : one.Mirrors names id since other) :
    one.view id since = (other.view id 0).rename names := by
  unfold Server.view View.rename Site.rename site
  dsimp only
  rw [mirrors.room, mirrors.members, mirrors.timers.entry, mirrors.timers.now,
    mirrors.timers.alarms, mirrors.handed]

theorem Mirrors.lead (mirrors : one.Mirrors names id since other) :
    names.Lead other.extent one.extent :=
  ⟨mirrors.epochs, mirrors.turns, mirrors.timers.lead⟩

theorem mirrors_of_view (view : one.view id since = (other.view id 0).rename names)
    (capacity : one.registry.capacity = other.registry.capacity)
    (lead : names.Lead other.extent one.extent) : one.Mirrors names id since other where
  room := congrArg (fun view => view.room) view
  members := congrArg (fun view => view.members) view
  capacity := capacity
  timers :=
    ⟨congrArg View.now view, congrArg (fun view => view.timers) view, congrArg View.alarms view,
      lead.alarm⟩
  handed := congrArg View.handed view
  epochs := lead.epoch
  turns := lead.number

/-! ### Numbers of turns -/

theorem Mirrors.turns_le (mirrors : one.Mirrors names id since other)
    (ascending : names.Ascending) : other.turns.toNat ≤ one.turns.toNat := by
  have up : other.turns.toNat + 1 ≤ names.number (other.turns.toNat + 1) :=
    StrictMono.le_apply ascending.number
  rw [show names.number (other.turns.toNat + 1) = one.turns.toNat + 1 from mirrors.turns 0] at up
  exact Nat.le_of_succ_le_succ up

theorem Mirrors.nextTurn (mirrors : one.Mirrors names id since other)
    (ascending : names.Ascending) : names.turn (other.turns + 1) = one.turns + 1 := by
  have next : names.number (other.turns.toNat + 1) = one.turns.toNat + 1 := mirrors.turns 0
  have below := mirrors.turns_le ascending
  have sum := UInt64.toNat_add other.turns 1
  change _ = (other.turns.toNat + 1) % 2 ^ 64 at sum
  have small := one.turns.toNat_lt
  apply UInt64.toNat_inj.mp
  unfold Names.turn
  rw [sum, UInt64.toNat_ofNat', UInt64.toNat_add]
  change _ = (one.turns.toNat + 1) % 2 ^ 64
  -- If the one counter comes round so does the other, since it is not behind.
  by_cases comesRound : other.turns.toNat + 1 < 2 ^ 64
  · rw [Nat.mod_eq_of_lt comesRound, next]
  · have last : other.turns.toNat + 1 = 2 ^ 64 := by omega
    have both : one.turns.toNat + 1 = 2 ^ 64 := by omega
    rw [last, both, Nat.mod_self, ascending.zero]

theorem Mirrors.toNat_turn (mirrors : one.Mirrors names id since other)
    (ascending : names.Ascending) {number : UInt64} (given : number.toNat ≤ other.turns.toNat) :
    (names.turn number).toNat = names.number number.toNat := by
  have next : names.number (other.turns.toNat + 1) = one.turns.toNat + 1 := mirrors.turns 0
  have less := ascending.number (Nat.lt_succ_of_le given)
  rw [next] at less
  unfold Names.turn
  rw [UInt64.toNat_ofNat']
  exact Nat.mod_eq_of_lt (Nat.lt_of_lt_of_le less one.turns.toNat_lt)

theorem Mirrors.turn_eq_iff (mirrors : one.Mirrors names id since other)
    (ascending : names.Ascending) {first second : UInt64}
    (one_given : first.toNat ≤ other.turns.toNat) (other_given : second.toNat ≤ other.turns.toNat) :
    names.turn first = names.turn second ↔ first = second := by
  constructor
  · intro same
    have values := congrArg UInt64.toNat same
    rw [mirrors.toNat_turn ascending one_given, mirrors.toNat_turn ascending other_given] at values
    exact UInt64.toNat_inj.mp (ascending.number.injective values)
  · exact congrArg names.turn

theorem Mirrors.inOrder (mirrors : one.Mirrors names id since other)
    (ascending : names.Ascending) : names.InOrder other := by
  intro first second less given
  have later : second.toNat ≤ other.turns.toNat := UInt64.le_iff_toNat_le.mp given
  have earlier := UInt64.lt_iff_toNat_lt.mp less
  rw [UInt64.lt_iff_toNat_lt,
    mirrors.toNat_turn ascending (Nat.le_trans (Nat.le_of_lt earlier) later),
    mirrors.toNat_turn ascending later]
  exact ascending.number earlier

end Server

/-- Two transactions that come to the same and tell the same. -/
structure Transaction.Mirrors (names : Names) (id : RoomId) (since : Epoch)
    (one other : Transaction) : Prop where
  server : one.server.Mirrors names id since other.server
  deliveries : one.deliveries = other.deliveries

/-- Renamings for rooms that were founded at an epoch or later. -/
structure Names.Late (names : Names) (since : Epoch) : Prop extends names.Ascending where
  since : since ≤ names.epoch 0

theorem Names.Late.le_epoch {names : Names} {since : Epoch} (late : names.Late since)
    (epoch : Epoch) : since ≤ names.epoch epoch :=
  Nat.le_trans late.since (late.epoch.monotone (Nat.zero_le epoch))

namespace Server

variable {names : Names} {id : RoomId} {since : Epoch} {one other : Server} {rules : Rules}
  {fragment : Nat → String}

theorem Mirrors.registered (mirrors : one.Mirrors names id since other) {first second : Registry}
    (members : first.members id = second.members id) (capacity : first.capacity = second.capacity) :
    { one with registry := first }.Mirrors names id since { other with registry := second } :=
  ⟨mirrors.room, members, capacity, mirrors.timers, mirrors.handed, mirrors.epochs, mirrors.turns⟩

theorem Mirrors.timed (mirrors : one.Mirrors names id since other)
    {first second : Timers Callback} (timers : first.Mirrors names id since second) :
    { one with timers := first }.Mirrors names id since { other with timers := second } :=
  ⟨mirrors.room, mirrors.members, mirrors.capacity, timers, mirrors.handed, mirrors.epochs,
    mirrors.turns⟩

theorem Mirrors.stored (mirrors : one.Mirrors names id since other) {first second : RoomStore}
    (room : first.get? id = (second.get? id).map (Room.rename names))
    (epochs : ∀ more, names.epoch (second.epochs + more) = first.epochs + more) :
    { one with store := first }.Mirrors names id since { other with store := second } :=
  ⟨room, mirrors.members, mirrors.capacity, mirrors.timers, mirrors.handed, epochs, mirrors.turns⟩

theorem Mirrors.remaining (mirrors : one.Mirrors names id since other) :
    one.timers.remaining id = other.timers.remaining id := by
  unfold Timers.remaining
  rw [mirrors.timers.entry, mirrors.timers.now]
  generalize other.timers.entry id = entry
  obtain ⟨countdown, turn⟩ := entry
  cases countdown with
  | none => rfl
  | some armed => rfl

theorem Mirrors.absent (mirrors : one.Mirrors names id since other)
    (absent : other.store.get? id = none) : one.store.get? id = none := by
  rw [mirrors.room, absent]
  rfl

theorem Mirrors.present (mirrors : one.Mirrors names id since other) {found : Room}
    (present : other.store.get? id = some found) :
    one.store.get? id = some (found.rename names) := by
  rw [mirrors.room, present]
  rfl

theorem Mirrors.welcome (mirrors : one.Mirrors names id since other) (late : names.Late since)
    (rules : Rules) (connection : Connection) (registration : Registration)
    {first second : Registry} (members : first.members id = second.members id)
    (capacity : first.capacity = second.capacity) :
    (one.welcome rules connection id registration first).Mirrors names id since
      (other.welcome rules connection id registration second) := by
  have arrival : arrivalNews first connection id registration =
      arrivalNews second connection id registration := by
    cases registration with
    | added => exact Registry.broadcast_congr members _
    | replaced previous => rfl
  have registered := mirrors.registered members capacity
  unfold Server.welcome countdownNews
  rw [arrival]
  cases listed : other.store.get? id with
  | none =>
    rw [mirrors.absent listed]
    dsimp only
    have next : names.epoch other.store.epochs = one.store.epochs := mirrors.epochs 0
    have started := mirrors.timers.startCountdown late.alarm rules.config.countdown
      (late.le_epoch other.store.epochs)
    rw [next] at started
    refine ⟨(registered.timed started).stored ?_ ?_, ?_⟩
    · rw [RoomStore.get?_create, RoomStore.get?_create, if_pos rfl, if_pos rfl, ← next]
      have unplayed : names.turn 0 = 0 := congrArg UInt64.ofNat late.zero
      change _ = some { Room.new id other.store.epochs connection.identity.id
          rules.config.initialLives with
        epoch := names.epoch other.store.epochs
        turnNumber := names.turn 0 }
      rw [unplayed]
      rfl
    · intro more
      have given := mirrors.epochs (1 + more)
      rw [← Nat.add_assoc, ← Nat.add_assoc] at given
      exact given
    · rw [Registry.broadcast_congr members]
  | some found =>
    rw [mirrors.present listed]
    dsimp only
    refine ⟨registered.stored ?_ mirrors.epochs, ?_⟩
    · rw [RoomStore.get?_put, RoomStore.get?_put, if_pos rfl, if_pos rfl, Room.addPlayer_rename]
      rfl
    · unfold remainingNews
      rw [mirrors.remaining]

theorem Mirrors.removed (mirrors : one.Mirrors names id since other) (late : names.Late since)
    {first second : Registry} (members : first.members id = second.members id)
    (capacity : first.capacity = second.capacity) :
    { one with
      registry := first
      store := one.store.remove id
      timers := one.timers.cancelRoom id }.Mirrors names id since
      { other with
        registry := second
        store := other.store.remove id
        timers := other.timers.cancelRoom id } := by
  have cancelled := mirrors.timers.cancelRoom late.alarm
  refine ((mirrors.registered members capacity).timed cancelled).stored ?_ mirrors.epochs
  rw [RoomStore.get?_remove, RoomStore.get?_remove, if_pos rfl, if_pos rfl]
  rfl

/-- A play in the room, in which a turn is started with the next number, if there is one. -/
theorem Mirrors.played (mirrors : one.Mirrors names id since other) (late : names.Late since)
    {play : Play} (first : one.Numbered id) (second : other.Numbered id)
    (issued : ∀ ticket, play.outcome.turn = some ticket → ticket.number = other.turns + 1)
    (counts : ∀ ticket, play.outcome.turn = some ticket →
      (one.turns + 1).toNat = one.turns.toNat + 1) :
    { one with
      store := one.store.put id (play.room.rename names)
      turns := (play.outcome.rename names).turnsAfter one.turns
      timers := (play.outcome.rename names).follow id one.timers }.Mirrors names id since
      { other with
        store := other.store.put id play.room
        turns := play.outcome.turnsAfter other.turns
        timers := play.outcome.follow id other.timers } := by
  have below := mirrors.turns_le late.toAscending
  have next := mirrors.nextTurn late.toAscending
  have counted : ∀ ticket, play.outcome.turn = some ticket →
      (other.turns + 1).toNat = other.turns.toNat + 1 := by
    intro ticket started
    have small := (one.turns + 1).toNat_lt
    rw [counts ticket started] at small
    rw [UInt64.toNat_add]
    exact Nat.mod_eq_of_lt (Nat.lt_of_le_of_lt (Nat.succ_le_succ below) small)
  have stored : (one.store.put id (play.room.rename names)).get? id =
      ((other.store.put id play.room).get? id).map (Room.rename names) := by
    rw [RoomStore.get?_put, RoomStore.get?_put, if_pos rfl, if_pos rfl]
    rfl
  have timers : ((play.outcome.rename names).follow id one.timers).Mirrors names id since
      (play.outcome.follow id other.timers) := by
    refine Outcome.follow_mirrors mirrors.timers late.alarm play.outcome ?_
    intro ticket started
    rw [issued ticket started, next]
    refine ⟨?_, ?_, late.le_epoch ticket.epoch⟩
    · apply RoomTimers.isOutdated_eq_false
      intro timer recorded
      rw [counts ticket started]
      exact Nat.lt_succ_of_le (first.recorded timer recorded)
    · apply RoomTimers.isOutdated_eq_false
      intro timer recorded
      rw [counted ticket started]
      exact Nat.lt_succ_of_le (second.recorded timer recorded)
  refine ⟨stored, mirrors.members, mirrors.capacity, timers, mirrors.handed, mirrors.epochs, ?_⟩
  intro more
  unfold Outcome.turnsAfter Outcome.rename
  cases started : play.outcome.turn with
  | none => exact mirrors.turns more
  | some ticket =>
    change names.number (ticket.number.toNat + 1 + more) =
      (names.turn ticket.number).toNat + 1 + more
    rw [issued ticket started, next, counts ticket started, counted ticket started,
      Nat.add_assoc (other.turns.toNat + 1) 1 more, Nat.add_assoc (one.turns.toNat + 1) 1 more]
    exact mirrors.turns (1 + more)

/-- A move in the room has the same effect on both servers. -/
theorem Mirrors.makeMove (mirrors : one.Mirrors names id since other) (late : names.Late since)
    (rules : Rules) (fragment : Nat → String) (move : Move) (news : List Delivery)
    (distinguishes : ∀ found, other.store.get? id = some found → found.Distinguishes names move)
    (first : one.Numbered id) (second : other.Numbered id)
    (counts : one.Counts (one.makeMove rules fragment id (move.rename names) news).server) :
    (one.makeMove rules fragment id (move.rename names) news).Mirrors names id since
      (other.makeMove rules fragment id move news) := by
  cases listed : other.store.get? id with
  | none =>
    rw [makeMove_of_absent listed, makeMove_of_absent (mirrors.absent listed)]
    exact ⟨mirrors, rfl⟩
  | some found =>
    have next := mirrors.nextTurn late.toAscending
    have renamed := found.perform_rename names rules ⟨other.turns + 1, fragment⟩ move
      (distinguishes found listed)
    have supply : Supply.rename names ⟨other.turns + 1, fragment⟩ = ⟨one.turns + 1, fragment⟩ :=
      congrArg (fun number => (⟨number, fragment⟩ : Supply)) next
    have issued : ∀ ticket,
        (found.perform rules ⟨other.turns + 1, fragment⟩ move).outcome.turn = some ticket →
          ticket.number = other.turns + 1 :=
      fun ticket started => (running_of_issued started).2
    rw [supply] at renamed
    rw [makeMove_of_present (mirrors.present listed)] at counts ⊢
    rw [makeMove_of_present listed]
    unfold Server.played at *
    rw [renamed] at counts ⊢
    generalize found.perform rules ⟨other.turns + 1, fragment⟩ move = play at *
    refine ⟨mirrors.played late first second issued ?_, ?_⟩
    · intro ticket started
      have renumbered : (play.rename names).outcome.turn = some (ticket.rename names) :=
        congrArg (Option.map (Ticket.rename names)) started
      have number : (ticket.rename names).number = one.turns + 1 := by
        change names.turn ticket.number = _
        rw [issued ticket started]
        exact next
      unfold Server.Counts at counts
      dsimp only at counts
      rw [Outcome.turnsAfter_of_issued _ renumbered, number] at counts
      exact toNat_of_counts counts
    · refine congrArg (news ++ ·) (List.flatMap_congr ?_)
      exact fun message _ => Registry.broadcast_congr mirrors.members message

end Server

end WordGame
