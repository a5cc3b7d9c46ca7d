import WordGame.Proofs.Server.Numbering

/-!
The countdowns of rooms. Every room that is founded has one of its own, which comes to its end once
at most, and nothing else starts the game: as long as that end is yet to come, the room waits.
-/

namespace WordGame

namespace Room

variable {rules : Rules} {supply : Supply} {room : Room} {move : Move}

theorem waiting_perform (rules : Rules) (supply : Supply) (waiting : room.phase = .waiting)
    (other : move ≠ .start) : (room.perform rules supply move).room.phase = .waiting := by
  cases room.perform_sequel rules supply move with
  | same _ phase => exact phase.trans waiting
  | ended began | turn _ began => exact absurd (began waiting) other

end Room

theorem Outcome.count_calls_follow (outcome : Outcome) (room : RoomId) (timers : Timers Callback)
    (id : RoomId) (epoch : Epoch) :
    (outcome.follow room timers).calls.count (.start id epoch) ≤
      timers.calls.count (.start id epoch) := by
  unfold follow
  split
  · exact (timers.calls_stopTurn room).count_le _
  · split
    · rename_i ticket _
      have scheduled := (timers.calls_scheduleTurn room ticket.number ticket.duration
        (.expire room ticket)).count_le (.start id epoch)
      rw [List.count_append, List.count_singleton] at scheduled
      exact scheduled
    · exact Nat.le_refl _

namespace Server

variable {rules : Rules} {fragment : Nat → String} {server later : Server}

/-- How often the game of the room with an epoch is called to start, now or in time to come. -/
def starts (server : Server) (id : RoomId) (epoch : Epoch) : Nat :=
  server.callbacks.count (.start id epoch)

structure Counted (server : Server) : Prop where
  once : ∀ id epoch, server.starts id epoch ≤ 1
  unfounded : ∀ id epoch, server.store.epochs ≤ epoch → server.starts id epoch = 0
  founded : ∀ id room, server.store.get? id = some room → room.epoch < server.store.epochs
  begun : ∀ id room, server.store.get? id = some room → room.phase ≠ .waiting →
    server.starts id room.epoch = 0

theorem initial_counted (config : GameConfig) : (initial config).Counted where
  once _ _ := Nat.zero_le 1
  unfounded _ _ _ := rfl
  founded _ _ present := nomatch present
  begun _ _ present := nomatch present

/-- A room whose start is called for is waiting. -/
theorem Counted.waiting_of_called (counted : server.Counted) {id : RoomId} {room : Room}
    (present : server.store.get? id = some room)
    (called : .start id room.epoch ∈ server.callbacks) : room.phase = .waiting := by
  have yetToCome : 0 < server.starts id room.epoch := List.count_pos_iff.mpr called
  by_contra begun
  rw [counted.begun id room present begun] at yetToCome
  exact Nat.lt_irrefl 0 yetToCome

theorem Counted.mono (counted : server.Counted)
    (fewer : ∀ id epoch, later.starts id epoch ≤ server.starts id epoch)
    (epochs : later.store.epochs = server.store.epochs)
    (rooms : ∀ id room, later.store.get? id = some room →
      ∃ before, server.store.get? id = some before ∧ room.epoch = before.epoch ∧
        (before.phase = .waiting → room.phase ≠ .waiting → later.starts id room.epoch = 0)) :
    later.Counted := by
  constructor
  · intro id epoch
    exact Nat.le_trans (fewer id epoch) (counted.once id epoch)
  · intro id epoch bound
    rw [epochs] at bound
    exact Nat.eq_zero_of_le_zero (counted.unfounded id epoch bound ▸ fewer id epoch)
  · intro id room present
    obtain ⟨before, was, same, _⟩ := rooms id room present
    rw [epochs, same]
    exact counted.founded id before was
  · intro id room present begun
    obtain ⟨before, was, same, opens⟩ := rooms id room present
    by_cases waiting : before.phase = .waiting
    · exact opens waiting begun
    · have spent := counted.begun id before was waiting
      rw [← same] at spent
      exact Nat.eq_zero_of_le_zero (spent ▸ fewer id room.epoch)

theorem Counted.of_store (counted : server.Counted)
    (fewer : ∀ id epoch, later.starts id epoch ≤ server.starts id epoch)
    (store : later.store = server.store) : later.Counted := by
  refine counted.mono fewer (congrArg RoomStore.epochs store) ?_
  intro id room present
  rw [store] at present
  exact ⟨room, present, rfl, fun waiting begun => absurd waiting begun⟩

theorem Counted.registry (counted : server.Counted) (registry : Registry) :
    { server with registry := registry }.Counted :=
  counted.of_store (fun _ _ => Nat.le_refl _) rfl

theorem starts_played (server : Server) (rules : Rules) (fragment : Nat → String) (room : RoomId)
    (found : Room) (move : Move) (id : RoomId) (epoch : Epoch) :
    (server.played rules fragment room found move).starts id epoch ≤ server.starts id epoch := by
  have calls := (found.perform rules ⟨server.turns + 1, fragment⟩ move).outcome.count_calls_follow
    room server.timers id epoch
  unfold starts callbacks
  rw [List.count_append, List.count_append]
  exact Nat.add_le_add_right calls _

/-- A move in a room, which starts the game only when its countdown is over. -/
theorem Counted.played (counted : server.Counted) (rules : Rules) (fragment : Nat → String)
    {room : RoomId} {found : Room} (move : Move) (present : server.store.get? room = some found)
    (spent : move = .start → server.starts room found.epoch = 0) :
    (server.played rules fragment room found move).Counted := by
  have fewer := server.starts_played rules fragment room found move
  refine counted.mono fewer rfl ?_
  intro id later stored
  change (server.store.put room
    (found.perform rules ⟨server.turns + 1, fragment⟩ move).room).get? id = some later at stored
  rw [RoomStore.get?_put] at stored
  by_cases here : id = room
  · rw [if_pos here] at stored
    cases stored
    subst here
    have same := found.epoch_perform rules ⟨server.turns + 1, fragment⟩ move
    refine ⟨found, present, same, ?_⟩
    intro waiting begun
    by_cases starting : move = .start
    · rw [same]
      exact Nat.eq_zero_of_le_zero (spent starting ▸ fewer id found.epoch)
    · exact absurd (Room.waiting_perform rules _ waiting starting) begun
  · rw [if_neg here] at stored
    exact ⟨later, stored, rfl, fun waiting begun => absurd waiting begun⟩

theorem callbacks_eraseIdx_perm (server : Server) {index : Nat} {callback : Callback}
    (handed : server.handed[index]? = some callback) :
    (callback :: { server with handed := server.handed.eraseIdx index }.callbacks).Perm
      server.callbacks := by
  obtain ⟨within, same⟩ := List.getElem?_eq_some_iff.mp handed
  have taken := List.getElem_cons_eraseIdx_perm within
  rw [same] at taken
  exact List.perm_middle.symm.trans (taken.append_left server.timers.calls)

theorem starts_eraseIdx (server : Server) (index : Nat) (id : RoomId) (epoch : Epoch) :
    { server with handed := server.handed.eraseIdx index }.starts id epoch ≤
      server.starts id epoch :=
  (server.callbacks_eraseIdx index).count_le _

theorem starts_startCountdown (server : Server) (store : RoomStore) (registry : Registry)
    (room : RoomId) (span : Millis) (new : Epoch) (id : RoomId) (epoch : Epoch) :
    { server with
      registry := registry
      store := store
      timers := server.timers.startCountdown room span (.start room new) }.starts id epoch ≤
      server.starts id epoch + if epoch = new then 1 else 0 := by
  have armed := (server.timers.calls_startCountdown room span (.start room new)).count_le
    (Callback.start id epoch)
  have once : [Callback.start room new].count (.start id epoch) ≤ if epoch = new then 1 else 0 := by
    rw [List.count_singleton]
    split
    · rename_i same
      cases eq_of_beq same
      exact Nat.le_of_eq (if_pos rfl).symm
    · exact Nat.zero_le _
  unfold starts callbacks
  dsimp only
  rw [List.count_append] at armed
  rw [List.count_append, List.count_append]
  omega

/-- A room that waits is founded, with an epoch that none had before, and its countdown begins. -/
theorem Counted.founded_room (counted : server.Counted)
    (starts : ∀ id epoch, later.starts id epoch ≤
      server.starts id epoch + if epoch = server.store.epochs then 1 else 0)
    (epochs : later.store.epochs = server.store.epochs + 1)
    (rooms : ∀ id room, later.store.get? id = some room → server.store.get? id = some room ∨
      room.epoch = server.store.epochs ∧ room.phase = .waiting) : later.Counted := by
  have older : ∀ id epoch, epoch ≠ server.store.epochs →
      later.starts id epoch ≤ server.starts id epoch := by
    intro id epoch other
    have bound := starts id epoch
    rw [if_neg other] at bound
    exact bound
  constructor
  · intro id epoch
    by_cases new : epoch = server.store.epochs
    · have bound := starts id epoch
      have none := counted.unfounded id epoch (Nat.le_of_eq new.symm)
      rw [if_pos new, none] at bound
      exact bound
    · exact Nat.le_trans (older id epoch new) (counted.once id epoch)
  · intro id epoch bound
    rw [epochs] at bound
    have fewer := older id epoch (Nat.ne_of_gt bound)
    have none := counted.unfounded id epoch (Nat.le_of_succ_le bound)
    omega
  · intro id room present
    rw [epochs]
    rcases rooms id room present with before | ⟨new, _⟩
    · exact Nat.lt_succ_of_lt (counted.founded id room before)
    · exact Nat.lt_succ_of_le (Nat.le_of_eq new)
  · intro id room present begun
    rcases rooms id room present with before | ⟨_, waiting⟩
    · have fewer := older id room.epoch (Nat.ne_of_lt (counted.founded id room before))
      have spent := counted.begun id room before begun
      omega
    · exact absurd waiting begun

theorem Counted.removed_room {room : RoomId} {registry : Registry} (counted : server.Counted) :
    { server with
      registry := registry
      store := server.store.remove room
      timers := server.timers.cancelRoom room }.Counted := by
  refine counted.mono ?_ rfl ?_
  · intro id epoch
    have cancelled := server.timers.calls_cancelRoom room
    exact (cancelled.append (List.Sublist.refl server.handed)).count_le _
  · intro id found present
    rw [RoomStore.get?_remove] at present
    split at present
    · cases present
    · exact ⟨found, present, rfl, fun waiting begun => absurd waiting begun⟩

/-- When the countdown of a room is over, it is not over again. -/
theorem Counted.handed_start {room : RoomId} {epoch : Epoch} {index : Nat}
    (counted : server.Counted) (handed : server.handed[index]? = some (.start room epoch)) :
    let later :=
      { server with
        handed := server.handed.eraseIdx index
        timers := server.timers.clearCountdown room }
    later.Counted ∧ later.starts room epoch = 0 := by
  have taken := (server.callbacks_eraseIdx_perm handed).count_eq (.start room epoch)
  rw [List.count_cons_self] at taken
  refine ⟨counted.of_store (server.starts_eraseIdx index) rfl, ?_⟩
  have once := counted.once room epoch
  unfold starts at once
  change { server with handed := server.handed.eraseIdx index }.callbacks.count _ = 0
  omega

theorem Counted.handed_expire {index : Nat} {room : RoomId} {number : UInt64}
    (counted : server.Counted) :
    { server with
      handed := server.handed.eraseIdx index
      timers := server.timers.clearTurn room number }.Counted := by
  refine counted.of_store ?_ rfl
  intro id epoch
  unfold starts callbacks
  dsimp only
  rw [Timers.calls_clearTurn]
  exact server.starts_eraseIdx index id epoch

theorem Step.counted {occurrence : Occurrence} (step : server.Step rules fragment occurrence later)
    (counted : server.Counted) : later.Counted := by
  cases step with
  | idle store _ _ _ callbacks => exact counted.of_store (fun _ _ => callbacks.count_le _) store
  | @founded connection room =>
    refine counted.founded_room (server.starts_startCountdown _ _ room _ _) rfl ?_
    intro id found present
    rw [RoomStore.get?_create] at present
    split at present
    · cases present
      exact .inr ⟨rfl, rfl⟩
    · exact .inl present
  | @entered connection _ registry _ _ present =>
    exact (counted.registry registry).played rules fragment
      (.add connection.identity.id rules.config.initialLives) present (fun other => nomatch other)
  | emptied => exact counted.removed_room
  | @parted _ _ registry _ _ _ present =>
    exact (counted.registry registry).played rules fragment _ present (fun other => nomatch other)
  | strayed => exact counted.registry _
  | answered present => exact counted.played rules fragment _ present (fun other => nomatch other)
  | started handed present =>
    obtain ⟨starting, spent⟩ := counted.handed_start handed
    exact starting.played rules fragment _ present (fun _ => spent)
  | expired _ present =>
    exact counted.handed_expire.played rules fragment _ present (fun other => nomatch other)
  | outlived => exact counted.handed_expire

end Server

namespace Chronicle

theorem run_counted (rules : Rules) (occurrences : List (Occurrence × (Nat → String))) :
    ((begin (.initial rules.config)).run rules occurrences).server.Counted :=
  run_preserves_server rules Server.Counted (fun _ _ _ _ step => step.counted) _ _
    (Server.initial_counted rules.config)

end Chronicle

end WordGame
