import WordGame.Proofs.Server.Site

/-!
The numbers of turns and the timers. As long as the counter of turns has not come round, every
number that is about is at most that of the latest turn. A new turn is therefore newer than anything
recorded for its room and gets its timer, and a timer that rang late is known by its number.
-/

namespace WordGame

theorem Outcome.mem_calls_follow {outcome : Outcome} {room : RoomId} {timers : Timers Callback}
    {callback : Callback} (member : callback ∈ (outcome.follow room timers).calls) :
    callback ∈ timers.calls ∨
      ∃ ticket, outcome.turn = some ticket ∧ callback = .expire room ticket := by
  unfold follow at member
  split at member
  · exact .inl ((timers.calls_stopTurn room).subset member)
  · cases issued : outcome.turn with
    | none =>
      rw [issued] at member
      exact .inl member
    | some ticket =>
      rw [issued] at member
      have scheduled := (timers.calls_scheduleTurn room _ _ _).subset member
      rcases List.mem_append.mp scheduled with before | new
      · exact .inl before
      · exact .inr ⟨ticket, rfl, List.mem_singleton.mp new⟩

namespace Server

/-- A timer calls, now or in time to come, for the end of the turn with this ticket. -/
def Calls (server : Server) (id : RoomId) (ticket : Ticket) : Prop :=
  .expire id ticket ∈ server.callbacks

/-- The tickets of a room that timers call for and the number that its record has. -/
structure Numbered (server : Server) (id : RoomId) : Prop where
  called : ∀ ticket, server.Calls id ticket → ticket.number.toNat ≤ server.turns.toNat
  recorded : ∀ timer, (server.timers.entry id).turn = some timer →
    timer.number.toNat ≤ server.turns.toNat
  /-- With the number of the running turn, it is the ticket of the running turn. -/
  genuine : ∀ ticket room, server.Calls id ticket → server.store.get? id = some room →
    room.phase = .inProgress → room.turnNumber = ticket.number → room.isRunning ticket = true

/-- The running turn of a room has its timer. -/
def Watched (server : Server) (id : RoomId) : Prop :=
  ∀ room, server.store.get? id = some room → room.phase = .inProgress →
    (server.timers.entry id).turn.map TurnTimer.number = some room.turnNumber

/-- What a room needs for its running turn to end in time. -/
structure Settled (server : Server) (id : RoomId) : Prop where
  numbered : server.Numbered id
  watched : server.Watched id

variable {rules : Rules} {fragment : Nat → String} {server later : Server} {id : RoomId}

theorem initial_settled (config : GameConfig) (id : RoomId) : (initial config).Settled id := by
  constructor
  · constructor
    · intro _ member
      cases member
    · intro _ recorded
      cases recorded
    · intro _ _ member
      cases member
  · intro room present
    cases present

theorem Numbered.mono (numbered : server.Numbered id)
    (calls : ∀ ticket, later.Calls id ticket → server.Calls id ticket)
    (turns : server.turns.toNat ≤ later.turns.toNat)
    (turn : ∀ timer, (later.timers.entry id).turn = some timer →
      (server.timers.entry id).turn = some timer)
    (room : later.store.get? id = server.store.get? id) : later.Numbered id where
  called ticket member := Nat.le_trans (numbered.called ticket (calls ticket member)) turns
  recorded timer recorded := Nat.le_trans (numbered.recorded timer (turn timer recorded)) turns
  genuine ticket found member present :=
    numbered.genuine ticket found (calls ticket member) (room ▸ present)

theorem Settled.mono (settled : server.Settled id)
    (calls : ∀ ticket, later.Calls id ticket → server.Calls id ticket)
    (turns : server.turns.toNat ≤ later.turns.toNat)
    (turn : (later.timers.entry id).turn = (server.timers.entry id).turn)
    (room : later.store.get? id = server.store.get? id) : later.Settled id := by
  constructor
  · exact settled.numbered.mono calls turns (fun _ recorded => turn ▸ recorded) room
  · intro found present running
    rw [turn]
    exact settled.watched found (room ▸ present) running

/-- A room whose game is not running has no use for its tickets. -/
theorem Numbered.quiet (numbered : server.Numbered id)
    (calls : ∀ ticket, later.Calls id ticket → server.Calls id ticket)
    (turns : server.turns.toNat ≤ later.turns.toNat)
    (turn : ∀ timer, (later.timers.entry id).turn = some timer →
      (server.timers.entry id).turn = some timer)
    (idle : ∀ room, later.store.get? id = some room → room.phase ≠ .inProgress) :
    later.Settled id := by
  constructor
  · constructor
    · intro ticket member
      exact Nat.le_trans (numbered.called ticket (calls ticket member)) turns
    · intro timer recorded
      exact Nat.le_trans (numbered.recorded timer (turn timer recorded)) turns
    · intro _ found _ present running
      exact absurd running (idle found present)
  · intro found present running
    exact absurd running (idle found present)

/-! ### Moves -/

theorem mem_callbacks_played {room : RoomId} {found : Room} {move : Move} {callback : Callback}
    (member : callback ∈ (server.played rules fragment room found move).callbacks) :
    callback ∈ server.callbacks ∨
      ∃ ticket, (found.perform rules ⟨server.turns + 1, fragment⟩ move).outcome.turn = some ticket ∧
        callback = .expire room ticket := by
  rcases List.mem_append.mp member with pending | handed
  · rcases Outcome.mem_calls_follow pending with before | new
    · exact .inl (List.mem_append_left _ before)
    · exact .inr new
  · exact .inl (List.mem_append_right _ handed)

theorem turns_played (server : Server) (rules : Rules) (fragment : Nat → String) (room : RoomId)
    (found : Room) (move : Move) :
    (server.played rules fragment room found move).turns = server.turns ∨
      (server.played rules fragment room found move).turns = server.turns + 1 := by
  cases found.perform_sequel rules ⟨server.turns + 1, fragment⟩ move with
  | same _ _ _ _ ticketless | ended _ _ ticketless =>
    exact .inl (Outcome.turnsAfter_of_ticketless server.turns ticketless)
  | turn ticket _ _ _ issued number =>
    exact .inr ((Outcome.turnsAfter_of_issued server.turns issued).trans number)

theorem Step.turns {occurrence : Occurrence} (step : server.Step rules fragment occurrence later) :
    later.turns = server.turns ∨ later.turns = server.turns + 1 := by
  cases step with
  | idle _ _ turns => exact .inl turns
  | founded | entered | emptied | strayed | outlived => exact .inl rfl
  | parted | answered | started | expired => exact turns_played _ _ _ _ _ _

/-- The counter of turns did not come round. -/
def Counts (server later : Server) : Prop :=
  later.turns = server.turns ∨ later.turns.toNat = server.turns.toNat + 1

theorem Counts.le (counts : server.Counts later) : server.turns.toNat ≤ later.turns.toNat := by
  rcases counts with same | next
  · exact Nat.le_of_eq (congrArg UInt64.toNat same.symm)
  · omega

theorem toNat_of_counts {number : UInt64}
    (counts : number + 1 = number ∨ (number + 1).toNat = number.toNat + 1) :
    (number + 1).toNat = number.toNat + 1 := by
  rcases counts with same | next
  · have sum := UInt64.toNat_add number 1
    have small := number.toNat_lt
    rw [same] at sum
    change number.toNat = (number.toNat + 1) % 2 ^ 64 at sum
    omega
  · exact next

theorem settled_played_of_ne (server : Server) {room : RoomId} {found : Room} {move : Move}
    (other : id ≠ room)
    (counts : server.Counts (server.played rules fragment room found move))
    (settled : server.Settled id) :
    (server.played rules fragment room found move).Settled id := by
  have site := server.site_played_of_ne rules fragment found move other
  have turn := congrArg (fun site => site.timers.turn) site
  refine settled.mono ?_ counts.le turn (congrArg Site.room site)
  intro ticket member
  rcases mem_callbacks_played member with before | ⟨_, _, new⟩
  · exact before
  · cases new
    exact absurd rfl other

/-- What a play in a room makes of the server, seen from that room. -/
structure Follows (server : Server) (room : RoomId) (play : Play) (later : Server) : Prop where
  stored : later.store.get? room = some play.room
  entry : ∃ armed, later.timers.entry room =
    play.outcome.followed (server.timers.entry room) armed
  turns : later.turns = play.outcome.turnsAfter server.turns
  calls : ∀ ticket, later.Calls room ticket →
    server.Calls room ticket ∨ play.outcome.turn = some ticket

namespace Follows

variable {room : RoomId} {found : Room} {move : Move} {play : Play}

theorem calls_of_ticketless (follows : server.Follows room play later)
    (ticketless : play.outcome.turn = none) (ticket : Ticket) (called : later.Calls room ticket) :
    server.Calls room ticket := by
  rcases follows.calls ticket called with before | issued
  · exact before
  · rw [ticketless] at issued
    cases issued

theorem same_settled (follows : server.Follows room play later) (counts : server.Counts later)
    (present : server.store.get? room = some found) (settled : server.Settled room)
    (phase : play.room.phase = found.phase) (number : play.room.turnNumber = found.turnNumber)
    (running : ∀ ticket, found.runningTicket? = some ticket →
      play.room.runningTicket? = some ticket)
    (ticketless : play.outcome.turn = none) (unreported : play.outcome.gameOver = false) :
    later.Settled room := by
  obtain ⟨armed, entry⟩ := follows.entry
  rw [Outcome.followed_of_unreported _ _ unreported ticketless] at entry
  have calls := follows.calls_of_ticketless ticketless
  refine ⟨⟨?_, ?_, ?_⟩, ?_⟩
  · intro ticket called
    exact Nat.le_trans (settled.numbered.called ticket (calls ticket called)) counts.le
  · intro timer recorded
    rw [entry] at recorded
    exact Nat.le_trans (settled.numbered.recorded timer recorded) counts.le
  · intro ticket after called held inProgress latest
    cases follows.stored.symm.trans held
    rw [phase] at inProgress
    rw [number] at latest
    have genuine :=
      settled.numbered.genuine ticket found (calls ticket called) present inProgress latest
    exact Room.isRunning_of_same running genuine
  · intro after held inProgress
    cases follows.stored.symm.trans held
    rw [phase] at inProgress
    rw [entry, number]
    exact settled.watched found present inProgress

theorem ended_settled (follows : server.Follows room play later) (counts : server.Counts later)
    (numbered : server.Numbered room) (finished : play.room.phase = .finished)
    (ticketless : play.outcome.turn = none) (reported : play.outcome.gameOver = true) :
    later.Settled room := by
  obtain ⟨armed, entry⟩ := follows.entry
  rw [Outcome.followed_of_reported _ _ reported] at entry
  refine numbered.quiet (follows.calls_of_ticketless ticketless) counts.le ?_ ?_
  · intro timer recorded
    rw [entry] at recorded
    cases recorded
  · intro after held inProgress
    cases follows.stored.symm.trans held
    rw [finished] at inProgress
    cases inProgress

/-- A new turn is newer than everything that is recorded or called for, and gets its timer. -/
theorem turn_settled (follows : server.Follows room play later) (counts : server.Counts later)
    (numbered : server.Numbered room) {ticket : Ticket}
    (running : play.room.runningTicket? = some ticket)
    (issued : play.outcome.turn = some ticket) (number : ticket.number = server.turns + 1)
    (unreported : play.outcome.gameOver = false) : later.Settled room := by
  have turns := follows.turns
  rw [Outcome.turnsAfter_of_issued _ issued] at turns
  have next : ticket.number.toNat = server.turns.toNat + 1 := by
    unfold Counts at counts
    rw [turns, number] at counts
    rw [number]
    exact toNat_of_counts counts
  have newer : (server.timers.entry room).isOutdated ticket.number = false := by
    apply RoomTimers.isOutdated_eq_false
    intro timer recorded
    have bound := numbered.recorded timer recorded
    omega
  have latest := Room.turnNumber_of_runningTicket? running
  obtain ⟨armed, entry⟩ := follows.entry
  rw [Outcome.followed_of_issued armed unreported issued newer] at entry
  refine ⟨⟨?_, ?_, ?_⟩, ?_⟩
  · intro other called
    rw [turns]
    rcases follows.calls other called with before | again
    · have bound := numbered.called other before
      omega
    · cases issued.symm.trans again
      exact Nat.le_refl _
  · intro timer recorded
    rw [entry] at recorded
    cases recorded
    exact Nat.le_of_eq (congrArg UInt64.toNat turns.symm)
  · intro other after called held _ same
    cases follows.stored.symm.trans held
    rw [latest] at same
    rcases follows.calls other called with before | again
    · have bound := numbered.called other before
      rw [← same] at bound
      omega
    · cases issued.symm.trans again
      exact ((play.room.runningTicket?_eq_some_iff _).mp running).1
  · intro after held _
    cases follows.stored.symm.trans held
    rw [entry, latest]
    rfl

end Follows

theorem played_follows (server : Server) (rules : Rules) (fragment : Nat → String) (room : RoomId)
    (found : Room) (move : Move) :
    server.Follows room (found.perform rules ⟨server.turns + 1, fragment⟩ move)
      (server.played rules fragment room found move) := by
  obtain ⟨armed, site⟩ := server.site_played rules fragment room found move
  refine ⟨congrArg Site.room site, ⟨armed, congrArg Site.timers site⟩, rfl, ?_⟩
  intro ticket called
  rcases mem_callbacks_played called with before | ⟨_, issued, same⟩
  · exact .inl before
  · cases same
    exact .inr issued

/-- A move in a room whose running turn is watched, unless the move ends that turn. -/
theorem settled_played (server : Server) (rules : Rules) (fragment : Nat → String) {room : RoomId}
    {found : Room} (move : Move)
    (counts : server.Counts (server.played rules fragment room found move))
    (present : server.store.get? room = some found) (numbered : server.Numbered id)
    (watched : id ≠ room ∨ found.Undisturbed move → server.Watched id) :
    (server.played rules fragment room found move).Settled id := by
  by_cases here : id = room
  · subst here
    have follows := server.played_follows rules fragment id found move
    cases found.perform_sequel rules ⟨server.turns + 1, fragment⟩ move with
    | same undisturbed phase number running ticketless unreported =>
      have settled : server.Settled id := ⟨numbered, watched (.inr undisturbed)⟩
      exact follows.same_settled counts present settled phase number running ticketless unreported
    | ended _ finished ticketless reported =>
      exact follows.ended_settled counts numbered finished ticketless reported
    | turn ticket _ _ running issued number unreported =>
      exact follows.turn_settled counts numbered running issued number unreported
  · exact server.settled_played_of_ne here counts ⟨numbered, watched (.inl here)⟩

/-! ### Steps -/

theorem settled_registry (registry : Registry) (settled : server.Settled id) :
    { server with registry := registry }.Settled id :=
  settled.mono (fun _ member => member) (Nat.le_refl _) rfl rfl

theorem founded_settled {connection : Connection} {room : RoomId} {registry : Registry}
    (settled : server.Settled id) :
    { server with
      registry := registry
      store := (server.store.create room connection.identity.id rules.config.initialLives).2
      timers := server.timers.startCountdown room rules.config.countdown
        (.start room server.store.epochs) }.Settled id := by
  have calls : ∀ ticket, .expire id ticket ∈ (server.timers.startCountdown room
      rules.config.countdown (.start room server.store.epochs)).calls ++ server.handed →
      server.Calls id ticket := by
    intro ticket member
    rcases List.mem_append.mp member with pending | handed
    · have armed := (server.timers.calls_startCountdown _ _ _).subset pending
      rcases List.mem_append.mp armed with old | new
      · exact List.mem_append_left _ old
      · cases List.mem_singleton.mp new
    · exact List.mem_append_right _ handed
  have turn : ((server.timers.startCountdown room rules.config.countdown
      (.start room server.store.epochs)).entry id).turn = (server.timers.entry id).turn := by
    rw [Timers.entry_startCountdown]
    split
    · rename_i here
      rw [here]
    · rfl
  have created := server.store.get?_create room id connection.identity.id rules.config.initialLives
  by_cases here : id = room
  · rw [if_pos here] at created
    refine settled.numbered.quiet calls (Nat.le_refl _) (fun _ recorded => turn ▸ recorded) ?_
    intro found present running
    cases created.symm.trans present
    cases running
  · rw [if_neg here] at created
    exact settled.mono calls (Nat.le_refl _) turn created

theorem emptied_settled {room : RoomId} {registry : Registry} (settled : server.Settled id) :
    { server with
      registry := registry
      store := server.store.remove room
      timers := server.timers.cancelRoom room }.Settled id := by
  have calls : ∀ ticket,
      .expire id ticket ∈ (server.timers.cancelRoom room).calls ++ server.handed →
      server.Calls id ticket := by
    intro ticket member
    rcases List.mem_append.mp member with pending | handed
    · exact List.mem_append_left _ ((server.timers.calls_cancelRoom room).subset pending)
    · exact List.mem_append_right _ handed
  have entry := server.timers.entry_cancelRoom room id
  have removed := server.store.get?_remove room id
  by_cases here : id = room
  · rw [if_pos here] at entry removed
    refine settled.numbered.quiet calls (Nat.le_refl _) ?_ ?_
    · intro timer recorded
      cases (congrArg RoomTimers.turn entry).symm.trans recorded
    · intro found present
      cases removed.symm.trans present
  · rw [if_neg here] at entry removed
    exact settled.mono calls (Nat.le_refl _) (congrArg RoomTimers.turn entry) removed

theorem handed_settled (room : RoomId) (index : Nat) (settled : server.Settled id) :
    { server with
      handed := server.handed.eraseIdx index
      timers := server.timers.clearCountdown room }.Settled id := by
  refine settled.mono ?_ (Nat.le_refl _) ?_ rfl
  · intro ticket member
    exact (server.callbacks_eraseIdx index).subset member
  · rw [Timers.entry_clearCountdown]
    split
    · rename_i here
      rw [here]
    · rfl

theorem turn_of_cleared {entry : RoomTimers} {number : UInt64} {timer : TurnTimer}
    (recorded : (entry.cleared number).turn = some timer) : entry.turn = some timer := by
  unfold RoomTimers.cleared at recorded
  split at recorded
  · cases recorded
  · exact recorded

theorem mem_callbacks_of_cleared {index : Nat} {room : RoomId} {number : UInt64}
    {callback : Callback} (called : callback ∈ Server.callbacks
      { server with
        handed := server.handed.eraseIdx index
        timers := server.timers.clearTurn room number }) : callback ∈ server.callbacks := by
  unfold callbacks at called
  dsimp only at called
  rw [Timers.calls_clearTurn] at called
  exact (server.callbacks_eraseIdx index).subset called

theorem cleared_numbered {room : RoomId} (number : UInt64) (index : Nat)
    (numbered : server.Numbered id) :
    { server with
      handed := server.handed.eraseIdx index
      timers := server.timers.clearTurn room number }.Numbered id := by
  refine numbered.mono ?_ (Nat.le_refl _) ?_ rfl
  · exact fun ticket member => mem_callbacks_of_cleared member
  · intro timer recorded
    rw [Timers.entry_clearTurn] at recorded
    split at recorded
    · rename_i here
      rw [here]
      exact turn_of_cleared recorded
    · exact recorded

/-- When the timer of a ticket is forgotten, the running turn keeps its own, unless it is the turn
of that ticket. -/
theorem cleared_watched {room : RoomId} {ticket : Ticket} (index : Nat)
    (settled : server.Settled id) (handed : server.Calls room ticket)
    (stale : id ≠ room ∨ ∀ found, server.store.get? id = some found →
      found.isRunning ticket = false) :
    { server with
      handed := server.handed.eraseIdx index
      timers := server.timers.clearTurn room ticket.number }.Watched id := by
  intro found present running
  have recorded := settled.watched found present running
  rw [Timers.entry_clearTurn]
  by_cases here : id = room
  · subst here
    rw [if_pos rfl]
    have other : ¬(server.timers.entry id).turn.map TurnTimer.number = some ticket.number := by
      intro same
      have number := Option.some.inj (recorded.symm.trans same)
      have genuine := settled.numbered.genuine ticket found handed present running number
      rcases stale with elsewhere | stale
      · exact elsewhere rfl
      · rw [stale found present] at genuine
        cases genuine
    unfold RoomTimers.cleared
    rw [if_neg other]
    exact recorded
  · rw [if_neg here]
    exact recorded

theorem Step.settled {occurrence : Occurrence} (step : server.Step rules fragment occurrence later)
    (counts : server.Counts later) (settled : ∀ id, server.Settled id) (id : RoomId) :
    later.Settled id := by
  cases step with
  | idle store _ _ recorded callbacks =>
    have turn := congrArg RoomTimers.turn (entry_of_recorded recorded id)
    exact (settled id).mono (fun _ member => callbacks.subset member) counts.le turn (store ▸ rfl)
  | founded => exact founded_settled (settled id)
  | @entered connection _ registry _ _ present =>
    have entering := settled_registry registry (settled id)
    exact settled_played { server with registry := registry } rules fragment
      (.add connection.identity.id rules.config.initialLives) counts present entering.numbered
      (fun _ => entering.watched)
  | emptied => exact emptied_settled (settled id)
  | @parted _ _ registry _ _ _ present =>
    have parting := settled_registry registry (settled id)
    exact settled_played _ rules fragment _ counts present parting.numbered
      (fun _ => parting.watched)
  | @strayed _ _ registry => exact settled_registry registry (settled id)
  | answered present =>
    exact settled_played _ rules fragment _ counts present (settled id).numbered
      (fun _ => (settled id).watched)
  | @started index room _ _ present =>
    have starting := handed_settled room index (settled id)
    exact settled_played _ rules fragment _ counts present starting.numbered
      (fun _ => starting.watched)
  | @expired index room ticket found handed present =>
    have member := mem_callbacks_of_handed handed
    refine settled_played _ rules fragment _ counts present
      (cleared_numbered ticket.number index (settled id).numbered) ?_
    intro stale
    apply cleared_watched index (settled id) member
    rcases stale with elsewhere | stale
    · exact .inl elsewhere
    · by_cases here : id = room
      · refine .inr ?_
        intro other held
        rw [here] at held
        cases present.symm.trans held
        exact stale
      · exact .inl here
  | @outlived index room ticket handed absent =>
    have member := mem_callbacks_of_handed handed
    refine ⟨cleared_numbered ticket.number index (settled id).numbered,
      cleared_watched index (settled id) member ?_⟩
    by_cases here : id = room
    · refine .inr ?_
      intro found held
      rw [here, absent] at held
      cases held
    · exact .inl here

end Server

end WordGame
