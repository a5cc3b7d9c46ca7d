import WordGame.Proofs.Server.Moves
import WordGame.Proofs.Server.Pending
import WordGame.Proofs.Service.Listing
import WordGame.Service.Vigil

/-!
What the parts of a service do to the clock, to the heartbeats of its sessions and to the pings in
their queues. No time goes by while a transaction runs, an errand leaves every heartbeat as it is,
and only a heartbeat sends pings.
-/

namespace WordGame

/-! ### Transactions -/

/-- It takes no time, and nobody is sent a ping. -/
structure Transaction.Calm (transaction : Transaction) (now : Millis) : Prop where
  now : transaction.server.timers.now = now
  silent : ∀ delivery ∈ transaction.deliveries, delivery.item.ping? = none

namespace Server

variable {rules : Rules} {fragment : Nat → String} {server : Server} {connection : Connection}
  {room : RoomId}

theorem makeMove_calm (move : Move) {news : List Delivery}
    (silent : ∀ delivery ∈ news, delivery.item.ping? = none) :
    (server.makeMove rules fragment room move news).Calm server.timers.now := by
  refine ⟨?_, ?_⟩
  · unfold makeMove
    split
    · exact Outcome.now_follow _ room server.timers
    · rfl
  · intro delivery member
    rcases item_of_mem_makeMove member with before | ⟨_, message, _, ofGame, said⟩
    · exact silent delivery before
    · rw [said]
      cases ofGame with
      | startGame | nextTurn | answer | turnEnded | gameOver => rfl

theorem welcome_calm (registration : Registration) (registry : Registry) :
    (server.welcome rules connection room registration registry).Calm server.timers.now := by
  refine ⟨?_, ?_⟩
  · unfold welcome
    dsimp only
    split
    · exact server.timers.now_startCountdown room _ _
    · rfl
  · intro delivery member
    rcases item_of_mem_welcome member with closing | ⟨seconds, timer⟩ | arrival
    · rw [closing]
      rfl
    · rw [timer]
      rfl
    · rw [arrival]
      rfl

theorem join_calm {objection : Option Refusal} {admission : Admission}
    (admitted : server.join rules objection connection room = .ok admission) :
    admission.transaction.Calm server.timers.now := by
  have whole := undergo_join rules (fun _ => "") server connection room objection
  dsimp only [undergo] at whole
  rw [admitted] at whole
  dsimp only at whole
  rw [whole]
  split
  · exact welcome_calm _ _
  · exact ⟨rfl, List.forall_mem_nil _⟩

theorem leave_calm {transaction : Transaction}
    (departed : server.leave rules fragment connection room = some transaction) :
    transaction.Calm server.timers.now := by
  rw [leave_eq, Option.map_eq_some_iff] at departed
  obtain ⟨unregistered, _, rfl⟩ := departed
  split
  · exact ⟨server.timers.now_cancelRoom room, List.forall_mem_nil _⟩
  · refine makeMove_calm _ ?_
    intro delivery member
    rw [Registry.item_of_mem_broadcast member]
    rfl

theorem answer_calm (player : PlayerId) (text : String) :
    (server.answer rules fragment room player text).Calm server.timers.now := by
  rw [answer_eq]
  exact makeMove_calm _ (List.forall_mem_nil _)

theorem callNth_calm (index : Nat) :
    (server.callNth rules fragment index).Calm server.timers.now := by
  cases handed : server.handed[index]? with
  | none =>
    unfold callNth
    rw [handed]
    exact ⟨rfl, List.forall_mem_nil _⟩
  | some callback =>
    cases callback with
    | start room epoch =>
      rw [callNth_start rules fragment handed]
      split
      · exact makeMove_calm _ (List.forall_mem_nil _)
      · exact ⟨rfl, List.forall_mem_nil _⟩
    | expire room ticket =>
      rw [callNth_expire rules fragment handed, ← server.timers.now_clearTurn room ticket.number]
      exact makeMove_calm _ (List.forall_mem_nil _)

theorem now_ringDue (server : Server) : server.ringDue.timers.now = server.timers.now := by
  unfold ringDue
  split
  · split
    · rename_i due
      exact Nat.max_eq_left due
    · rfl
  · rfl

end Server

/-! ### Queues -/

theorem Queue.pings_push (queue : Queue) (item : Outbound) :
    (queue.push item).pings =
      queue.pings ++ if queue.accepts then item.ping?.toList else [] := by
  unfold pings
  rw [waiting_push]
  split
  · rw [List.filterMap_append]
    cases pinged : item.ping? with
    | none => rw [List.filterMap_cons_none pinged]; rfl
    | some number => rw [List.filterMap_cons_some pinged]; rfl
  · rw [List.append_nil]

namespace Queues

theorem pings_deliver (queues : Queues) (delivery : Delivery) (id : ConnectionId) :
    ((queues.deliver delivery).queue id).pings =
      (queues.queue id).pings ++
        if id = delivery.receiver ∧ queues.accepts delivery then delivery.item.ping?.toList
        else [] := by
  rw [queue_deliver]
  by_cases own : id = delivery.receiver
  · subst own
    rw [if_pos rfl, Queue.pings_push]
    simp [accepts]
  · rw [if_neg own, if_neg fun both => own both.1, List.append_nil]

theorem pings_deliverAll {queues : Queues} {deliveries : List Delivery}
    (silent : ∀ delivery ∈ deliveries, delivery.item.ping? = none) (id : ConnectionId) :
    ((queues.deliverAll deliveries).queue id).pings = (queues.queue id).pings := by
  induction deliveries generalizing queues with
  | nil => rfl
  | cons delivery rest ih =>
    obtain ⟨quiet, others⟩ := List.forall_mem_cons.mp silent
    refine (ih others).trans ?_
    rw [pings_deliver, quiet]
    simp

end Queues

namespace Service

variable {setup : Setup} {service middle later : Service} {id : ConnectionId}
  {session : Session} {connection : Connection} {room : RoomId} {heartbeat : Option Heartbeat}

def heartbeat? (service : Service) (id : ConnectionId) : Option Heartbeat :=
  (service.sessions.get? id).map Session.heartbeat

/-- Every session is listed under the number of its connection. -/
def Numbered (service : Service) : Prop :=
  ∀ id session, service.sessions.get? id = some session → session.connection.id = id

/-- No ping has got into any queue. Those that waited in it wait there yet, or none does. -/
def Quiet (service later : Service) : Prop :=
  ∀ id, (later.queues.queue id).pings = (service.queues.queue id).pings ∨
    (later.queues.queue id).pings = []

/-- The clock, the heartbeats and the sockets are as they were, and nobody was sent a ping. -/
structure Steady (service later : Service) : Prop where
  now : later.now = service.now
  connections : later.connections = service.connections
  sockets : ∀ id, later.sockets.contains id = service.sockets.contains id
  heartbeats : ∀ id, later.heartbeat? id = service.heartbeat? id
  quiet : service.Quiet later
  numbered : later.Numbered

/-- One session gets another heartbeat, or is no more. -/
structure Alters (service : Service) (id : ConnectionId) (heartbeat : Option Heartbeat)
    (later : Service) : Prop where
  now : later.now = service.now
  connections : later.connections = service.connections
  sockets : ∀ id, later.sockets.contains id = service.sockets.contains id
  own : later.heartbeat? id = heartbeat
  others : ∀ other, other ≠ id → later.heartbeat? other = service.heartbeat? other
  numbered : later.Numbered

/-- One session gets another heartbeat, or is no more, and nobody was sent a ping. -/
structure Retimes (service : Service) (id : ConnectionId) (heartbeat : Option Heartbeat)
    (later : Service) : Prop extends Alters service id heartbeat later where
  quiet : service.Quiet later

/-- One session gets another heartbeat, and a ping of this number into its queue. -/
structure Pings (service : Service) (id : ConnectionId) (number : UInt64) (heartbeat : Heartbeat)
    (later : Service) : Prop extends Alters service id (some heartbeat) later where
  queues : ∀ other, (later.queues.queue other).pings =
    (service.queues.queue other).pings ++ if other = id then [number] else []

theorem Quiet.refl (service : Service) : service.Quiet service := fun _ => .inl rfl

theorem Quiet.trans (first : service.Quiet middle) (second : middle.Quiet later) :
    service.Quiet later := by
  intro id
  rcases second id with same | none
  · rw [same]
    exact first id
  · exact .inr none

theorem Quiet.newPings (quiet : service.Quiet later) (id : ConnectionId) :
    later.newPings service id = [] := by
  unfold Service.newPings
  rcases quiet id with same | none
  · rw [same, List.drop_length]
  · rw [none, List.drop_nil]

theorem Steady.refl (numbered : service.Numbered) : service.Steady service :=
  ⟨rfl, rfl, fun _ => rfl, fun _ => rfl, .refl service, numbered⟩

theorem Steady.trans (first : service.Steady middle) (second : middle.Steady later) :
    service.Steady later where
  now := second.now.trans first.now
  connections := second.connections.trans first.connections
  sockets id := (second.sockets id).trans (first.sockets id)
  heartbeats id := (second.heartbeats id).trans (first.heartbeats id)
  quiet := first.quiet.trans second.quiet
  numbered := second.numbered

theorem Steady.retimes (first : service.Steady middle)
    (second : middle.Retimes id heartbeat later) :
    service.Retimes id heartbeat later where
  now := second.now.trans first.now
  connections := second.connections.trans first.connections
  sockets other := (second.sockets other).trans (first.sockets other)
  own := second.own
  others other different := (second.others other different).trans (first.heartbeats other)
  quiet := first.quiet.trans second.quiet
  numbered := second.numbered

theorem Retimes.steady (first : service.Retimes id heartbeat middle)
    (second : middle.Steady later) :
    service.Retimes id heartbeat later where
  now := second.now.trans first.now
  connections := second.connections.trans first.connections
  sockets other := (second.sockets other).trans (first.sockets other)
  own := (second.heartbeats id).trans first.own
  others other different := (second.heartbeats other).trans (first.others other different)
  quiet := first.quiet.trans second.quiet
  numbered := second.numbered

theorem Retimes.trans {before : Option Heartbeat} (first : service.Retimes id before middle)
    (second : middle.Retimes id heartbeat later) : service.Retimes id heartbeat later where
  now := second.now.trans first.now
  connections := second.connections.trans first.connections
  sockets other := (second.sockets other).trans (first.sockets other)
  own := second.own
  others other different := (second.others other different).trans (first.others other different)
  quiet := first.quiet.trans second.quiet
  numbered := second.numbered

theorem Retimes.unchanged (retimes : service.Retimes id heartbeat later)
    (same : heartbeat = service.heartbeat? id) : service.Steady later where
  now := retimes.now
  connections := retimes.connections
  sockets := retimes.sockets
  heartbeats other := by
    by_cases own : other = id
    · rw [own, retimes.own, same]
    · exact retimes.others other own
  quiet := retimes.quiet
  numbered := retimes.numbered

/-! ### Sessions -/

theorem put_retimes (numbered : service.Numbered) (session : Session) :
    service.Retimes session.connection.id (some session.heartbeat) (service.put session) := by
  refine ⟨⟨rfl, rfl, fun _ => rfl, ?_, ?_, ?_⟩, .refl service⟩
  · unfold heartbeat?
    rw [get?_put, if_pos rfl]
    rfl
  · intro other different
    unfold heartbeat?
    rw [get?_put, if_neg different]
  · intro other found present
    rw [get?_put] at present
    split at present
    · rename_i same
      cases present
      exact same.symm
    · exact numbered other found present

theorem put_steady (numbered : service.Numbered)
    (same : service.heartbeat? session.connection.id = some session.heartbeat) :
    service.Steady (service.put session) :=
  (put_retimes numbered session).unchanged same.symm

theorem heartbeat?_of_live (live : service.sessions.get? id = some session) :
    service.heartbeat? id = some session.heartbeat :=
  congrArg (Option.map Session.heartbeat) live

theorem deliverAll_quiet {deliveries : List Delivery}
    (silent : ∀ delivery ∈ deliveries, delivery.item.ping? = none)
    (queues : later.queues = service.queues.deliverAll deliveries) : service.Quiet later := by
  intro id
  rw [queues]
  exact .inl (Queues.pings_deliverAll silent id)

theorem deliver_steady (numbered : service.Numbered) {deliveries : List Delivery}
    (silent : ∀ delivery ∈ deliveries, delivery.item.ping? = none) :
    service.Steady (service.deliver deliveries) :=
  ⟨rfl, rfl, fun _ => rfl, fun _ => rfl, deliverAll_quiet silent rfl, numbered⟩

theorem enact_steady (numbered : service.Numbered) {transaction : Transaction}
    (calm : transaction.Calm service.now) : service.Steady (service.enact transaction) :=
  ⟨calm.now, rfl, fun _ => rfl, fun _ => rfl, deliverAll_quiet calm.silent rfl, numbered⟩

theorem leave_steady (numbered : service.Numbered) (setup : Setup) (connection : Connection)
    (room : RoomId) : service.Steady (service.leave setup connection room) := by
  unfold leave
  cases departed : service.server.leave setup.rules (service.supply setup) connection room with
  | none => exact .refl numbered
  | some transaction =>
    have calm : transaction.Calm service.now := Server.leave_calm departed
    exact ⟨calm.now, rfl, fun _ => rfl, fun _ => rfl, deliverAll_quiet calm.silent rfl, numbered⟩

theorem run_steady (numbered : service.Numbered) (setup : Setup)
    (same : service.heartbeat? session.connection.id = some session.heartbeat) (errand : Errand) :
    service.Steady (service.run setup session errand) := by
  cases errand with
  | relay room text =>
    refine deliver_steady numbered ?_
    intro delivery member
    rw [Registry.item_of_mem_broadcast member]
    rfl
  | pong => exact deliver_steady numbered (List.forall_mem_singleton.mpr rfl)
  | answer room text => exact enact_steady numbered (Server.answer_calm _ text)
  | leave room => exact leave_steady numbered setup session.connection room
  | join room =>
    cases admitted : service.request setup session.connection room with
    | error error =>
      rw [run_join_of_error admitted]
      exact .refl numbered
    | ok admission =>
      rw [run_join_of_ok admitted]
      have entered : service.Steady (service.enact admission.transaction) :=
        enact_steady numbered (Server.join_calm admitted)
      exact entered.trans (put_steady entered.numbered same)

theorem advance_steady (numbered : service.Numbered) (setup : Setup) (id : ConnectionId) :
    service.Steady (service.advance setup id) := by
  cases live : service.sessions.get? id with
  | none =>
    unfold advance
    rw [live]
    exact .refl numbered
  | some session =>
    cases errands : session.errands with
    | nil =>
      unfold advance
      rw [live]
      dsimp only
      rw [errands]
      exact .refl numbered
    | cons errand rest =>
      rw [advance_of_errand setup live errands]
      let after : Session := { session with errands := rest }
      have same : service.heartbeat? after.connection.id = some after.heartbeat := by
        have beats := heartbeat?_of_live live
        rw [show after.connection.id = id from numbered id session live]
        exact beats
      have put : service.Steady (service.put after) := put_steady numbered same
      exact put.trans (run_steady put.numbered setup ((put.heartbeats _).trans same) errand)

theorem advanceBy_steady (numbered : service.Numbered) (setup : Setup) (id : ConnectionId)
    (n : Nat) :
    service.Steady (service.advanceBy setup id n) := by
  induction n generalizing service with
  | zero => exact .refl numbered
  | succ n ih =>
    have first := advance_steady numbered setup id
    exact first.trans (ih first.numbered)

theorem heartbeat_receive (session : Session) (message : ClientMessage) :
    (session.receive message).heartbeat =
      match message with
      | .pong _ => session.heartbeat.pong
      | _ => session.heartbeat := by
  cases message with
  | join room =>
    unfold Session.receive Session.join
    dsimp only
    split
    · rfl
    · rfl
  | answer | leave | typing | ping | pong => rfl

theorem receive_retimes (numbered : service.Numbered) (setup : Setup)
    (live : service.sessions.get? id = some session) (message : ClientMessage) :
    service.Retimes id (some (session.receive message).heartbeat)
      (service.receive setup id message) := by
  have put := put_retimes numbered (session.receive message)
  rw [session.connection_receive, numbered id session live] at put
  unfold receive
  rw [live]
  exact put.steady (advanceBy_steady put.numbered setup id _)

theorem receiveText_retimes (numbered : service.Numbered) (setup : Setup)
    (live : service.sessions.get? id = some session) (content : String) :
    service.Retimes id
      (some (if (Frame.text content).isPong then session.heartbeat.pong else session.heartbeat))
      (service.receiveText setup id content) := by
  cases decoded : ClientMessage.decode content with
  | error error =>
    simp only [Frame.isPong, receiveText, decoded, Bool.false_eq_true, if_false]
    exact ⟨⟨rfl, rfl, fun _ => rfl, heartbeat?_of_live live, fun _ _ => rfl, numbered⟩,
      .refl service⟩
  | ok message =>
    have received := receive_retimes numbered setup live message
    rw [heartbeat_receive] at received
    simp only [Frame.isPong, receiveText, decoded]
    cases message with
    | join | answer | leave | typing | ping | pong => exact received

theorem drop_retimes (numbered : service.Numbered) (id : ConnectionId) :
    service.Retimes id none (service.drop id) := by
  have same : (service.drop id).now = service.now ∧
      (service.drop id).connections = service.connections ∧
      (service.drop id).sockets = service.sockets ∧ service.Quiet (service.drop id) := by
    unfold drop
    split
    · exact ⟨rfl, rfl, rfl, deliverAll_quiet (List.forall_mem_singleton.mpr rfl) rfl⟩
    · exact ⟨rfl, rfl, rfl, .refl service⟩
  obtain ⟨now, connections, sockets, quiet⟩ := same
  refine ⟨⟨now, connections, fun other => by rw [sockets], ?_, ?_, ?_⟩, quiet⟩
  · unfold heartbeat?
    rw [get?_drop, if_pos rfl]
    rfl
  · intro other different
    unfold heartbeat?
    rw [get?_drop, if_neg different]
  · intro other found present
    rw [get?_drop] at present
    split at present
    · cases present
    · exact numbered other found present

theorem finish_retimes (numbered : service.Numbered) (setup : Setup) (id : ConnectionId) :
    service.Retimes id none (service.finish setup id) := by
  unfold finish
  cases live : service.sessions.get? id with
  | none =>
    have gone : service.heartbeat? id = none := congrArg (Option.map Session.heartbeat) live
    exact ⟨⟨rfl, rfl, fun _ => rfl, gone, fun _ _ => rfl, numbered⟩, .refl service⟩
  | some session =>
    dsimp only
    have put : service.Steady (service.put session.leave) := by
      refine put_steady numbered ?_
      have beats := heartbeat?_of_live live
      rw [show session.leave.connection.id = id from numbered id session live]
      exact beats
    have left := put.trans (advanceBy_steady put.numbered setup id session.leave.errands.length)
    exact left.retimes (drop_retimes left.numbered id)

/-! ### Pings -/

theorem Pings.newPings {number : UInt64} {heartbeat : Heartbeat}
    (pings : service.Pings id number heartbeat later) (other : ConnectionId) :
    later.newPings service other = if other = id then [number] else [] := by
  unfold Service.newPings
  rw [pings.queues, List.drop_left]

/-- A ping gets into the queue, or the session is ended. -/
theorem ping_pings (numbered : service.Numbered) (setup : Setup)
    (live : service.sessions.get? id = some session) (timestamp : Int64) :
    let next := session.heartbeat.ping service.now
    if (service.queues.queue id).accepts then
      service.Pings id next.1 next.2 (service.ping setup id timestamp)
    else service.Retimes id none (service.ping setup id timestamp) := by
  intro next
  let after : Session := { session with heartbeat := next.2 }
  let delivery : Delivery := ⟨id, .message (.ping timestamp next.1)⟩
  have put := put_retimes numbered after
  rw [show after.connection.id = id from numbered id session live] at put
  have queues (other : ConnectionId) := service.queues.pings_deliver delivery other
  have sent : service.ping setup id timestamp =
      if (service.queues.queue id).accepts then (service.put after).deliver [delivery]
      else ((service.put after).deliver [delivery]).finish setup id := by
    unfold ping
    rw [live]
    rfl
  rw [sent]
  split
  · rename_i accepted
    refine ⟨⟨put.now, put.connections, put.sockets, put.own, put.others, put.numbered⟩, ?_⟩
    intro other
    refine (queues other).trans ?_
    rw [show service.queues.accepts delivery = true from accepted]
    simp [delivery, Outbound.ping?]
  · rename_i refused
    have lost : service.Quiet ((service.put after).deliver [delivery]) := by
      intro other
      refine .inl ((queues other).trans ?_)
      rw [if_neg fun both => refused both.2, List.append_nil]
    have retimed : service.Retimes id (some next.2) ((service.put after).deliver [delivery]) :=
      ⟨⟨put.now, put.connections, put.sockets, put.own, put.others, put.numbered⟩, lost⟩
    exact retimed.trans (finish_retimes retimed.numbered setup id)

end Service

end WordGame
