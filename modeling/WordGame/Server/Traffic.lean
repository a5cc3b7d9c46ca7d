import WordGame.Server.Plan

/-!
The traffic between the server and the queues of its connections.

One transaction at a time goes through the gate, step by step. In between time goes by, typing is
passed on without the gate, writers take what waits for them, and items come from elsewhere. What a
room is told goes to those who are its members at that moment. For each of them a parcel is on its
way then, and the parcels of one broadcast reach their queues in any order. Whoever holds the gate
goes on, or is cut off, only when all parcels of that transaction have arrived.
-/

namespace WordGame

structure Broadcast where
  number : Nat
  room : RoomId
  message : ServerMessage
  /-- It is told by whoever holds the gate. -/
  gated : Bool
  deriving DecidableEq

structure Parcel where
  broadcast : Broadcast
  receiver : ConnectionId
  deriving DecidableEq

def Parcel.delivery (parcel : Parcel) : Delivery :=
  ⟨parcel.receiver, .message parcel.broadcast.message⟩

def Registry.parcels (registry : Registry) (broadcast : Broadcast) : List Parcel :=
  (registry.broadcast broadcast.room broadcast.message).map fun delivery =>
    ⟨broadcast, delivery.receiver⟩

structure Traffic where
  server : Server
  queues : Queues
  /-- What whoever holds the gate has still to do. -/
  gate : Option Plan
  parcels : List Parcel
  broadcasts : Nat

inductive Event where
  /-- What needs the gate begins now, if the gate is free. -/
  | occur (occurrence : Occurrence) (fragment : Nat → String)
  | proceed
  | cut
  | pass (index : Nat)
  /-- An item that is no part of a broadcast comes from outside the gate. -/
  | send (delivery : Delivery)
  | connect (id : ConnectionId)
  | receive (id : ConnectionId)
  | desert (id : ConnectionId)

inductive Note where
  /-- A room was changed, and is to be told the news. -/
  | changed (room : RoomId) (news : List ServerMessage)
  | told (broadcast : Broadcast)
  | put (parcel : Parcel)
  | posted (delivery : Delivery)
  | taken (id : ConnectionId) (item : Outbound)
  | cut
  deriving DecidableEq

namespace Traffic

def initial (config : GameConfig) : Traffic := ⟨.initial config, .empty, none, [], 0⟩

def isTelling (traffic : Traffic) : Bool := traffic.parcels.any (·.broadcast.gated)

def tell (traffic : Traffic) (room : RoomId) (message : ServerMessage) (gated : Bool) :
    Traffic × List Note :=
  let broadcast : Broadcast := ⟨traffic.broadcasts, room, message, gated⟩
  ({ traffic with
      parcels := traffic.parcels ++ traffic.server.registry.parcels broadcast
      broadcasts := traffic.broadcasts + 1 },
    [.told broadcast])

def noted (traffic : Traffic) (delivery : Delivery) (note : Note) : List Note :=
  if traffic.queues.accepts delivery then [note] else []

def offer (traffic : Traffic) (delivery : Delivery) (note : Note) : Traffic × List Note :=
  ({ traffic with queues := traffic.queues.deliver delivery }, traffic.noted delivery note)

def proceed (traffic : Traffic) : Plan → Traffic × List Note
  | .done => ({ traffic with gate := none }, [])
  | .step act next =>
    ({ traffic with server := act traffic.server, gate := some (next traffic.server) }, [])
  | .change room act next =>
    let change := act traffic.server
    ({ traffic with server := change.server, gate := some (next traffic.server) },
      [.changed room change.news])
  | .send delivery next => { traffic with gate := some next }.offer delivery (.posted delivery)
  | .tell room message next => { traffic with gate := some next }.tell room message true

def occur (rules : Rules) (fragment : Nat → String) (traffic : Traffic) :
    Occurrence → Traffic × List Note
  | .relay room player text => traffic.tell room (.typing room player text) false
  | .wait moment => ({ traffic with server := traffic.server.wait moment }, [])
  | .ring => ({ traffic with server := traffic.server.ringDue }, [])
  | occurrence =>
    match traffic.gate, traffic.server.plan? rules fragment occurrence with
    | none, some (server, plan) => ({ traffic with server := server, gate := some plan }, [])
    | _, _ => (traffic, [])

def react (rules : Rules) (traffic : Traffic) : Event → Traffic × List Note
  | .occur occurrence fragment => traffic.occur rules fragment occurrence
  | .proceed =>
    match traffic.gate with
    | some plan => if traffic.isTelling then (traffic, []) else traffic.proceed plan
    | none => (traffic, [])
  | .cut =>
    match traffic.gate with
    | some _ => if traffic.isTelling then (traffic, []) else ({ traffic with gate := none }, [.cut])
    | none => (traffic, [])
  | .pass index =>
    match traffic.parcels[index]? with
    | some parcel =>
      { traffic with parcels := traffic.parcels.eraseIdx index }.offer parcel.delivery (.put parcel)
    | none => (traffic, [])
  | .send delivery => traffic.offer delivery (.posted delivery)
  | .connect id =>
    if traffic.queues.contains id then (traffic, [])
    else ({ traffic with queues := traffic.queues.insert id .fresh }, [])
  | .receive id =>
    match (traffic.queues.queue id).receive true with
    | (.item item, queue) =>
      ({ traffic with queues := traffic.queues.insert id queue }, [.taken id item])
    | _ => (traffic, [])
  | .desert id =>
    ({ traffic with queues := traffic.queues.insert id (traffic.queues.queue id).desert }, [])

def after (rules : Rules) (traffic : Traffic) (events : List Event) : Traffic :=
  events.foldl (fun traffic event => (traffic.react rules event).1) traffic

def report (rules : Rules) : Traffic → List Event → List Note
  | _, [] => []
  | traffic, event :: rest =>
    let (next, notes) := traffic.react rules event
    notes ++ report rules next rest

@[simp] theorem after_nil (rules : Rules) (traffic : Traffic) :
    traffic.after rules [] = traffic := rfl

@[simp] theorem after_cons (rules : Rules) (traffic : Traffic) (event : Event)
    (events : List Event) :
    traffic.after rules (event :: events) = (traffic.react rules event).1.after rules events := rfl

theorem after_append (rules : Rules) (traffic : Traffic) (first second : List Event) :
    traffic.after rules (first ++ second) = (traffic.after rules first).after rules second :=
  List.foldl_append

@[simp] theorem report_nil (rules : Rules) (traffic : Traffic) : traffic.report rules [] = [] := rfl

@[simp] theorem report_cons (rules : Rules) (traffic : Traffic) (event : Event)
    (events : List Event) :
    traffic.report rules (event :: events) =
      (traffic.react rules event).2 ++ (traffic.react rules event).1.report rules events := rfl

theorem report_append (rules : Rules) (traffic : Traffic) (first second : List Event) :
    traffic.report rules (first ++ second) =
      traffic.report rules first ++ (traffic.after rules first).report rules second := by
  induction first generalizing traffic with
  | nil => rfl
  | cons event rest ih =>
    rw [List.cons_append, report_cons, ih, report_cons, after_cons, List.append_assoc]

end Traffic

end WordGame
