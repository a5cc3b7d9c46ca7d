import WordGame.Server.Gate
import WordGame.Service.Setup
import WordGame.Session

/-!
A server at work: its state, the queues of the connections, and the sessions that read from them.

A session that is dropped leaves its room a little later, by a departure; whoever ends it properly
leaves the room first.
-/

namespace WordGame

structure Socket where
  writing : Bool
  /-- What was written and not yet collected. -/
  written : List Outbound

structure Service where
  server : Server
  /-- The records of members as they are now. They are kept elsewhere and can change at any time. -/
  membership : Membership
  queues : Queues
  sessions : Table ConnectionId Session
  sockets : Table ConnectionId Socket
  /-- The rooms that dropped connections have yet to leave. -/
  departures : List (Connection × RoomId)
  guests : Guests
  connections : Nat
  drawn : Nat
  /-- Who left which room, as it is reported to those who keep the records. -/
  left : List (RoomId × PlayerId)

namespace Service

def initial (setup : Setup) : Service where
  server := .initial setup.rules.config
  membership := setup.membership
  queues := .empty
  sessions := .empty
  sockets := .empty
  departures := []
  guests := .initial
  connections := 0
  drawn := 0
  left := []

def now (service : Service) : Millis := service.server.timers.now

def supply (setup : Setup) (service : Service) (n : Nat) : String :=
  setup.fragments (service.drawn + n)

def enact (service : Service) (transaction : Transaction) : Service :=
  { service with
    server := transaction.server
    queues := service.queues.deliverAll transaction.deliveries
    drawn := service.drawn + transaction.drawn }

def objection (service : Service) (connection : Connection) (room : RoomId) : Option Refusal :=
  service.membership room connection.identity

def request (setup : Setup) (service : Service) (connection : Connection) (room : RoomId) :
    Except JoinError Admission :=
  service.server.join setup.rules (service.objection connection room) connection room

def join (setup : Setup) (service : Service) (connection : Connection) (room : RoomId) :
    Except JoinError Bool × Service :=
  match service.request setup connection room with
  | .ok admission => (.ok admission.founded, service.enact admission.transaction)
  | .error error => (.error error, service)

def leave (setup : Setup) (service : Service) (connection : Connection) (room : RoomId) :
    Service :=
  match service.server.leave setup.rules (service.supply setup) connection room with
  | some transaction =>
    let later := service.enact transaction
    { later with left := later.left ++ [(room, connection.identity.id)] }
  | none => service

def answer (setup : Setup) (service : Service) (room : RoomId) (player : PlayerId)
    (text : String) : Service :=
  service.enact (service.server.answer setup.rules (service.supply setup) room player text)

def deliver (service : Service) (deliveries : List Delivery) : Service :=
  { service with queues := service.queues.deliverAll deliveries }

def relay (service : Service) (room : RoomId) (player : PlayerId) (text : String) : Service :=
  service.deliver (service.server.relay room player text)

/-! Sessions. -/

def connect (setup : Setup) (service : Service) (account : Option PlayerId)
    (name : Option String) (invented : String) : Connection × Service :=
  let (identity, guests) := service.guests.resolve account name invented
  let connection : Connection := ⟨service.connections, identity⟩
  (connection,
    { service with
      guests := guests
      connections := service.connections + 1
      queues := service.queues.insert connection.id .fresh
      sessions :=
        service.sessions.insert connection.id
          (.initial connection (setup.heartbeat service.now)) })

def put (service : Service) (session : Session) : Service :=
  { service with sessions := service.sessions.insert session.connection.id session }

/-- Runs one errand of a session. Who is let into a room is in it from then on. -/
def run (setup : Setup) (service : Service) (session : Session) : Errand → Service
  | .join room =>
    match service.join setup session.connection room with
    | (.ok _, later) => later.put { session with room := some room }
    | (.error _, later) => later
  | .leave room => service.leave setup session.connection room
  | .answer room text => service.answer setup room session.connection.identity.id text
  | .relay room text => service.relay room session.connection.identity.id text
  | .pong timestamp => service.deliver [⟨session.connection.id, .message (.pong timestamp)⟩]

def advance (setup : Setup) (service : Service) (id : ConnectionId) : Service :=
  match service.sessions.get? id with
  | some session =>
    match session.errands with
    | errand :: rest =>
      let session := { session with errands := rest }
      (service.put session).run setup session errand
    | [] => service
  | none => service

def advanceBy (setup : Setup) (service : Service) (id : ConnectionId) : Nat → Service
  | 0 => service
  | n + 1 => (service.advance setup id).advanceBy setup id n

/-- Hands a message to a session, and runs everything that it leads to. -/
def receive (setup : Setup) (service : Service) (id : ConnectionId) (message : ClientMessage) :
    Service :=
  match service.sessions.get? id with
  | some session =>
    let session := session.receive message
    (service.put session).advanceBy setup id session.errands.length
  | none => service

/-- Hands a text to a session. What is no message is passed over. -/
def receiveText (setup : Setup) (service : Service) (id : ConnectionId) (text : String) :
    Service :=
  match ClientMessage.decode text with
  | .ok message => service.receive setup id message
  | .error _ => service

/-- Cuts a session off, whatever it is at. It leaves its room by a departure, and its connection is
closed. -/
def drop (service : Service) (id : ConnectionId) : Service :=
  match service.sessions.get? id with
  | some session =>
    let later := service.deliver [⟨id, .close⟩]
    { later with
      sessions := service.sessions.erase id
      departures :=
        service.departures ++ (session.room.map (session.connection, ·)).toList }
  | none => service

/-- Ends a session: it leaves its room, and then its connection is closed. -/
def finish (setup : Setup) (service : Service) (id : ConnectionId) : Service :=
  match service.sessions.get? id with
  | some session =>
    let session := session.leave
    ((service.put session).advanceBy setup id session.errands.length).drop id
  | none => service

def depart (setup : Setup) (service : Service) : Service :=
  service.departures.foldl (fun later departure => later.leave setup departure.1 departure.2)
    { service with departures := [] }

def callAll (setup : Setup) (service : Service) : Service :=
  service.server.handed.foldl
    (fun later _ => later.enact (later.server.callNth setup.rules (later.supply setup) 0)) service

end Service

end WordGame
