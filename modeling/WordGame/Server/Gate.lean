import WordGame.Membership
import WordGame.Server.Transaction

/-!
The transactions of the server: players join and leave rooms, answers come in, and timers have rung.
-/

namespace WordGame

inductive JoinError where
  | full (error : RoomFull)
  | refused (refusal : Refusal)
  deriving DecidableEq, Repr

def JoinError.message : JoinError → String
  | .full error => error.message
  | .refused refusal => "join refused: " ++ refusal.message

structure Admission where
  founded : Bool
  transaction : Transaction

namespace Server

def greet (rules : Rules) (transaction : Transaction) (connection : Connection) (room : RoomId)
    (arrival : Arrival) : Transaction :=
  match arrival with
  | .founded epoch =>
    let config := rules.config
    (transaction.time (·.startCountdown room config.countdown (.start room epoch))).broadcast room
      (.timerStarted room config.countdownSecs)
  | .added | .alreadyPresent =>
    let left := transaction.server.timers.remaining room
    if 0 < left then transaction.send connection.id (.timerStarted room (UInt64.ofNat left))
    else transaction

/-- Announces a connection, unless it took the place of one that was announced before. -/
def announce (transaction : Transaction) (connection : Connection) (room : RoomId)
    (registration : Registration) : Transaction :=
  match registration with
  | .added =>
    transaction.broadcast room (.userJoined room connection.identity.id connection.identity.name)
  | .replaced _ => transaction

def letIn (rules : Rules) (server : Server) (connection : Connection) (room : RoomId) :
    Except RoomFull Admission :=
  match server.registry.register room connection with
  | .error full => .error full
  | .ok (registration, registry) =>
    let (arrival, store) :=
      server.store.join room connection.identity.id rules.config.initialLives
    let entered : Transaction :=
      ⟨{ server with registry := registry, store := store }, registration.closing connection, 0⟩
    let greeted := greet rules entered connection room arrival
    .ok ⟨arrival matches .founded _, announce greeted connection room registration⟩

def join (rules : Rules) (objection : Option Refusal) (server : Server) (connection : Connection)
    (room : RoomId) : Except JoinError Admission :=
  match objection with
  | some refusal => .error (.refused refusal)
  | none => (server.letIn rules connection room).mapError .full

/-- Takes a connection out of a room, if it still is the one of its player there. The player is out
of the game; with the last connection the room goes. -/
def leave (rules : Rules) (fragment : Nat → String) (server : Server) (connection : Connection)
    (room : RoomId) : Option Transaction :=
  let player := connection.identity.id
  match server.registry.unregister room player connection.id with
  | none => none
  | some (0, registry) =>
    some <| .begin
      { server with
        registry := registry
        store := server.store.remove room
        timers := server.timers.cancelRoom room }
  | some (_ + 1, registry) =>
    let server := { server with registry := registry }
    let farewell : ServerMessage := .userLeft room player connection.identity.name
    match server.move rules fragment room (.remove player) with
    | some (outcome, later) =>
      some (((Transaction.begin later).broadcast room farewell).settle room outcome)
    | none => some ((Transaction.begin server).broadcast room farewell)

def answer (rules : Rules) (fragment : Nat → String) (server : Server) (room : RoomId)
    (player : PlayerId) (text : String) : Transaction :=
  match server.move rules fragment room (.answer player text) with
  | some (outcome, later) => (Transaction.begin later).settleUnlessEmpty room outcome
  | none => .begin server

/-- Starts the game of a room whose countdown is over. A room that was founded anew since then is
left alone. -/
def startGame (rules : Rules) (fragment : Nat → String) (server : Server) (room : RoomId)
    (epoch : Epoch) : Transaction :=
  if (server.store.get? room).map Room.epoch = some epoch then
    match server.move rules fragment room .start with
    | some (outcome, later) =>
      ((Transaction.begin later).time (·.clearCountdown room)).settle room outcome
    | none => .begin server
  else .begin server

def endTurn (rules : Rules) (fragment : Nat → String) (server : Server) (room : RoomId)
    (ticket : Ticket) : Transaction :=
  let server := { server with timers := server.timers.clearTurn room ticket.number }
  match server.move rules fragment room (.expire ticket) with
  | some (outcome, later) => (Transaction.begin later).settleUnlessEmpty room outcome
  | none => .begin server

def call (rules : Rules) (fragment : Nat → String) (server : Server) : Callback → Transaction
  | .start room epoch => server.startGame rules fragment room epoch
  | .expire room ticket => server.endTurn rules fragment room ticket

/-- Passes on what a player is typing. This is not a transaction: nothing changes. -/
def relay (server : Server) (room : RoomId) (player : PlayerId) (text : String) : List Delivery :=
  server.registry.broadcast room (.typing room player text)

def ring (server : Server) (alarm : Alarm Callback) : Server :=
  { server with timers := server.timers.ring alarm, handed := server.handed ++ [alarm.call] }

def callNth (rules : Rules) (fragment : Nat → String) (server : Server) (index : Nat) :
    Transaction :=
  match server.handed[index]? with
  | some callback =>
    { server with handed := server.handed.eraseIdx index }.call rules fragment callback
  | none => .begin server

end Server

end WordGame
