import WordGame.Server.Gate

/-!
The transactions of the server, piece by piece.

A transaction has to wait at times: for those who keep the records, for its turn at the gate, and for
the registry, the store and the timers, which are locked one by one. Whoever runs it can be cut off at
any of these points. What was done until then stays done, and the gate is free again.
-/

namespace WordGame

inductive Await where
  | client
  | records
  | gate
  /-- For the registry, to change it. -/
  | registration
  | store
  | timers
  /-- For the registry, to see who has to be told. -/
  | members
  deriving DecidableEq, Repr

/-- A part of a transaction: what is waited for, and what is done then. -/
structure Piece where
  await : Await
  act : Transaction → Transaction

abbrev Script := List Piece

def Script.run (script : Script) (transaction : Transaction) : Transaction :=
  script.foldl (fun transaction piece => piece.act transaction) transaction

namespace Piece

def idle (await : Await) : Piece := ⟨await, fun transaction => transaction⟩

def register (registry : Registry) (deliveries : List Delivery) : Piece where
  await := .registration
  act transaction :=
    { transaction with
      server := { transaction.server with registry := registry }
      deliveries := transaction.deliveries ++ deliveries }

def keep (store : RoomStore) : Piece where
  await := .store
  act transaction := { transaction with server := { transaction.server with store := store } }

def play (outcome : Outcome) (later : Server) : Piece where
  await := .store
  act transaction :=
    { transaction with
      server := { transaction.server with store := later.store, turns := later.turns }
      drawn := transaction.drawn + outcome.drawn }

def time (change : Timers Callback → Timers Callback) : Piece :=
  ⟨.timers, fun transaction => transaction.time change⟩

def tell (room : RoomId) (message : ServerMessage) : Piece :=
  ⟨.members, fun transaction => transaction.broadcast room message⟩

end Piece

def Outcome.script (outcome : Outcome) (room : RoomId) : Script :=
  outcome.messages.map (Piece.tell room) ++
    if outcome.gameOver then [.time (·.stopTurn room)]
    else
      match outcome.turn with
      | some ticket =>
        [.time (·.scheduleTurn room ticket.number ticket.duration (.expire room ticket))]
      | none => []

/-- Records the countdown of a room whose alarm is armed, in place of the one that is running. -/
def Timers.recordCountdown (timers : Timers Callback) (room : RoomId) (armed : Armed) :
    Timers Callback :=
  let entry := timers.entry room
  (timers.disarmAll entry.countdown.toList).record room { entry with countdown := some armed }

namespace Server

/-- A player comes into a room. The alarm of a new room is armed before the timers are locked to
record it. -/
def enterScript (rules : Rules) (server : Server) (connection : Connection) (room : RoomId)
    (arrival : Arrival) (store : RoomStore) : Script :=
  match arrival with
  | .founded epoch =>
    let config := rules.config
    let (armed, timers) := server.timers.arm config.countdown (.start room epoch)
    [⟨.store, fun transaction =>
        { transaction with
          server := { transaction.server with store := store, timers := timers } }⟩,
      .time (·.recordCountdown room armed), .tell room (.timerStarted room config.countdownSecs)]
  | .added | .alreadyPresent =>
    [.keep store, ⟨.timers, fun transaction => greet rules transaction connection room arrival⟩]

def announceScript (connection : Connection) (room : RoomId) : Registration → Script
  | .added => [.tell room (.userJoined room connection.identity.id connection.identity.name)]
  | .replaced _ => []

def joinScript (rules : Rules) (objection : Option Refusal) (server : Server)
    (connection : Connection) (room : RoomId) : Script :=
  match objection with
  | some _ => [.idle .records]
  | none =>
    match server.registry.register room connection with
    | .error _ => [.idle .records, .idle .gate, .idle .registration]
    | .ok (registration, registry) =>
      let (arrival, store) :=
        server.store.join room connection.identity.id rules.config.initialLives
      .idle .records :: .idle .gate :: .register registry (registration.closing connection) ::
        (server.enterScript rules connection room arrival store ++
          announceScript connection room registration)

def partScript (rules : Rules) (fragment : Nat → String) (server : Server)
    (connection : Connection) (room : RoomId) : Script :=
  let player := connection.identity.id
  let farewell : ServerMessage := .userLeft room player connection.identity.name
  match server.move rules fragment room (.remove player) with
  | some (outcome, later) => .play outcome later :: .tell room farewell :: outcome.script room
  | none => [.idle .store, .tell room farewell]

def leaveScript (rules : Rules) (fragment : Nat → String) (server : Server)
    (connection : Connection) (room : RoomId) : Script :=
  match server.registry.unregister room connection.identity.id connection.id with
  | none => [.idle .gate, .idle .registration]
  | some (0, registry) =>
    [.idle .gate, .register registry [], .time (·.cancelRoom room),
      .keep (server.store.remove room), .idle .records]
  | some (_ + 1, registry) =>
    let server := { server with registry := registry }
    .idle .gate :: .register registry [] ::
      (server.partScript rules fragment connection room ++ [.idle .records])

def answerScript (rules : Rules) (fragment : Nat → String) (server : Server) (room : RoomId)
    (player : PlayerId) (text : String) : Script :=
  match server.move rules fragment room (.answer player text) with
  | some (outcome, later) =>
    .idle .gate :: .play outcome later :: if outcome.isEmpty then [] else outcome.script room
  | none => [.idle .gate, .idle .store]

def relayScript (room : RoomId) (player : PlayerId) (text : String) : Script :=
  [.tell room (.typing room player text)]

end Server

end WordGame
