import WordGame.Server.Run

/-!
The transactions of the server as plans, for when others act in between.

Whoever holds the gate locks the registry, the store and the timers one after the other, and sends
one item after the other. Other transactions have to wait, but meanwhile time goes by, timers ring
and what others type is passed on. So a plan finds out at each of its steps how things stand.
-/

namespace WordGame

structure Change where
  server : Server
  news : List ServerMessage

/-- What is left to do of a transaction. What follows a step can depend on how it found the server. -/
inductive Plan where
  | done
  | step (act : Server → Server) (next : Server → Plan)
  | change (room : RoomId) (act : Server → Change) (next : Server → Plan)
  | send (delivery : Delivery) (next : Plan)
  | tell (room : RoomId) (message : ServerMessage) (next : Plan)

namespace Plan

def run : Plan → Server → Server × List Delivery
  | done, server => (server, [])
  | step act next, server => (next server).run (act server)
  | change _ act next, server => (next server).run (act server).server
  | send delivery next, server =>
    let (later, deliveries) := next.run server
    (later, delivery :: deliveries)
  | tell room message next, server =>
    let (later, deliveries) := next.run server
    (later, server.registry.broadcast room message ++ deliveries)

def time (change : Timers Callback → Timers Callback) (next : Plan) : Plan :=
  step (fun server => { server with timers := change server.timers }) (fun _ => next)

def sendAll (deliveries : List Delivery) (next : Plan) : Plan := deliveries.foldr send next

def tellAll (room : RoomId) (messages : List ServerMessage) (next : Plan) : Plan :=
  messages.foldr (tell room) next

def settle (room : RoomId) (outcome : Outcome) : Plan :=
  tellAll room outcome.messages (time (outcome.follow room) done)

/-- Changes a room by a move, if it exists. Its outcome is told behind the `first` messages. -/
def move (room : RoomId) (first : List ServerMessage) (moved : Server → Option (Outcome × Server))
    (next : Outcome → Plan) : Plan :=
  change room
    (fun server =>
      match moved server with
      | some (outcome, later) => ⟨later, first ++ outcome.messages⟩
      | none => ⟨server, first⟩)
    (fun server =>
      tellAll room first
        (match moved server with
        | some (outcome, _) => next outcome
        | none => done))

end Plan

namespace Server

def arrivalNotes (connection : Connection) (room : RoomId) : Registration → List ServerMessage
  | .added => [.userJoined room connection.identity.id connection.identity.name]
  | .replaced _ => []

def foundingNotes (rules : Rules) (room : RoomId) : Arrival → List ServerMessage
  | .founded _ => [.timerStarted room rules.config.countdownSecs]
  | .added | .alreadyPresent => []

def greetPlan (rules : Rules) (connection : Connection) (room : RoomId) (arrival : Arrival)
    (next : Plan) : Plan :=
  match arrival with
  | .founded epoch =>
    .time (·.startCountdown room rules.config.countdown (.start room epoch))
      (.tellAll room (foundingNotes rules room arrival) next)
  | .added | .alreadyPresent =>
    .step (fun server => server) fun server =>
      let left := server.timers.remaining room
      if 0 < left then
        .send ⟨connection.id, .message (.timerStarted room (UInt64.ofNat left))⟩ next
      else next

def enterPlan (rules : Rules) (connection : Connection) (room : RoomId)
    (registration : Registration) : Plan :=
  let entered (server : Server) : Arrival × RoomStore :=
    server.store.join room connection.identity.id rules.config.initialLives
  .change room
    (fun server =>
      ⟨{ server with store := (entered server).2 },
        foundingNotes rules room (entered server).1 ++ arrivalNotes connection room registration⟩)
    (fun server =>
      greetPlan rules connection room (entered server).1
        (.tellAll room (arrivalNotes connection room registration) .done))

def joinPlan (rules : Rules) (connection : Connection) (room : RoomId) : Plan :=
  .step
    (fun server =>
      match server.registry.register room connection with
      | .ok (_, registry) => { server with registry := registry }
      | .error _ => server)
    (fun server =>
      match server.registry.register room connection with
      | .ok (registration, _) =>
        .sendAll (registration.closing connection) (enterPlan rules connection room registration)
      | .error _ => .done)

def leavePlan (rules : Rules) (fragment : Nat → String) (connection : Connection)
    (room : RoomId) : Plan :=
  let player := connection.identity.id
  .step
    (fun server =>
      match server.registry.unregister room player connection.id with
      | some (_, registry) => { server with registry := registry }
      | none => server)
    (fun server =>
      match server.registry.unregister room player connection.id with
      | none => .done
      | some (0, _) =>
        .time (·.cancelRoom room)
          (.change room (fun server => ⟨{ server with store := server.store.remove room }, []⟩)
            (fun _ => .done))
      | some (_ + 1, _) =>
        .move room [.userLeft room player connection.identity.name]
          (fun server => server.move rules fragment room (.remove player)) (.settle room))

def answerPlan (rules : Rules) (fragment : Nat → String) (room : RoomId) (player : PlayerId)
    (text : String) : Plan :=
  .move room [] (fun server => server.move rules fragment room (.answer player text))
    fun outcome => if outcome.isEmpty then .done else .settle room outcome

def startPlan (rules : Rules) (fragment : Nat → String) (room : RoomId) (epoch : Epoch) : Plan :=
  .move room []
    (fun server =>
      if (server.store.get? room).map Room.epoch = some epoch then
        server.move rules fragment room .start
      else none)
    fun outcome => .time (·.clearCountdown room) (.settle room outcome)

def expirePlan (rules : Rules) (fragment : Nat → String) (room : RoomId) (ticket : Ticket) : Plan :=
  .time (·.clearTurn room ticket.number)
    (.move room [] (fun server => server.move rules fragment room (.expire ticket))
      fun outcome => if outcome.isEmpty then .done else .settle room outcome)

def callPlan (rules : Rules) (fragment : Nat → String) : Callback → Plan
  | .start room epoch => startPlan rules fragment room epoch
  | .expire room ticket => expirePlan rules fragment room ticket

/-- What takes the gate, and the plan that it follows then. Nobody takes it who is refused, and a
call that is done is no longer there to be done. -/
def plan? (rules : Rules) (fragment : Nat → String) (server : Server) :
    Occurrence → Option (Server × Plan)
  | .join _ _ (some _) => none
  | .join connection room none => some (server, joinPlan rules connection room)
  | .leave connection room => some (server, leavePlan rules fragment connection room)
  | .answer room player text => some (server, answerPlan rules fragment room player text)
  | .call index =>
    (server.handed[index]?).map fun callback =>
      ({ server with handed := server.handed.eraseIdx index }, callPlan rules fragment callback)
  | .relay .. | .wait _ | .ring => none

end Server

end WordGame
