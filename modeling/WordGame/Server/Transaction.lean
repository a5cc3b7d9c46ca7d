import WordGame.Connection.Queues
import WordGame.Game.Run
import WordGame.Game.Store
import WordGame.Timers

/-!
The state that all connections share, and the steps that change it.

A step of the server is a transaction: nothing else happens to the rooms, the registry and the timers
while it runs. It leads to a new state and to deliveries, listed in the order in which they are made.
-/

namespace WordGame

inductive Callback where
  /-- The countdown of the room with this epoch is over. -/
  | start (room : RoomId) (epoch : Epoch)
  | expire (room : RoomId) (ticket : Ticket)
  deriving DecidableEq, Repr

/-- Sets or stops the timer of the turn, as the outcome of a move in the room demands. -/
def Outcome.follow (outcome : Outcome) (room : RoomId) (timers : Timers Callback) :
    Timers Callback :=
  if outcome.gameOver then timers.stopTurn room
  else
    match outcome.turn with
    | some ticket =>
      timers.scheduleTurn room ticket.number ticket.duration (.expire room ticket)
    | none => timers

structure Server where
  store : RoomStore
  registry : Registry
  timers : Timers Callback
  turns : UInt64
  /-- What rang timers called for and has not been done yet. It will be done, whatever becomes of
  the timers. -/
  handed : List Callback

structure Transaction where
  server : Server
  deliveries : List Delivery
  drawn : Nat

namespace Server

def initial (config : GameConfig) : Server :=
  ⟨.initial, .initial config.maxRoomCapacity, .initial, 0, []⟩

def move (rules : Rules) (fragment : Nat → String) (server : Server) (room : RoomId)
    (move : Move) : Option (Outcome × Server) :=
  match server.store.get? room with
  | some found =>
    let play := found.perform rules ⟨server.turns + 1, fragment⟩ move
    some (play.outcome,
      { server with
        store := server.store.put room play.room
        turns := play.outcome.turnsAfter server.turns })
  | none => none

end Server

namespace Transaction

def begin (server : Server) : Transaction := ⟨server, [], 0⟩

def time (transaction : Transaction) (change : Timers Callback → Timers Callback) : Transaction :=
  { transaction with
    server := { transaction.server with timers := change transaction.server.timers } }

def send (transaction : Transaction) (receiver : ConnectionId) (message : ServerMessage) : Transaction :=
  { transaction with deliveries := transaction.deliveries ++ [⟨receiver, .message message⟩] }

def broadcast (transaction : Transaction) (room : RoomId) (message : ServerMessage) : Transaction :=
  { transaction with
    deliveries := transaction.deliveries ++ transaction.server.registry.broadcast room message }

def settle (transaction : Transaction) (room : RoomId) (outcome : Outcome) : Transaction :=
  let told := outcome.messages.foldl (fun told message => told.broadcast room message) transaction
  { told with drawn := told.drawn + outcome.drawn }.time fun timers => outcome.follow room timers

def settleUnlessEmpty (transaction : Transaction) (room : RoomId) (outcome : Outcome) :
    Transaction :=
  if outcome.isEmpty then transaction else transaction.settle room outcome

end Transaction

end WordGame
