import WordGame.Game.Config
import WordGame.Game.Room
import WordGame.Message.Server

/-!
What an operation on a room leads to: messages for everybody in the room, a ticket for the timer of
a turn that was started, and whether the game is over.
-/

namespace WordGame

/-- Names one started turn; a timeout counts only while every part of it still fits the room. -/
structure Ticket where
  epoch : Epoch
  number : UInt64
  turnIndex : Nat
  player : PlayerId
  timeLimit : UInt32
  deriving DecidableEq, Repr

def Ticket.duration (ticket : Ticket) : Millis := ticket.timeLimit.toNat * 1000

structure Outcome where
  messages : List ServerMessage
  turn : Option Ticket
  /-- The game is over, by this operation or before it. -/
  gameOver : Bool
  drawn : Nat
  deriving DecidableEq

namespace Outcome

def nothing : Outcome := ⟨[], none, false, 0⟩

def isEmpty (outcome : Outcome) : Bool := outcome.messages.isEmpty && outcome.turn.isNone

end Outcome

structure Play where
  room : Room
  outcome : Outcome
  deriving DecidableEq

def Room.finalScores (room : Room) : Table String FinalScore :=
  Table.ofList (room.players.map fun player =>
    (finalScoreKey player, ⟨room.pointsOf player, room.livesOf player⟩))

end WordGame
