import WordGame.Connection.Heartbeat
import WordGame.Connection.Registry
import WordGame.Message.Client

/-!
What the server keeps about one connection while it reads from it.

A message leads to errands, which are run one after the other; between two of them other
connections get their turn, and the session may be cut off. Whoever moves to another room gives up
the old one before the errand of leaving it is run.
-/

namespace WordGame

inductive Errand where
  | join (room : RoomId)
  | leave (room : RoomId)
  | answer (room : RoomId) (text : String)
  | relay (room : RoomId) (text : String)
  | pong (timestamp : Int64)
  deriving DecidableEq

structure Session where
  connection : Connection
  /-- The room that the connection is in, as far as the session knows. -/
  room : Option RoomId
  heartbeat : Heartbeat
  errands : List Errand
  deriving DecidableEq

namespace Session

def initial (connection : Connection) (heartbeat : Heartbeat) : Session :=
  ⟨connection, none, heartbeat, []⟩

def plan (session : Session) (errands : List Errand) : Session :=
  { session with errands := session.errands ++ errands }

def leave (session : Session) : Session :=
  { session with room := none }.plan (session.room.map Errand.leave).toList

/-- Moves to a room, out of the one before it if that is another. -/
def join (session : Session) (room : RoomId) : Session :=
  if session.room = some room then session.plan [.join room]
  else session.leave.plan [.join room]

/-- Takes in a message. Answers and typing outside of any room go nowhere. -/
def receive (session : Session) : ClientMessage → Session
  | .join room => session.join room
  | .answer word => session.plan (session.room.map (Errand.answer · word)).toList
  | .leave => session.leave
  | .typing text => session.plan (session.room.map (Errand.relay · text)).toList
  | .ping timestamp _ => session.plan [.pong timestamp]
  | .pong _ => { session with heartbeat := session.heartbeat.pong }

end Session

end WordGame
