import WordGame.Connection.Keepalive

/-!
The rhythm of one connection: pings go out at regular intervals, and the connection is given up at
the moment by which a pong should have come.
-/

namespace WordGame

structure Heartbeat where
  interval : Millis
  nextPing : Millis
  keepalive : Keepalive
  deriving DecidableEq, Repr

inductive Pulse where
  | ping
  | missed
  deriving DecidableEq, Repr

namespace Heartbeat

/-- The rhythm of a connection that is made now. As with the deadline of a ping, an interval of
about 2^63 seconds leads past the last moment of a machine, but not past any here. -/
def start (now interval timeout : Millis) : Heartbeat :=
  ⟨interval, now + interval, .initial timeout⟩

/-- What comes next, and when; a deadline comes before a ping of the same moment. -/
def next (heartbeat : Heartbeat) : Millis × Pulse :=
  match heartbeat.keepalive.deadline with
  | some deadline =>
    if deadline ≤ heartbeat.nextPing then (deadline, .missed) else (heartbeat.nextPing, .ping)
  | none => (heartbeat.nextPing, .ping)

def ping (heartbeat : Heartbeat) (now : Millis) : UInt64 × Heartbeat :=
  let (number, keepalive) := heartbeat.keepalive.ping now
  (number,
    { heartbeat with nextPing := now + heartbeat.interval, keepalive := keepalive })

def pong (heartbeat : Heartbeat) : Heartbeat :=
  { heartbeat with keepalive := heartbeat.keepalive.pong }

end Heartbeat

end WordGame
