import WordGame.Basic

/-!
The pings and pongs of one connection: each ping is numbered and sets the moment by which a pong has
to come, and a pong lifts it.
-/

namespace WordGame

structure Keepalive where
  timeout : Millis
  pings : UInt64
  /-- The moment by which a pong has to come, while one is outstanding. -/
  deadline : Option Millis
  deriving DecidableEq, Repr

namespace Keepalive

def initial (timeout : Millis) : Keepalive := ⟨timeout, 0, none⟩

/-- A ping goes out; the first has the number one. No moment is the last here; on a machine one
is, and the sum fails there for a timeout of about 2^63 seconds, which the settings admit. -/
def ping (keepalive : Keepalive) (now : Millis) : UInt64 × Keepalive :=
  let number := keepalive.pings + 1
  (number, { keepalive with pings := number, deadline := some (now + keepalive.timeout) })

def pong (keepalive : Keepalive) : Keepalive := { keepalive with deadline := none }

/-- Waits for the deadline, but not past a limit: whether it came, and when the wait was over. -/
def await (keepalive : Keepalive) (now limit : Millis) : Bool × Millis :=
  match keepalive.deadline with
  | some deadline => if deadline ≤ limit then (true, max now deadline) else (false, limit)
  | none => (false, limit)

end Keepalive

end WordGame
