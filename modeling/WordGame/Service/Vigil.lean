import WordGame.Service.Clock
import WordGame.Service.Run

/-!
A service in virtual time, with a record of the pings that each connection was sent and of the pongs
that came back.

What is ready at one moment happens in any order: a frame is read, a ping is due, a deadline has
come. No time goes by until everything has happened that is due. Nothing depends on the record,
which is kept by somebody who looks on: the pings are those that turn up in the queues.
-/

namespace WordGame

inductive Frame where
  | text (content : String)
  /-- Binary data, or a ping or pong of the protocol underneath. -/
  | other
  /-- The client closes the connection, or it fails. -/
  | ended
  deriving DecidableEq, Repr

/-- A pong is any text that is read as one, whatever it answers. -/
def Frame.isPong : Frame → Bool
  | .text content =>
    match ClientMessage.decode content with
    | .ok (.pong _) => true
    | _ => false
  | .other | .ended => false

inductive Occasion where
  | accept (account : Option PlayerId) (name : Option String) (invented : String)
  | read (id : ConnectionId) (frame : Frame)
  /-- A ping is sent, or a deadline is found to be missed, if that is due. -/
  | pulse (id : ConnectionId) (pulse : Pulse)
  | write (id : ConnectionId)
  | drop (id : ConnectionId)
  | depart (index : Nat)
  | amend (membership : Membership)
  | ring
  | call (index : Nat)
  /-- Time goes by, up to a moment, but not past anything that is due before. -/
  | wait (moment : Millis)

inductive Sign where
  | ping (number : UInt64)
  | pong
  | missed
  deriving DecidableEq, Repr

def Outbound.ping? : Outbound → Option UInt64
  | .message (.ping _ number) => some number
  | _ => none

/-- The numbers of the pings that wait to be written. -/
def Queue.pings (queue : Queue) : List UInt64 := queue.waiting.filterMap Outbound.ping?

def Heartbeat.isDue (heartbeat : Heartbeat) (now : Millis) : Pulse → Bool
  | .ping => heartbeat.nextPing ≤ now
  | .missed => heartbeat.keepalive.deadline.any (· ≤ now)

namespace Service

def horizon (service : Service) (moment : Millis) : Millis :=
  match service.next? with
  | some (due, _) => min moment due
  | none => moment

def isDue (service : Service) (id : ConnectionId) (pulse : Pulse) : Bool :=
  (service.sessions.get? id).any fun session => session.heartbeat.isDue service.now pulse

def read (setup : Setup) (service : Service) (id : ConnectionId) : Frame → Service
  | .text content => service.receiveText setup id content
  | .other => service
  | .ended => service.finish setup id

def meet (setup : Setup) (service : Service) : Occasion → Service
  | .accept account name invented => (service.accept setup account name invented).2
  | .read id frame => service.read setup id frame
  | .pulse id pulse =>
    if service.isDue id pulse then service.happen setup (.pulse id pulse) else service
  | .write id =>
    match service.sockets.get? id with
    | some socket => service.write id socket
    | none => service
  | .drop id => service.drop id
  | .depart index => service.undergo setup (.depart index)
  | .amend membership => service.undergo setup (.amend membership)
  | .ring => service.undergo setup .ring
  | .call index => service.undergo setup (.call index)
  | .wait moment => service.wait (service.horizon moment)

/-- What an occasion is a sign of, for one connection. -/
def sign? (service : Service) (id : ConnectionId) : Occasion → Option Sign
  | .read reader frame =>
    if id = reader ∧ service.sessions.contains reader ∧ frame.isPong then some .pong else none
  | .pulse owner .missed => if id = owner ∧ service.isDue owner .missed then some .missed else none
  | _ => none

/-- The pings that have come into the queue of a connection since an earlier state. -/
def newPings (service earlier : Service) (id : ConnectionId) : List UInt64 :=
  (service.queues.queue id).pings.drop (earlier.queues.queue id).pings.length

end Service

structure Vigil where
  service : Service
  /-- What was noted of each connection, and when, the oldest first. -/
  signs : ConnectionId → List (Millis × Sign)

namespace Vigil

def initial (setup : Setup) : Vigil := ⟨.initial setup, fun _ => []⟩

def now (vigil : Vigil) : Millis := vigil.service.now

def undergo (setup : Setup) (vigil : Vigil) (occasion : Occasion) : Vigil :=
  let later := vigil.service.meet setup occasion
  let noted (id : ConnectionId) : List Sign :=
    (vigil.service.sign? id occasion).toList ++ (later.newPings vigil.service id).map .ping
  { service := later
    signs := fun id => vigil.signs id ++ (noted id).map (vigil.now, ·) }

def run (setup : Setup) (vigil : Vigil) (occasions : List Occasion) : Vigil :=
  occasions.foldl (undergo setup) vigil

@[simp] theorem run_nil (setup : Setup) (vigil : Vigil) : vigil.run setup [] = vigil := rfl

@[simp] theorem run_cons (setup : Setup) (vigil : Vigil) (occasion : Occasion)
    (occasions : List Occasion) :
    vigil.run setup (occasion :: occasions) = (vigil.undergo setup occasion).run setup occasions :=
  rfl

end Vigil

end WordGame
