import WordGame.Service.Basic

/-!
A service in the course of time: its sockets, and what happens when the clock is put forward.

Each socket writes what is queued for its connection, and each sends pings at regular intervals. A
connection whose pong is overdue is ended, and one whose writer was told to close is cut off.
-/

namespace WordGame

inductive Beat where
  | alarm (alarm : Alarm Callback)
  | pulse (id : ConnectionId) (pulse : Pulse)

namespace Service

/-- Opens a socket for a new connection. Without an interval between its pings it is cut off. -/
def accept (setup : Setup) (service : Service) (account : Option PlayerId) (name : Option String)
    (invented : String) : Connection × Service :=
  let (connection, later) := service.connect setup account name invented
  let opened := { later with sockets := later.sockets.insert connection.id ⟨true, []⟩ }
  (connection, if setup.pingInterval = 0 then opened.drop connection.id else opened)

def untilClose : List Outbound → List Outbound × Bool
  | [] => ([], false)
  | .close :: _ => ([.close], true)
  | .message message :: rest =>
    let (items, closed) := untilClose rest
    (.message message :: items, closed)

/-- Lets the writer of a socket write what is queued. It stops at the order to close, and its
connection is cut off. -/
def write (service : Service) (id : ConnectionId) (socket : Socket) : Service :=
  if socket.writing then
    let queue := service.queues.queue id
    let (items, closed) := untilClose queue.backlog
    let socket := { socket with writing := !closed, written := socket.written ++ items }
    let later :=
      { service with
        queues := service.queues.insert id (if closed then queue.desert else queue.drained)
        sockets := service.sockets.insert id socket }
    if closed then later.drop id else later
  else service

def settleOnce (setup : Setup) (service : Service) : Service :=
  let gone := service.depart setup
  gone.sockets.entries.foldl (fun later entry => later.write entry.1 entry.2) gone

def settleBy (setup : Setup) (service : Service) : Nat → Service
  | 0 => service
  | n + 1 => (service.settleOnce setup).settleBy setup n

/-- Settles until nothing is left to depart or to be written. Each time but the last cuts a
session off, so their number is enough. -/
def settle (setup : Setup) (service : Service) : Service :=
  service.settleBy setup (service.sessions.size + 2)

def pulse? (service : Service) (id : ConnectionId) : Option (Millis × Beat) :=
  (service.sessions.get? id).map fun session =>
    let (moment, pulse) := session.heartbeat.next
    (moment, .pulse id pulse)

def beats (service : Service) : List (Millis × Beat) :=
  (service.server.timers.next?.map fun alarm => (alarm.deadline, Beat.alarm alarm)).toList ++
    service.sockets.keys.filterMap service.pulse?

/-- The earlier of two, the first of two at the same moment. -/
def earlier (first second : Millis × Beat) : Millis × Beat :=
  if second.1 < first.1 then second else first

def next? (service : Service) : Option (Millis × Beat) :=
  match service.beats with
  | [] => none
  | first :: rest => some (rest.foldl earlier first)

def wait (service : Service) (moment : Millis) : Service :=
  { service with
    server := { service.server with timers := service.server.timers.wait moment } }

/-- Sends a ping. If it cannot be queued, the connection is ended. -/
def ping (setup : Setup) (service : Service) (id : ConnectionId) (timestamp : Int64) : Service :=
  match service.sessions.get? id with
  | some session =>
    let (number, heartbeat) := session.heartbeat.ping service.now
    let delivery : Delivery := ⟨id, .message (.ping timestamp number)⟩
    let sent := (service.put { session with heartbeat := heartbeat }).deliver [delivery]
    if service.queues.accepts delivery then sent else sent.finish setup id
  | none => service

def happen (setup : Setup) (service : Service) : Beat → Service
  | .alarm alarm => { service with server := service.server.ring alarm }.callAll setup
  | .pulse id .ping => service.ping setup id (setup.wallClock service.now)
  | .pulse id .missed => service.finish setup id

/-- Puts the clock forward to a moment and lets everything happen that is due by then, at most as
often as the fuel says. -/
def elapseWithin (setup : Setup) (service : Service) (moment : Millis) : Nat → Service
  | 0 => service.wait moment
  | fuel + 1 =>
    let settled := service.settle setup
    match settled.next? with
    | some (due, beat) =>
      if due ≤ moment then
        ((settled.wait due).happen setup beat).elapseWithin setup moment fuel
      else settled.wait moment
    | none => settled.wait moment

def livesIn (room : Room) : Nat :=
  room.lives.values.foldl (fun total lives => total + lives.toNat) 0

/-- A number of beats that is not exceeded on the way to a moment: a countdown rings once, every
turn that runs out takes a life, and a socket beats at regular intervals. -/
def beatLimit (setup : Setup) (service : Service) (moment : Millis) : Nat :=
  let turns :=
    service.server.store.rooms.values.foldl (fun total room => total + livesIn room + 1) 0
  let alarms := service.server.timers.pending.length + turns
  let pings := (moment - service.now) / setup.pingInterval + 3
  2 * (alarms + service.sockets.size * pings) + 2

def elapse (setup : Setup) (service : Service) (moment : Millis) : Service :=
  service.elapseWithin setup moment (service.beatLimit setup moment)

end Service

end WordGame
