import WordGame.Server.Gate

/-!
Runs of a server: transactions in any order, with the clock that its timers run by.

A run keeps everything that was delivered, and counts the turns that were started. What rang timers
called for may be done at any later moment, and in any order.
-/

namespace WordGame

inductive Occurrence where
  /-- A request to join, with what those who keep the records object to it. -/
  | join (connection : Connection) (room : RoomId) (objection : Option Refusal)
  | leave (connection : Connection) (room : RoomId)
  | answer (room : RoomId) (player : PlayerId) (text : String)
  | relay (room : RoomId) (player : PlayerId) (text : String)
  /-- Time goes by, up to a moment, but not past an alarm that has yet to ring. -/
  | wait (moment : Millis)
  | ring
  /-- One of the things that rang timers called for is done. -/
  | call (index : Nat)

namespace Server

def horizon (server : Server) (moment : Millis) : Millis :=
  match server.timers.next? with
  | some alarm => min moment alarm.deadline
  | none => moment

def wait (server : Server) (moment : Millis) : Server :=
  { server with timers := server.timers.wait (server.horizon moment) }

def ringDue (server : Server) : Server :=
  match server.timers.next? with
  | some alarm => if alarm.deadline ≤ server.timers.now then server.ring alarm else server
  | none => server

def undergo (rules : Rules) (fragment : Nat → String) (server : Server) : Occurrence → Transaction
  | .join connection room objection =>
    match server.join rules objection connection room with
    | .ok admission => admission.transaction
    | .error _ => .begin server
  | .leave connection room => (server.leave rules fragment connection room).getD (.begin server)
  | .answer room player text => server.answer rules fragment room player text
  | .relay room player text => ⟨server, server.relay room player text, 0⟩
  | .wait moment => .begin (server.wait moment)
  | .ring => .begin server.ringDue
  | .call index => server.callNth rules fragment index

end Server

structure Chronicle where
  server : Server
  deliveries : List Delivery
  /-- How many turns were started; unlike their numbers it has no largest value. -/
  started : Nat

namespace Chronicle

def begin (server : Server) : Chronicle := ⟨server, [], 0⟩

def step (rules : Rules) (chronicle : Chronicle) (occurrence : Occurrence × (Nat → String)) :
    Chronicle :=
  let transaction := chronicle.server.undergo rules occurrence.2 occurrence.1
  { server := transaction.server
    deliveries := chronicle.deliveries ++ transaction.deliveries
    started :=
      chronicle.started + if transaction.server.turns = chronicle.server.turns then 0 else 1 }

def run (rules : Rules) (chronicle : Chronicle)
    (occurrences : List (Occurrence × (Nat → String))) : Chronicle :=
  occurrences.foldl (step rules) chronicle

@[simp] theorem run_nil (rules : Rules) (chronicle : Chronicle) :
    chronicle.run rules [] = chronicle := rfl

@[simp] theorem run_cons (rules : Rules) (chronicle : Chronicle)
    (occurrence : Occurrence × (Nat → String)) (occurrences : List (Occurrence × (Nat → String))) :
    chronicle.run rules (occurrence :: occurrences) =
      (chronicle.step rules occurrence).run rules occurrences := rfl

theorem run_append (rules : Rules) (chronicle : Chronicle)
    (first second : List (Occurrence × (Nat → String))) :
    chronicle.run rules (first ++ second) = (chronicle.run rules first).run rules second :=
  List.foldl_append

end Chronicle

end WordGame
