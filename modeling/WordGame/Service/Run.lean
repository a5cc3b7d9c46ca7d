import WordGame.Server.Run
import WordGame.Server.Script
import WordGame.Service.Basic

/-!
Runs of a service: its sessions take their turns in any order, and each can be cut off wherever it
waits for something.

A client that goes away is a message to leave, after which its session is cut off.
-/

namespace WordGame

inductive Incident where
  | connect (account : Option PlayerId) (name : Option String) (invented : String)
  /-- A session reads a message, when it is done with the one before. -/
  | hear (id : ConnectionId) (message : ClientMessage)
  | advance (id : ConnectionId)
  /-- A session is cut off at the place of its errand with this number, and dropped. -/
  | cut (id : ConnectionId) (place : Nat)
  | depart (index : Nat)
  | amend (membership : Membership)
  /-- Time goes by, up to a moment, but not past an alarm that has yet to ring. -/
  | wait (moment : Millis)
  | ring
  | call (index : Nat)

namespace Service

/-- The pieces of an errand of a session. A pong is sent without any wait. -/
def script (setup : Setup) (service : Service) (session : Session) : Errand → Script
  | .join room =>
    let connection := session.connection
    service.server.joinScript setup.rules (service.objection connection room) connection room
  | .leave room =>
    service.server.leaveScript setup.rules (service.supply setup) session.connection room
  | .answer room text =>
    service.server.answerScript setup.rules (service.supply setup) room
      session.connection.identity.id text
  | .relay room text => Server.relayScript room session.connection.identity.id text
  | .pong _ => []

/-- What a session waits for, one after the other: for its client, or in the course of its errand. -/
def places (setup : Setup) (service : Service) (session : Session) : Script :=
  match session.errands with
  | [] => [.idle .client]
  | errand :: _ => service.script setup session errand

/-- Cuts a session off at one of the places where it waits. What comes before that is done. -/
def cut (setup : Setup) (service : Service) (id : ConnectionId) (place : Nat) : Service :=
  match service.sessions.get? id with
  | some session =>
    let script := service.places setup session
    if place < script.length then
      (service.enact (Script.run (script.take place) (.begin service.server))).drop id
    else service
  | none => service

def hear (service : Service) (id : ConnectionId) (message : ClientMessage) : Service :=
  match service.sessions.get? id with
  | some session =>
    if session.errands = [] then service.put (session.receive message) else service
  | none => service

def departNth (setup : Setup) (service : Service) (index : Nat) : Service :=
  match service.departures[index]? with
  | some (connection, room) =>
    { service with departures := service.departures.eraseIdx index }.leave setup connection room
  | none => service

def undergo (setup : Setup) (service : Service) : Incident → Service
  | .connect account name invented => (service.connect setup account name invented).2
  | .hear id message => service.hear id message
  | .advance id => service.advance setup id
  | .cut id place => service.cut setup id place
  | .depart index => service.departNth setup index
  | .amend membership => { service with membership := membership }
  | .wait moment => { service with server := service.server.wait moment }
  | .ring => { service with server := service.server.ringDue }
  | .call index => service.enact (service.server.callNth setup.rules (service.supply setup) index)

def runAll (setup : Setup) (service : Service) (incidents : List Incident) : Service :=
  incidents.foldl (undergo setup) service

@[simp] theorem runAll_nil (setup : Setup) (service : Service) : service.runAll setup [] = service :=
  rfl

@[simp] theorem runAll_cons (setup : Setup) (service : Service) (incident : Incident)
    (incidents : List Incident) :
    service.runAll setup (incident :: incidents) =
      (service.undergo setup incident).runAll setup incidents := rfl

end Service

end WordGame
