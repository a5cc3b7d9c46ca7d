import WordGame.Connection.Ledger
import WordGame.Service.Basic

/-!
A join in the order of its steps.

Those who keep the records are asked before anything is touched. Then the registration is done step
by step: the room is listed before anybody asks for a free place. Whoever is refused has come so far,
and what was changed until then is part of the state that is returned.
-/

namespace WordGame

/-- Lets a connection into a room, and says whether that founded the room, or why it was refused. -/
def Server.attempt (rules : Rules) (objection : Option Refusal) (server : Server)
    (connection : Connection) (room : RoomId) : Except JoinError Bool × Transaction :=
  match objection with
  | some refusal => (.error (.refused refusal), .begin server)
  | none =>
    let (result, registry) := server.registry.letIn room connection
    let registered : Server := { server with registry := registry }
    match result with
    | .error full => (.error (.full full), .begin registered)
    | .ok registration =>
      let (arrival, store) :=
        registered.store.join room connection.identity.id rules.config.initialLives
      let entered : Transaction :=
        ⟨{ registered with store := store }, registration.closing connection, 0⟩
      let greeted := greet rules entered connection room arrival
      (.ok (arrival matches .founded _), announce greeted connection room registration)

def Service.attempt (setup : Setup) (service : Service) (connection : Connection) (room : RoomId) :
    Except JoinError Bool × Service :=
  let (result, transaction) :=
    service.server.attempt setup.rules (service.objection connection room) connection room
  (result, service.enact transaction)

end WordGame
