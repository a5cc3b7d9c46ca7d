import WordGame.Connection.Registry

/-!
The calls of a registry, one after the other, and a record of what came of each.

A registration is done here in the order of its steps: the room is listed before anybody asks for a
free place, and is struck again if there is none and nobody else is there.
-/

namespace WordGame

namespace Registry

def letIn (registry : Registry) (room : RoomId) (connection : Connection) :
    Except RoomFull Registration × Registry :=
  let members := registry.members room
  let player := connection.identity.id
  let listed := registry.rooms.insert room members
  if !members.contains player && decide (registry.capacity ≤ members.size) then
    (.error ⟨room, registry.capacity⟩,
      { registry with rooms := if members.isEmpty then listed.erase room else listed })
  else
    (match members.get? player with
      | some previous => .ok (.replaced previous.id)
      | none => .ok .added,
      { registry with rooms := listed.insert room (members.insert player connection) })

def dismiss (registry : Registry) (room : RoomId) (player : PlayerId) (id : ConnectionId) :
    Option Nat × Registry :=
  match registry.rooms.get? room with
  | none => (none, registry)
  | some members =>
    if (members.get? player).map Connection.id = some id then
      let left := members.erase player
      (some left.size,
        { registry with
          rooms :=
            if left.size = 0 then registry.rooms.erase room
            else registry.rooms.insert room left })
    else (none, registry)

inductive Call where
  | register (room : RoomId) (connection : Connection)
  | unregister (room : RoomId) (player : PlayerId) (id : ConnectionId)
  deriving DecidableEq

inductive Answer where
  | registered (result : Except RoomFull Registration)
  | unregistered (left : Option Nat)

/-- A call, what came of it, and the orders that went out with it. -/
structure Record where
  call : Call
  answer : Answer
  orders : List Delivery

def serve (registry : Registry) : Call → Record × Registry
  | .register room connection =>
    let (result, later) := registry.letIn room connection
    let orders :=
      match result with
      | .ok registration => registration.closing connection
      | .error _ => []
    (⟨.register room connection, .registered result, orders⟩, later)
  | .unregister room player id =>
    let (left, later) := registry.dismiss room player id
    (⟨.unregister room player id, .unregistered left, []⟩, later)

def serveAll (registry : Registry) (calls : List Call) : Registry :=
  calls.foldl (fun registry call => (registry.serve call).2) registry

def records : Registry → List Call → List Record
  | _, [] => []
  | registry, call :: rest => (registry.serve call).1 :: (registry.serve call).2.records rest

end Registry

end WordGame
