import WordGame.Connection.Queue
import WordGame.Identity

/-!
Which connection speaks for which player in which room.

A player has at most one connection in a room; a new one takes the place of the old one, which is
closed. A room is listed as long as it has connections, and has no more of them than the capacity.
-/

namespace WordGame

structure Connection where
  id : ConnectionId
  identity : Identity
  deriving DecidableEq, Repr

structure Delivery where
  receiver : ConnectionId
  item : Outbound
  deriving DecidableEq

structure Registry where
  capacity : Nat
  rooms : Table RoomId (Table PlayerId Connection)
  deriving DecidableEq

structure RoomFull where
  room : RoomId
  capacity : Nat
  deriving DecidableEq, Repr

def RoomFull.message (full : RoomFull) : String :=
  "room " ++ Decimal.write full.room.toNat ++ " is full (" ++ Decimal.write full.capacity ++
    " connections)"

inductive Registration where
  | added
  /-- It took the place of a connection of the same player. -/
  | replaced (previous : ConnectionId)
  deriving DecidableEq, Repr

/-- The order to close the connection that was displaced, if it is another one. -/
def Registration.closing (registration : Registration) (connection : Connection) :
    List Delivery :=
  match registration with
  | .added => []
  | .replaced previous => if previous = connection.id then [] else [⟨previous, .close⟩]

namespace Registry

def initial (capacity : Nat) : Registry := ⟨capacity, .empty⟩

def members (registry : Registry) (room : RoomId) : Table PlayerId Connection :=
  registry.rooms.getD room .empty

def list (registry : Registry) (room : RoomId) (members : Table PlayerId Connection) : Registry :=
  { registry with
    rooms :=
      if members.isEmpty then registry.rooms.erase room else registry.rooms.insert room members }

def connection? (registry : Registry) (room : RoomId) (player : PlayerId) : Option Connection :=
  (registry.members room).get? player

def contains (registry : Registry) (room : RoomId) (player : PlayerId) : Bool :=
  (registry.connection? room player).isSome

def count (registry : Registry) (room : RoomId) : Nat := (registry.members room).size

def holds (registry : Registry) (id : ConnectionId) : Bool :=
  registry.rooms.values.any fun members => members.values.any fun connection => connection.id = id

/-- Lets a connection into a room. Only players without a connection there need a free place. -/
def register (registry : Registry) (room : RoomId) (connection : Connection) :
    Except RoomFull (Registration × Registry) :=
  let members := registry.members room
  let player := connection.identity.id
  let later := registry.list room (members.insert player connection)
  match members.get? player with
  | some previous => .ok (.replaced previous.id, later)
  | none =>
    if registry.capacity ≤ members.size then .error ⟨room, registry.capacity⟩
    else .ok (.added, later)

/-- Takes a connection out of a room, and says how many are left. A connection that was replaced
takes nothing out. -/
def unregister (registry : Registry) (room : RoomId) (player : PlayerId) (id : ConnectionId) :
    Option (Nat × Registry) :=
  let members := registry.members room
  if (members.get? player).map Connection.id = some id then
    let left := members.erase player
    some (left.size, registry.list room left)
  else none

def broadcast (registry : Registry) (room : RoomId) (message : ServerMessage) : List Delivery :=
  (registry.members room).values.map fun connection => ⟨connection.id, .message message⟩

theorem members_list (registry : Registry) (room query : RoomId)
    (members : Table PlayerId Connection) :
    (registry.list room members).members query =
      if query = room then members else registry.members query := by
  unfold list Registry.members
  dsimp only
  split
  · rename_i empty
    rw [Table.getD_erase, Table.eq_empty_of_isEmpty empty]
  · rw [Table.getD_insert]

end Registry

end WordGame
