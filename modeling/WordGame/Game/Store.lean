import WordGame.Game.Room

/-!
The rooms that exist, by their numbers. Every new room gets an epoch of its own, so a room is never
mistaken for an earlier one of the same number.
-/

namespace WordGame

structure RoomStore where
  rooms : Table RoomId Room
  epochs : Epoch
  deriving DecidableEq

inductive Arrival where
  | founded (epoch : Epoch)
  /-- The player is new, or new again. -/
  | added
  | alreadyPresent
  deriving DecidableEq, Repr

namespace RoomStore

def initial : RoomStore := ⟨.empty, 0⟩

def get? (store : RoomStore) (id : RoomId) : Option Room := store.rooms.get? id

def put (store : RoomStore) (id : RoomId) (room : Room) : RoomStore :=
  { store with rooms := store.rooms.insert id room }

/-- Founds a room, in the place of an earlier one if there is one. -/
def create (store : RoomStore) (id : RoomId) (founder : PlayerId) (initialLives : UInt32) :
    Room × RoomStore :=
  let room := Room.new id store.epochs founder initialLives
  (room, ⟨store.rooms.insert id room, store.epochs + 1⟩)

def remove (store : RoomStore) (id : RoomId) : RoomStore :=
  { store with rooms := store.rooms.erase id }

def add (store : RoomStore) (id : RoomId) (player : PlayerId) (initialLives : UInt32) :
    Bool × RoomStore :=
  match store.get? id with
  | some room =>
    let (later, isNew) := room.addPlayer player initialLives
    (isNew, store.put id later)
  | none => (false, store)

def join (store : RoomStore) (id : RoomId) (player : PlayerId) (initialLives : UInt32) :
    Arrival × RoomStore :=
  match store.get? id with
  | some _ =>
    let (isNew, later) := store.add id player initialLives
    (if isNew then .added else .alreadyPresent, later)
  | none =>
    let (room, later) := store.create id player initialLives
    (.founded room.epoch, later)

theorem get?_put (store : RoomStore) (id query : RoomId) (room : Room) :
    (store.put id room).get? query = if query = id then some room else store.get? query :=
  Table.get?_insert store.rooms id query room

theorem get?_remove (store : RoomStore) (id query : RoomId) :
    (store.remove id).get? query = if query = id then none else store.get? query :=
  Table.get?_erase store.rooms id query

theorem get?_create (store : RoomStore) (id query : RoomId) (founder : PlayerId)
    (initialLives : UInt32) :
    (store.create id founder initialLives).2.get? query =
      if query = id then some (Room.new id store.epochs founder initialLives)
      else store.get? query :=
  Table.get?_insert store.rooms id query _

end RoomStore

end WordGame
