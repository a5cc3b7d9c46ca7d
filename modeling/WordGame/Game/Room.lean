import WordGame.Basic
import WordGame.Table

/-!
The state of one room.

`players` is the turn order. It only ever grows at its end, so a position in it stays valid when
somebody is eliminated or leaves.
-/

namespace WordGame

structure Room where
  id : RoomId
  epoch : Epoch
  founder : PlayerId
  players : List PlayerId
  lives : Table PlayerId UInt32
  points : Table PlayerId UInt32
  phase : Phase
  turnIndex : Nat
  /-- The number of the latest turn; it tells stale turn timers from the running one. -/
  turnNumber : UInt64
  fragment : String
  round : UInt32
  /-- The seconds that the running turn may take. -/
  timeLimit : UInt32
  winner : Option PlayerId
  deriving DecidableEq

namespace Room

def new (id : RoomId) (epoch : Epoch) (founder : PlayerId) (initialLives : UInt32) : Room where
  id := id
  epoch := epoch
  founder := founder
  players := [founder]
  lives := Table.empty.insert founder initialLives
  points := Table.empty.insert founder 0
  phase := .waiting
  turnIndex := 0
  turnNumber := 0
  fragment := ""
  round := 0
  timeLimit := 0
  winner := none

def started (room : Room) : Bool := room.phase = .inProgress

def livesOf (room : Room) (player : PlayerId) : UInt32 := room.lives.getD player 0

def pointsOf (room : Room) (player : PlayerId) : UInt32 := room.points.getD player 0

def isAlive (room : Room) (player : PlayerId) : Bool := 0 < room.livesOf player

def hasPlayer (room : Room) (player : PlayerId) : Bool := room.lives.contains player

def current? (room : Room) : Option PlayerId :=
  if room.started then room.players[room.turnIndex]? else none

def alive (room : Room) : List PlayerId := room.players.filter room.isAlive

def aliveCount (room : Room) : Nat := room.alive.length

def enrol (room : Room) (player : PlayerId) (initialLives : UInt32) : Room :=
  { room with
    players := room.players ++ [player]
    lives := room.lives.insert player initialLives
    points := room.points.insert player 0 }

def setLives (room : Room) (player : PlayerId) (lives : UInt32) : Room :=
  { room with lives := room.lives.insert player lives }

/-- Adds a player at the end of the turn order, and says whether they count as new: one who left
during the countdown is revived, anybody else who is there is left as they are. -/
def addPlayer (room : Room) (player : PlayerId) (initialLives : UInt32) : Room × Bool :=
  match room.lives.get? player with
  | some lives =>
    if room.phase = .waiting ∧ lives = 0 then (room.setLives player initialLives, true)
    else (room, false)
  | none => (room.enrol player initialLives, true)

def loseLife (room : Room) (player : PlayerId) : Room :=
  let left := room.livesOf player
  room.setLives player (if left = 0 then 0 else left - 1)

def score (room : Room) (player : PlayerId) : Room :=
  { room with points := room.points.insert player (room.pointsOf player + 1) }

def eliminate (room : Room) (player : PlayerId) : Room := room.setLives player 0

/-- The earliest of the players with the most points, beginning with a favourite. -/
def leader (room : Room) (favourite : PlayerId) : List PlayerId → PlayerId
  | [] => favourite
  | player :: rest =>
    leader room (if room.pointsOf favourite < room.pointsOf player then player else favourite) rest

/-- The player with the most points, the earliest in turn order of several, or the founder of a room
without players. -/
def topScorer (room : Room) : PlayerId :=
  match room.players with
  | [] => room.founder
  | first :: rest => room.leader first rest

def aliveAt? (room : Room) (index : Nat) : Option PlayerId :=
  match room.players[index]? with
  | some player => if room.isAlive player then some player else none
  | none => none

def firstAlive? (room : Room) (indices : List Nat) : Option (Nat × PlayerId) :=
  indices.findSome? fun index => (room.aliveAt? index).map fun player => (index, player)

/-- All positions, from the one after the running turn round to that one. -/
def cycle (room : Room) : List Nat :=
  (List.range room.players.length).map fun step =>
    (room.turnIndex + (step + 1)) % room.players.length

def next? (room : Room) : Option (Nat × PlayerId) := room.firstAlive? room.cycle

end Room

end WordGame
