import WordGame.Game.Engine

/-!
Runs of rooms: any operations in any order.

The run of a single room takes the numbers of its turns as they come. In a hall of several rooms one
counter numbers the turns of them all. Both keep everything that was announced and every ticket that
was handed out, so that statements about whole games can be made of them.
-/

namespace WordGame

inductive Move where
  | add (player : PlayerId) (lives : UInt32)
  | start
  | advance
  | answer (player : PlayerId) (text : String)
  | expire (ticket : Ticket)
  | remove (player : PlayerId)
  | check

def Room.perform (rules : Rules) (supply : Supply) (room : Room) : Move → Play
  | .add player lives => Play.begin (room.addPlayer player lives).1
  | .start => room.start rules supply
  | .advance => room.advance rules supply
  | .answer player text => room.answer rules supply player text
  | .expire ticket => room.expire rules supply ticket
  | .remove player => room.remove rules supply player
  | .check => room.check

def Outcome.turnsAfter (outcome : Outcome) (turns : UInt64) : UInt64 :=
  match outcome.turn with
  | some ticket => ticket.number
  | none => turns

structure Course where
  room : Room
  messages : List ServerMessage
  tickets : List Ticket

namespace Course

def begin (room : Room) : Course := ⟨room, [], []⟩

def extend (course : Course) (play : Play) : Course where
  room := play.room
  messages := course.messages ++ play.outcome.messages
  tickets := course.tickets ++ play.outcome.turn.toList

def step (rules : Rules) (course : Course) (move : Move × Supply) : Course :=
  course.extend (course.room.perform rules move.2 move.1)

def run (rules : Rules) (course : Course) (moves : List (Move × Supply)) : Course :=
  moves.foldl (step rules) course

@[simp] theorem run_nil (rules : Rules) (course : Course) : course.run rules [] = course := rfl

@[simp] theorem run_cons (rules : Rules) (course : Course) (move : Move × Supply)
    (moves : List (Move × Supply)) :
    course.run rules (move :: moves) = (course.step rules move).run rules moves := rfl

theorem run_append (rules : Rules) (course : Course) (first second : List (Move × Supply)) :
    course.run rules (first ++ second) = (course.run rules first).run rules second :=
  List.foldl_append

end Course

structure Hall where
  courses : List Course
  turns : UInt64
  /-- How many turns were started; unlike their numbers it has no largest value. -/
  started : Nat

inductive HallMove where
  | found (id : RoomId) (epoch : Epoch) (founder : PlayerId) (lives : UInt32)
  | inRoom (position : Nat) (move : Move)

structure Engine where
  rules : Rules
  fragment : Nat → String

namespace Hall

def begin (turns : UInt64) : Hall := ⟨[], turns, 0⟩

def supply (hall : Hall) (engine : Engine) : Supply := ⟨hall.turns + 1, engine.fragment⟩

def found (hall : Hall) (room : Room) : Hall :=
  { hall with courses := hall.courses ++ [Course.begin room] }

def play (hall : Hall) (position : Nat) (course : Course) (play : Play) : Hall where
  courses := hall.courses.set position (course.extend play)
  turns := play.outcome.turnsAfter hall.turns
  started := hall.started + play.outcome.turn.toList.length

def step (hall : Hall) (move : HallMove × Engine) : Hall :=
  match move.1 with
  | .found id epoch founder lives => hall.found (Room.new id epoch founder lives)
  | .inRoom position inner =>
    match hall.courses[position]? with
    | some course =>
      hall.play position course (course.room.perform move.2.rules (hall.supply move.2) inner)
    | none => hall

def run (hall : Hall) (moves : List (HallMove × Engine)) : Hall := moves.foldl step hall

@[simp] theorem run_nil (hall : Hall) : hall.run [] = hall := rfl

@[simp] theorem run_cons (hall : Hall) (move : HallMove × Engine)
    (moves : List (HallMove × Engine)) :
    hall.run (move :: moves) = (hall.step move).run moves := rfl

theorem run_append (hall : Hall) (first second : List (HallMove × Engine)) :
    hall.run (first ++ second) = (hall.run first).run second :=
  List.foldl_append

end Hall

end WordGame
