/-!
The nouns of the game: rooms, players, the phases of a game and the ways a turn ends.
-/

namespace WordGame

abbrev RoomId := UInt64

abbrev PlayerId := UInt64

/-- Distinguishes a room from an earlier one that had the same number. -/
abbrev Epoch := Nat

abbrev ConnectionId := Nat

abbrev Millis := Nat

inductive Phase where
  | waiting
  | inProgress
  /-- The game is over; the room may linger for late announcements. -/
  | finished
  deriving DecidableEq, Repr

def Phase.name : Phase → String
  | .waiting => "WAITING"
  | .inProgress => "IN_PROGRESS"
  | .finished => "FINISHED"

/-- How a turn, or one attempt in it, ended. -/
inductive TurnEnd where
  | timeout
  | correctAnswer
  | wrongAnswer
  deriving DecidableEq, Repr

def TurnEnd.name : TurnEnd → String
  | .timeout => "timeout"
  | .correctAnswer => "correct_answer"
  | .wrongAnswer => "wrong_answer"

structure FinalScore where
  points : UInt32
  lives : UInt32
  deriving DecidableEq, Repr

end WordGame
