import WordGame.Basic
import WordGame.Table
import WordGame.Json.Printer

/-!
The messages that the server sends, and their text: an object of the kind under `type` and the
fields, in the order of their declaration, under `payload`.
-/

namespace WordGame

inductive ServerMessage where
  | userJoined (room : RoomId) (player : PlayerId) (name : String)
  | userLeft (room : RoomId) (player : PlayerId) (name : String)
  | timerStarted (room : RoomId) (seconds : UInt64)
  | startGame (room : RoomId) (fragment : String) (round timeLimit : UInt32)
  | nextTurn (room : RoomId) (player : PlayerId) (fragment : String)
      (timeLimit round lives : UInt32)
  /-- The judgement of an answer; an accepted one comes with a new fragment. -/
  | answer (room : RoomId) (player : PlayerId) (correct : Bool) (word : String)
      (fragment : Option String) (score lives : UInt32)
  | turnEnded (room : RoomId) (player : PlayerId) (reason : TurnEnd)
      (livesLeft round score : UInt32)
  | gameOver (room : RoomId) (winner : PlayerId) (scores : Table String FinalScore)
  | typing (room : RoomId) (player : PlayerId) (text : String)
  | ping (timestamp : Int64) (id : UInt64)
  | pong (timestamp : Int64)
  deriving DecidableEq

def finalScoreKey (player : PlayerId) : String := "user_" ++ Decimal.write player.toNat

theorem finalScoreKey_injective {player other : PlayerId}
    (same : finalScoreKey player = finalScoreKey other) : player = other := by
  unfold finalScoreKey Decimal.write at same
  rw [String.ext_iff, String.toList_append, String.toList_append, List.append_cancel_left_eq,
    String.toList_ofList, String.toList_ofList] at same
  exact UInt64.toNat_inj.mp (Decimal.text_injective same)

namespace ServerMessage

open Json

def kind : ServerMessage → String
  | userJoined .. => "user_joined"
  | userLeft .. => "user_left"
  | timerStarted .. => "timer_started"
  | startGame .. => "start_game"
  | nextTurn .. => "next_turn"
  | answer .. => "answer"
  | turnEnded .. => "turn_ended"
  | gameOver .. => "game_over"
  | typing .. => "typing"
  | ping .. => "ping"
  | pong .. => "pong"

def natural (n : Nat) : Value := .number (.integer n)

def signed (n : Int64) : Value := .number (.integer n.toInt)

def standing (score : FinalScore) : Value :=
  .object [("points", natural score.points.toNat), ("lives", natural score.lives.toNat)]

def fields : ServerMessage → List (String × Value)
  | userJoined room player name =>
    [("room_id", natural room.toNat), ("user_id", natural player.toNat), ("user_name", .text name)]
  | userLeft room player name =>
    [("room_id", natural room.toNat), ("user_id", natural player.toNat), ("user_name", .text name)]
  | timerStarted room seconds =>
    [("room_id", natural room.toNat), ("duration", natural seconds.toNat)]
  | startGame room fragment round timeLimit =>
    [("room_id", natural room.toNat), ("char_set", .text fragment),
      ("round", natural round.toNat), ("time_limit", natural timeLimit.toNat)]
  | nextTurn room player fragment timeLimit round lives =>
    [("room_id", natural room.toNat), ("user_id", natural player.toNat),
      ("char_set", .text fragment), ("time_limit", natural timeLimit.toNat),
      ("round", natural round.toNat), ("lives", natural lives.toNat)]
  | answer room player correct word fragment score lives =>
    [("room_id", natural room.toNat), ("user_id", natural player.toNat),
      ("correct", .bool correct), ("answer", .text word)] ++
      (fragment.map (fun text => ("char_set", Value.text text))).toList ++
      [("score", natural score.toNat), ("lives", natural lives.toNat)]
  | turnEnded room player reason livesLeft round score =>
    [("room_id", natural room.toNat), ("user_id", natural player.toNat),
      ("reason", .text reason.name), ("lives_left", natural livesLeft.toNat),
      ("round", natural round.toNat), ("score", natural score.toNat)]
  | gameOver room winner scores =>
    [("room_id", natural room.toNat), ("winner_id", natural winner.toNat),
      ("final_scores",
        .object (scores.entries.map (fun entry => (entry.1, standing entry.2))))]
  | typing room player text =>
    [("room_id", natural room.toNat), ("user_id", natural player.toNat), ("text", .text text)]
  | ping timestamp id => [("timestamp", signed timestamp), ("ping_id", natural id.toNat)]
  | pong timestamp => [("timestamp", signed timestamp)]

def toValue (message : ServerMessage) : Value :=
  .object [("type", .text message.kind), ("payload", .object message.fields)]

def encode (message : ServerMessage) : String := message.toValue.render

end ServerMessage

end WordGame
