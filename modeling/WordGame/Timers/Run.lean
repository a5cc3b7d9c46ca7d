import WordGame.Timers

/-!
The timers under any calls, and a record of what happened and when.

Alarms that are due at one moment ring in any order, with calls between them. No time goes by until
everything has rung that is due.
-/

namespace WordGame

namespace Timers

inductive Act (α : Type) where
  | startCountdown (room : RoomId) (span : Millis) (call : α)
  | stopCountdown (room : RoomId)
  | clearCountdown (room : RoomId)
  | scheduleTurn (room : RoomId) (number : UInt64) (span : Millis) (call : α)
  | stopTurn (room : RoomId)
  | clearTurn (room : RoomId) (number : UInt64)
  | cancelRoom (room : RoomId)
  /-- Time goes by, up to a moment, but not past anything that is due before. -/
  | wait (moment : Millis)
  | ring (index : Nat)
  deriving DecidableEq

inductive Effect (α : Type) where
  | nothing
  | set (id : Nat)
  | rang (id : Nat) (call : α)
  deriving DecidableEq

structure Note (α : Type) where
  moment : Millis
  act : Act α
  effect : Effect α
  deriving DecidableEq

variable {α : Type}

def Act.room? : Act α → Option RoomId
  | startCountdown room _ _ | stopCountdown room | clearCountdown room | scheduleTurn room _ _ _
  | stopTurn room | clearTurn room _ | cancelRoom room => some room
  | wait _ | ring _ => none

def horizon (timers : Timers α) (moment : Millis) : Millis :=
  match timers.next? with
  | some alarm => min moment alarm.deadline
  | none => moment

def act (timers : Timers α) : Act α → Effect α × Timers α
  | .startCountdown room span call =>
    (.set timers.count, timers.startCountdown room span call)
  | .stopCountdown room => (.nothing, timers.stopCountdown room)
  | .clearCountdown room => (.nothing, timers.clearCountdown room)
  | .scheduleTurn room number span call =>
    (if timers.isOutdated room number then .nothing else .set timers.count,
      timers.scheduleTurn room number span call)
  | .stopTurn room => (.nothing, timers.stopTurn room)
  | .clearTurn room number => (.nothing, timers.clearTurn room number)
  | .cancelRoom room => (.nothing, timers.cancelRoom room)
  | .wait moment => (.nothing, timers.wait (timers.horizon moment))
  | .ring index =>
    match timers.pending[index]? with
    | some alarm =>
      if alarm.deadline ≤ timers.now then (.rang alarm.id alarm.call, timers.ring alarm)
      else (.nothing, timers)
    | none => (.nothing, timers)

def after (timers : Timers α) (acts : List (Act α)) : Timers α :=
  acts.foldl (fun timers act => (timers.act act).2) timers

def notes : Timers α → List (Act α) → List (Note α)
  | _, [] => []
  | timers, act :: rest =>
    ⟨timers.now, act, (timers.act act).1⟩ :: (timers.act act).2.notes rest

/-! ### What a note tells -/

inductive Post where
  | countdown
  | turn (number : UInt64)
  deriving DecidableEq

structure Setting (α : Type) where
  id : Nat
  room : RoomId
  post : Post
  moment : Millis
  span : Millis
  call : α
  deriving DecidableEq

def Setting.deadline (setting : Setting α) : Millis := setting.moment + min setting.span maxSpan

structure Ringing (α : Type) where
  moment : Millis
  id : Nat
  call : α
  deriving DecidableEq

namespace Note

def setting? (note : Note α) : Option (Setting α) :=
  match note.effect, note.act with
  | .set id, .startCountdown room span call => some ⟨id, room, .countdown, note.moment, span, call⟩
  | .set id, .scheduleTurn room number span call =>
    some ⟨id, room, .turn number, note.moment, span, call⟩
  | _, _ => none

def ringing? (note : Note α) : Option (Ringing α) :=
  match note.effect with
  | .rang id call => some ⟨note.moment, id, call⟩
  | _ => none

/-- What is recorded for the room at the post is stopped, replaced or cancelled. -/
def revokes (note : Note α) (room : RoomId) (post : Post) : Bool :=
  match note.act, post with
  | .startCountdown own _ _, .countdown | .stopCountdown own, .countdown | .stopTurn own, .turn _
  | .cancelRoom own, _ => own = room
  | .scheduleTurn own _ _ _, .turn _ => own = room && note.setting?.isSome
  | _, _ => false

def clears (note : Note α) (room : RoomId) (post : Post) : Bool :=
  match note.act, post with
  | .clearCountdown own, .countdown => own = room
  | .clearTurn own number, .turn recorded => own = room && number = recorded
  | _, _ => false

end Note

def settings (notes : List (Note α)) : List (Setting α) := notes.filterMap Note.setting?

def ringings (notes : List (Note α)) : List (Ringing α) := notes.filterMap Note.ringing?

end Timers

end WordGame
