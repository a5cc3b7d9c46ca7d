import WordGame.Basic
import WordGame.Table

/-!
The timers of rooms: one countdown and one turn timer each, and the clock that they run by.

An alarm rings once, when its deadline has come, unless it was disarmed before. What is recorded for
a room is a different matter: it stays after the alarm has rung, until it is cleared, and clearing
it does not disarm the alarm. Its deadline differs from that of the alarm, too, where more time was
asked for than an alarm can wait.
-/

namespace WordGame

structure Alarm (α : Type) where
  id : Nat
  deadline : Millis
  call : α
  deriving DecidableEq, Repr

structure Armed where
  id : Nat
  deadline : Millis
  deriving DecidableEq, Repr

structure TurnTimer where
  number : UInt64
  armed : Armed
  deriving DecidableEq, Repr

structure RoomTimers where
  countdown : Option Armed
  turn : Option TurnTimer
  deriving DecidableEq, Repr

def RoomTimers.none : RoomTimers := ⟨.none, .none⟩

def RoomTimers.isEmpty (entry : RoomTimers) : Bool := entry.countdown.isNone && entry.turn.isNone

theorem RoomTimers.eq_none_of_isEmpty {entry : RoomTimers} (empty : entry.isEmpty = true) :
    entry = .none := by
  obtain ⟨countdown, turn⟩ := entry
  cases countdown with
  | none =>
    cases turn with
    | none => rfl
    | some timer => cases empty
  | some armed => cases empty

structure Timers (α : Type) where
  now : Millis
  recorded : Table RoomId RoomTimers
  pending : List (Alarm α)
  count : Nat

namespace Timers

variable {α : Type}

def initial : Timers α := ⟨0, .empty, [], 0⟩

def entry (timers : Timers α) (room : RoomId) : RoomTimers := timers.recorded.getD room .none

def record (timers : Timers α) (room : RoomId) (entry : RoomTimers) : Timers α :=
  { timers with
    recorded :=
      if entry.isEmpty then timers.recorded.erase room else timers.recorded.insert room entry }

def hasTimers (timers : Timers α) (room : RoomId) : Bool := timers.recorded.contains room

/-- The longest time to the ringing of an alarm: thirty years of 365 days. -/
def maxSpan : Millis := 30 * 365 * 24 * 60 * 60 * 1000

/-- Sets an alarm. One for a moment beyond the longest span rings at the end of that span, and its
record keeps the moment that was asked for. No moment is the last here; on a machine one is, and a
countdown of about 2^63 seconds, which the settings admit, cannot be started there. -/
def arm (timers : Timers α) (span : Millis) (call : α) : Armed × Timers α :=
  (⟨timers.count, timers.now + span⟩,
    { timers with
      pending := timers.pending ++ [⟨timers.count, timers.now + min span maxSpan, call⟩]
      count := timers.count + 1 })

def disarm (timers : Timers α) (armed : Armed) : Timers α :=
  { timers with pending := timers.pending.filter (·.id ≠ armed.id) }

def disarmAll (timers : Timers α) (armed : List Armed) : Timers α := armed.foldl disarm timers

def startCountdown (timers : Timers α) (room : RoomId) (span : Millis) (call : α) : Timers α :=
  let entry := timers.entry room
  let (armed, later) := timers.arm span call
  (later.disarmAll entry.countdown.toList).record room { entry with countdown := some armed }

def stopCountdown (timers : Timers α) (room : RoomId) : Timers α :=
  let entry := timers.entry room
  (timers.disarmAll entry.countdown.toList).record room { entry with countdown := none }

/-- Forgets a countdown without disarming it. -/
def clearCountdown (timers : Timers α) (room : RoomId) : Timers α :=
  timers.record room { timers.entry room with countdown := none }

/-- The whole seconds that are left of the countdown of a room, zero without one. -/
def remaining (timers : Timers α) (room : RoomId) : Nat :=
  match (timers.entry room).countdown with
  | some armed => (armed.deadline - timers.now) / 1000
  | none => 0

/-- Whether a timer for the given turn is too late: one for that turn or a newer one is recorded. -/
def isOutdated (timers : Timers α) (room : RoomId) (number : UInt64) : Bool :=
  match (timers.entry room).turn with
  | some running => number ≤ running.number
  | none => false

/-- Sets the timer of a turn, in place of the timer of an older turn. -/
def scheduleTurn (timers : Timers α) (room : RoomId) (number : UInt64) (span : Millis)
    (call : α) : Timers α :=
  if timers.isOutdated room number then timers
  else
    let entry := timers.entry room
    let (armed, later) := timers.arm span call
    (later.disarmAll (entry.turn.map TurnTimer.armed).toList).record room
      { entry with turn := some ⟨number, armed⟩ }

def stopTurn (timers : Timers α) (room : RoomId) : Timers α :=
  let entry := timers.entry room
  (timers.disarmAll (entry.turn.map TurnTimer.armed).toList).record room { entry with turn := none }

def clearTurn (timers : Timers α) (room : RoomId) (number : UInt64) : Timers α :=
  let entry := timers.entry room
  if entry.turn.map TurnTimer.number = some number then
    timers.record room { entry with turn := none }
  else timers

def cancelRoom (timers : Timers α) (room : RoomId) : Timers α :=
  let entry := timers.entry room
  (timers.disarmAll (entry.countdown.toList ++ (entry.turn.map TurnTimer.armed).toList)).record room
    .none

/-- The earlier of two alarms, the first of two with one deadline. -/
def earlier (first second : Alarm α) : Alarm α :=
  if second.deadline < first.deadline then second else first

def next? (timers : Timers α) : Option (Alarm α) :=
  match timers.pending with
  | [] => none
  | first :: rest => some (rest.foldl earlier first)

/-- Lets an alarm ring: the clock is put forward to its deadline, and it no longer pends. -/
def ring (timers : Timers α) (alarm : Alarm α) : Timers α :=
  { timers with
    now := max timers.now alarm.deadline
    pending := timers.pending.filter (·.id ≠ alarm.id) }

def wait (timers : Timers α) (moment : Millis) : Timers α :=
  { timers with now := max timers.now moment }

/-- Puts the clock forward to a moment and lets everything ring that is due by then, at most as
often as the fuel says; what rang, and when. -/
def elapseWithin (timers : Timers α) (moment : Millis) : Nat → List (Millis × α) × Timers α
  | 0 => ([], timers.wait moment)
  | fuel + 1 =>
    match timers.next? with
    | some alarm =>
      if alarm.deadline ≤ moment then
        let rung := timers.ring alarm
        let (later, final) := rung.elapseWithin moment fuel
        ((rung.now, alarm.call) :: later, final)
      else ([], timers.wait moment)
    | none => ([], timers.wait moment)

def elapse (timers : Timers α) (moment : Millis) : List (Millis × α) × Timers α :=
  timers.elapseWithin moment timers.pending.length

theorem entry_record (timers : Timers α) (room query : RoomId) (entry : RoomTimers) :
    (timers.record room entry).entry query =
      if query = room then entry else timers.entry query := by
  unfold record Timers.entry
  split
  · rename_i empty
    rw [Table.getD_erase, RoomTimers.eq_none_of_isEmpty empty]
  · rw [Table.getD_insert]

theorem hasTimers_record (timers : Timers α) (room query : RoomId) (entry : RoomTimers) :
    (timers.record room entry).hasTimers query =
      if query = room then !entry.isEmpty else timers.hasTimers query := by
  unfold record hasTimers Table.contains
  split
  · rename_i empty
    rw [Table.get?_erase, empty]
    split
    · rfl
    · rfl
  · rename_i present
    rw [Table.get?_insert]
    split
    · simp [present]
    · rfl

end Timers

end WordGame
