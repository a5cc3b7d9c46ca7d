import WordGame.Proofs.Game.Renaming
import WordGame.Proofs.Server.Site

/-!
What there is to see of one room: its state, its members and the record of its timers, the clock,
and what its timers call for, now or in time to come. Rooms that had the same number before can be
left out of it.
-/

namespace WordGame

namespace Callback

def room : Callback → RoomId
  | start room _ => room
  | expire room _ => room

def epoch : Callback → Epoch
  | start _ epoch => epoch
  | expire _ ticket => ticket.epoch

/-- Whether it was meant for a room that was founded under a number, from an epoch on. -/
def concerns (id : RoomId) (since : Epoch) (callback : Callback) : Bool :=
  callback.room = id ∧ since ≤ callback.epoch

theorem concerns_iff {id : RoomId} {since : Epoch} {callback : Callback} :
    callback.concerns id since = true ↔ callback.room = id ∧ since ≤ callback.epoch :=
  decide_eq_true_iff

def rename (names : Names) : Callback → Callback
  | start room epoch => start room (names.epoch epoch)
  | expire room ticket => expire room (ticket.rename names)

end Callback

def Alarm.rename (names : Names) (alarm : Alarm Callback) : Alarm Callback :=
  ⟨names.alarm alarm.id, alarm.deadline, alarm.call.rename names⟩

def Armed.rename (names : Names) (armed : Armed) : Armed :=
  ⟨names.alarm armed.id, armed.deadline⟩

def TurnTimer.rename (names : Names) (timer : TurnTimer) : TurnTimer :=
  ⟨names.turn timer.number, timer.armed.rename names⟩

def RoomTimers.rename (names : Names) (entry : RoomTimers) : RoomTimers :=
  ⟨entry.countdown.map (Armed.rename names), entry.turn.map (TurnTimer.rename names)⟩

def Site.rename (names : Names) (site : Site) : Site where
  room := site.room.map (Room.rename names)
  members := site.members
  timers := site.timers.rename names

def Timers.alarms (timers : Timers Callback) (id : RoomId) (since : Epoch) :
    List (Alarm Callback) :=
  timers.pending.filter fun alarm => alarm.call.concerns id since

structure View extends Site where
  now : Millis
  alarms : List (Alarm Callback)
  handed : List Callback

/-- What there is to see of a room that does not exist. -/
def View.bare (now : Millis) : View where
  room := none
  members := .empty
  timers := .none
  now := now
  alarms := []
  handed := []

def View.rename (names : Names) (view : View) : View where
  toSite := view.toSite.rename names
  now := view.now
  alarms := view.alarms.map (Alarm.rename names)
  handed := view.handed.map (Callback.rename names)

def Server.view (server : Server) (id : RoomId) (since : Epoch) : View where
  toSite := server.site id
  now := server.timers.now
  alarms := server.timers.alarms id since
  handed := server.handed.filter (Callback.concerns id since)

end WordGame
