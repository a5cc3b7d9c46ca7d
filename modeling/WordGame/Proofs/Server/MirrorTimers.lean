import WordGame.Proofs.Server.Naming

/-!
Two servers with the same room under different names. What happens in the room on both of them keeps
it the same, and the same is told of it.
-/

namespace WordGame

theorem Alarm.spared_rename {names : Names} (ascending : StrictMono names.alarm)
    (taken : List Armed) (alarm : Alarm Callback) :
    (alarm.rename names).spared (taken.map (Armed.rename names)) = alarm.spared taken := by
  have apart (armed : Armed) :
      decide ((alarm.rename names).id ≠ (armed.rename names).id) = decide (alarm.id ≠ armed.id) :=
    decide_eq_decide.mpr (not_congr ascending.injective.eq_iff)
  unfold spared
  rw [List.all_map]
  exact congrArg taken.all (funext apart)

namespace RoomTimers

variable (names : Names) (entry : RoomTimers)

theorem countdown_rename :
    (entry.rename names).countdown.toList = entry.countdown.toList.map (Armed.rename names) := by
  obtain ⟨countdown, turn⟩ := entry
  cases countdown with
  | none => rfl
  | some armed => rfl

theorem turn_rename :
    ((entry.rename names).turn.map TurnTimer.armed).toList =
      (entry.turn.map TurnTimer.armed).toList.map (Armed.rename names) := by
  obtain ⟨countdown, turn⟩ := entry
  cases turn with
  | none => rfl
  | some timer => rfl

theorem armed_rename :
    (entry.rename names).armed = entry.armed.map (Armed.rename names) := by
  unfold armed
  rw [countdown_rename, turn_rename, List.map_append]

end RoomTimers

theorem Callback.room_rename (names : Names) (callback : Callback) :
    (callback.rename names).room = callback.room := by
  cases callback with
  | start => rfl
  | expire => rfl

namespace Timers

structure Mirrors (names : Names) (id : RoomId) (since : Epoch) (one other : Timers Callback) :
    Prop where
  now : one.now = other.now
  entry : one.entry id = (other.entry id).rename names
  alarms : one.alarms id since = (other.alarms id 0).map (Alarm.rename names)
  lead : ∀ more, names.alarm (other.count + more) = one.count + more

variable {names : Names} {id : RoomId} {since : Epoch}
  {timers one other later last : Timers Callback}
  {taken : List Armed} {added : List (Alarm Callback)} {record : RoomTimers}

theorem Amends.alarms (amends : timers.Amends id taken added record later)
    (concerned : ∀ alarm ∈ added, alarm.call.concerns id since = true) :
    later.alarms id since = (timers.alarms id since ++ added).filter (Alarm.spared taken) := by
  unfold Timers.alarms
  rw [amends.pending, List.filter_filter, List.filter_congr fun _ _ => Bool.and_comm _ _,
    ← List.filter_filter, List.filter_append, List.filter_eq_self.mpr concerned]

theorem Mirrors.count (mirrors : one.Mirrors names id since other) :
    one.count = names.alarm other.count :=
  (mirrors.lead 0).symm

theorem Mirrors.amended {back : List Armed} {new : List (Alarm Callback)} {entry : RoomTimers}
    (mirrors : one.Mirrors names id since other) (ascending : StrictMono names.alarm)
    (first : one.Amends id back new entry later)
    (second : other.Amends id taken added record last)
    (sameTaken : back = taken.map (Armed.rename names))
    (sameAdded : new = added.map (Alarm.rename names))
    (sameRecord : entry = record.rename names)
    (concerned : ∀ alarm ∈ added, since ≤ (alarm.call.rename names).epoch) :
    later.Mirrors names id since last := by
  subst sameTaken sameAdded sameRecord
  have here : ∀ alarm ∈ added, alarm.call.room = id := fun _ member => (second.of_added member).2.1
  constructor
  · rw [first.now, second.now, mirrors.now]
  · rw [first.entry, second.entry, if_pos rfl, if_pos rfl]
  · rw [first.alarms, second.alarms, mirrors.alarms, ← List.map_append, List.filter_map]
    · congr 2
      funext alarm
      exact alarm.spared_rename ascending taken
    · intro alarm member
      exact Callback.concerns_iff.mpr ⟨here alarm member, Nat.zero_le _⟩
    · intro alarm member
      obtain ⟨before, isAdded, rfl⟩ := List.mem_map.mp member
      refine Callback.concerns_iff.mpr ⟨?_, concerned before isAdded⟩
      exact (before.call.room_rename names).trans (here before isAdded)
  · intro more
    rw [first.count, second.count, List.length_map, Nat.add_assoc, Nat.add_assoc]
    exact mirrors.lead _

theorem Mirrors.alarm (mirrors : one.Mirrors names id since other) (span : Millis)
    (call : Callback) :
    one.alarm span (call.rename names) = (other.alarm span call).rename names := by
  unfold Timers.alarm
  rw [mirrors.count, mirrors.now]
  rfl

theorem Mirrors.startCountdown (mirrors : one.Mirrors names id since other)
    (ascending : StrictMono names.alarm) (span : Millis) {epoch : Epoch}
    (concerned : since ≤ names.epoch epoch) :
    (one.startCountdown id span (.start id (names.epoch epoch))).Mirrors names id since
      (other.startCountdown id span (.start id epoch)) := by
  refine mirrors.amended ascending (one.startCountdown_amends id span _ rfl)
    (other.startCountdown_amends id span _ rfl) ?_ ?_ ?_ ?_
  · rw [mirrors.entry, RoomTimers.countdown_rename]
  · exact congrArg (fun alarm => [alarm]) (mirrors.alarm span (.start id epoch))
  · rw [mirrors.entry, mirrors.count, mirrors.now]
    rfl
  · intro alarm member
    rw [List.mem_singleton.mp member]
    exact concerned

theorem Mirrors.scheduleTurn (mirrors : one.Mirrors names id since other)
    (ascending : StrictMono names.alarm) (span : Millis) {ticket : Ticket}
    (newer : (one.entry id).isOutdated (names.turn ticket.number) = false)
    (newest : (other.entry id).isOutdated ticket.number = false)
    (concerned : since ≤ names.epoch ticket.epoch) :
    (one.scheduleTurn id (names.turn ticket.number) span
        (.expire id (ticket.rename names))).Mirrors names id since
      (other.scheduleTurn id ticket.number span (.expire id ticket)) := by
  refine mirrors.amended ascending (one.scheduleTurn_amends id span _ rfl newer)
    (other.scheduleTurn_amends id span _ rfl newest) ?_ ?_ ?_ ?_
  · rw [mirrors.entry, RoomTimers.turn_rename]
  · exact congrArg (fun alarm => [alarm]) (mirrors.alarm span (.expire id ticket))
  · rw [mirrors.entry, mirrors.count, mirrors.now]
    rfl
  · intro alarm member
    rw [List.mem_singleton.mp member]
    exact concerned

theorem Mirrors.stopTurn (mirrors : one.Mirrors names id since other)
    (ascending : StrictMono names.alarm) :
    (one.stopTurn id).Mirrors names id since (other.stopTurn id) := by
  refine mirrors.amended ascending (one.stopTurn_amends id) (other.stopTurn_amends id) ?_ rfl ?_
    (fun _ none => absurd none List.not_mem_nil)
  · rw [mirrors.entry, RoomTimers.turn_rename]
  · rw [mirrors.entry]
    rfl

theorem Mirrors.cancelRoom (mirrors : one.Mirrors names id since other)
    (ascending : StrictMono names.alarm) :
    (one.cancelRoom id).Mirrors names id since (other.cancelRoom id) := by
  refine mirrors.amended ascending (one.cancelRoom_amends id) (other.cancelRoom_amends id) ?_ rfl
    rfl (fun _ none => absurd none List.not_mem_nil)
  rw [mirrors.entry, RoomTimers.armed_rename]

theorem Mirrors.clearCountdown (mirrors : one.Mirrors names id since other)
    (ascending : StrictMono names.alarm) :
    (one.clearCountdown id).Mirrors names id since (other.clearCountdown id) := by
  refine mirrors.amended ascending (one.clearCountdown_amends id) (other.clearCountdown_amends id)
    rfl rfl ?_ (fun _ none => absurd none List.not_mem_nil)
  rw [mirrors.entry]
  rfl

/-- A turn is told from others under new names as it is under the old ones. -/
theorem Mirrors.clearTurn (mirrors : one.Mirrors names id since other)
    (ascending : StrictMono names.alarm) {number : UInt64}
    (distinct : ∀ timer, (other.entry id).turn = some timer →
      (names.turn timer.number = names.turn number ↔ timer.number = number)) :
    (one.clearTurn id (names.turn number)).Mirrors names id since (other.clearTurn id number) := by
  refine mirrors.amended ascending (one.clearTurn_amends id _) (other.clearTurn_amends id number)
    rfl rfl ?_ (fun _ none => absurd none List.not_mem_nil)
  rw [mirrors.entry]
  generalize other.entry id = entry at distinct
  obtain ⟨countdown, turn⟩ := entry
  unfold RoomTimers.cleared
  cases turn with
  | none => rfl
  | some timer =>
    have same := distinct timer rfl
    change (if some (names.turn timer.number) = some (names.turn number) then _ else _) =
      RoomTimers.rename names (if some timer.number = some number then _ else _)
    simp only [Option.some.injEq, same]
    split
    · rfl
    · rfl

/-- The alarm that rings is taken from both lists. -/
theorem Mirrors.ring (mirrors : one.Mirrors names id since other)
    (ascending : StrictMono names.alarm) (alarm : Alarm Callback) :
    (one.ring (alarm.rename names)).Mirrors names id since (other.ring alarm) := by
  constructor
  · exact congrArg (max · alarm.deadline) mirrors.now
  · exact mirrors.entry
  · have apart (first : Alarm Callback) :
        decide ((first.rename names).id ≠ (alarm.rename names).id) = decide (first.id ≠ alarm.id) :=
      decide_eq_decide.mpr (not_congr ascending.injective.eq_iff)
    have same := mirrors.alarms
    unfold Timers.alarms Timers.ring at *
    dsimp only
    rw [List.filter_filter, List.filter_congr fun _ _ => Bool.and_comm _ _, ← List.filter_filter,
      same, List.filter_map, List.filter_filter, List.filter_filter]
    congr 2
    funext first
    change (decide _ && _) = _
    rw [apart, Bool.and_comm]
  · exact mirrors.lead

end Timers

theorem Outcome.follow_mirrors {names : Names} {id : RoomId} {since : Epoch}
    {one other : Timers Callback} (mirrors : one.Mirrors names id since other)
    (ascending : StrictMono names.alarm) (outcome : Outcome)
    (newer : ∀ ticket, outcome.turn = some ticket →
      (one.entry id).isOutdated (names.turn ticket.number) = false ∧
        (other.entry id).isOutdated ticket.number = false ∧ since ≤ names.epoch ticket.epoch) :
    ((outcome.rename names).follow id one).Mirrors names id since (outcome.follow id other) := by
  obtain ⟨messages, turn, gameOver, drawn⟩ := outcome
  cases gameOver with
  | true => exact mirrors.stopTurn ascending
  | false =>
    cases turn with
    | none => exact mirrors
    | some ticket =>
      obtain ⟨first, second, concerned⟩ := newer ticket rfl
      exact mirrors.scheduleTurn ascending ticket.duration first second concerned

end WordGame
