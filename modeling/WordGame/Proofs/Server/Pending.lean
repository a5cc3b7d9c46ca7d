import WordGame.Proofs.Server.Records
import WordGame.Server.Transaction

/-!
The alarms that have yet to ring. Whoever is told of a room sets an alarm for it or takes back what
is recorded there, and nothing of that moves the clock.
-/

namespace WordGame

def Alarm.spared {α : Type} (taken : List Armed) (alarm : Alarm α) : Bool :=
  taken.all fun armed => alarm.id ≠ armed.id

theorem Alarm.spared_iff {α : Type} (taken : List Armed) (alarm : Alarm α) :
    alarm.spared taken = true ↔ ∀ armed ∈ taken, alarm.id ≠ armed.id := by
  unfold spared
  rw [List.all_eq_true]
  simp only [decide_eq_true_eq]

namespace Timers

variable {α : Type}

theorem disarmAll_eq (timers : Timers α) (taken : List Armed) :
    timers.disarmAll taken =
      { timers with pending := timers.pending.filter (Alarm.spared taken) } := by
  unfold disarmAll
  induction taken generalizing timers with
  | nil =>
    have all : timers.pending.filter (Alarm.spared []) = timers.pending :=
      List.filter_eq_self.mpr (fun _ _ => rfl)
    rw [all]
    rfl
  | cons first rest ih =>
    rw [List.foldl_cons, ih]
    unfold disarm
    dsimp only
    rw [List.filter_filter]
    congr 2
    funext alarm
    exact Bool.and_comm _ _

def alarm (timers : Timers α) (span : Millis) (call : α) : Alarm α :=
  ⟨timers.count, timers.now + min span maxSpan, call⟩

theorem pending_startCountdown (timers : Timers α) (room : RoomId) (span : Millis) (call : α) :
    (timers.startCountdown room span call).pending =
      (timers.pending ++ [timers.alarm span call]).filter
        (Alarm.spared (timers.entry room).countdown.toList) := by
  unfold startCountdown
  dsimp only
  rw [disarmAll_eq]
  rfl

theorem now_startCountdown (timers : Timers α) (room : RoomId) (span : Millis) (call : α) :
    (timers.startCountdown room span call).now = timers.now := by
  unfold startCountdown
  dsimp only
  rw [disarmAll_eq]
  rfl

theorem pending_stopCountdown (timers : Timers α) (room : RoomId) :
    (timers.stopCountdown room).pending =
      timers.pending.filter (Alarm.spared (timers.entry room).countdown.toList) := by
  unfold stopCountdown
  dsimp only
  rw [disarmAll_eq]
  rfl

theorem now_stopCountdown (timers : Timers α) (room : RoomId) :
    (timers.stopCountdown room).now = timers.now := by
  unfold stopCountdown
  dsimp only
  rw [disarmAll_eq]
  rfl

theorem pending_scheduleTurn (timers : Timers α) (room : RoomId) (number : UInt64) (span : Millis)
    (call : α) :
    (timers.scheduleTurn room number span call).pending =
      if timers.isOutdated room number then timers.pending
      else
        (timers.pending ++ [timers.alarm span call]).filter
          (Alarm.spared ((timers.entry room).turn.map TurnTimer.armed).toList) := by
  unfold scheduleTurn
  split
  · rfl
  · dsimp only
    rw [disarmAll_eq]
    rfl

theorem now_scheduleTurn (timers : Timers α) (room : RoomId) (number : UInt64) (span : Millis)
    (call : α) : (timers.scheduleTurn room number span call).now = timers.now := by
  unfold scheduleTurn
  split
  · rfl
  · dsimp only
    rw [disarmAll_eq]
    rfl

theorem pending_stopTurn (timers : Timers α) (room : RoomId) :
    (timers.stopTurn room).pending =
      timers.pending.filter
        (Alarm.spared ((timers.entry room).turn.map TurnTimer.armed).toList) := by
  unfold stopTurn
  dsimp only
  rw [disarmAll_eq]
  rfl

theorem now_stopTurn (timers : Timers α) (room : RoomId) :
    (timers.stopTurn room).now = timers.now := by
  unfold stopTurn
  dsimp only
  rw [disarmAll_eq]
  rfl

theorem pending_cancelRoom (timers : Timers α) (room : RoomId) :
    (timers.cancelRoom room).pending =
      timers.pending.filter
        (Alarm.spared ((timers.entry room).countdown.toList ++
          ((timers.entry room).turn.map TurnTimer.armed).toList)) := by
  unfold cancelRoom
  dsimp only
  rw [disarmAll_eq]
  rfl

theorem now_cancelRoom (timers : Timers α) (room : RoomId) :
    (timers.cancelRoom room).now = timers.now := by
  unfold cancelRoom
  dsimp only
  rw [disarmAll_eq]
  rfl

theorem pending_clearTurn (timers : Timers α) (room : RoomId) (number : UInt64) :
    (timers.clearTurn room number).pending = timers.pending := by
  unfold clearTurn
  dsimp only
  split
  · rfl
  · rfl

theorem now_clearTurn (timers : Timers α) (room : RoomId) (number : UInt64) :
    (timers.clearTurn room number).now = timers.now := by
  unfold clearTurn
  dsimp only
  split
  · rfl
  · rfl

theorem count_clearTurn (timers : Timers α) (room : RoomId) (number : UInt64) :
    (timers.clearTurn room number).count = timers.count := by
  unfold clearTurn
  dsimp only
  split
  · rfl
  · rfl

theorem count_startCountdown (timers : Timers α) (room : RoomId) (span : Millis) (call : α) :
    (timers.startCountdown room span call).count = timers.count + 1 := by
  unfold startCountdown
  dsimp only
  rw [disarmAll_eq]
  rfl

theorem count_stopCountdown (timers : Timers α) (room : RoomId) :
    (timers.stopCountdown room).count = timers.count := by
  unfold stopCountdown
  dsimp only
  rw [disarmAll_eq]
  rfl

theorem scheduleTurn_of_outdated {timers : Timers α} {room : RoomId} {number : UInt64}
    (outdated : timers.isOutdated room number = true) (span : Millis) (call : α) :
    timers.scheduleTurn room number span call = timers := by
  unfold scheduleTurn
  rw [if_pos outdated]

theorem count_scheduleTurn {timers : Timers α} {room : RoomId} {number : UInt64}
    (newer : timers.isOutdated room number = false) (span : Millis) (call : α) :
    (timers.scheduleTurn room number span call).count = timers.count + 1 := by
  unfold scheduleTurn
  rw [newer, if_neg Bool.false_ne_true]
  dsimp only
  rw [disarmAll_eq]
  rfl

theorem count_stopTurn (timers : Timers α) (room : RoomId) :
    (timers.stopTurn room).count = timers.count := by
  unfold stopTurn
  dsimp only
  rw [disarmAll_eq]
  rfl

theorem count_cancelRoom (timers : Timers α) (room : RoomId) :
    (timers.cancelRoom room).count = timers.count := by
  unfold cancelRoom
  dsimp only
  rw [disarmAll_eq]
  rfl

theorem deadline_le_of_next? {timers : Timers α} {next alarm : Alarm α}
    (isNext : timers.next? = some next) (pending : alarm ∈ timers.pending) :
    next.deadline ≤ alarm.deadline := by
  unfold next? at isNext
  cases waiting : timers.pending with
  | nil =>
    rw [waiting] at isNext
    cases isNext
  | cons first rest =>
    rw [waiting] at isNext pending
    cases isNext
    exact (foldl_earlier_least first rest).2 alarm pending

end Timers

theorem Outcome.now_follow (outcome : Outcome) (room : RoomId) (timers : Timers Callback) :
    (outcome.follow room timers).now = timers.now := by
  unfold follow
  split
  · exact timers.now_stopTurn room
  · split
    · exact timers.now_scheduleTurn room _ _ _
    · rfl

/-- What pends after the outcome of a move pended before, or ends the turn that was started. -/
theorem Outcome.mem_pending_follow {outcome : Outcome} {room : RoomId} {timers : Timers Callback}
    {alarm : Alarm Callback} (pending : alarm ∈ (outcome.follow room timers).pending) :
    alarm ∈ timers.pending ∨
      ∃ ticket, outcome.turn = some ticket ∧
        alarm = timers.alarm ticket.duration (.expire room ticket) := by
  unfold follow at pending
  split at pending
  · rw [Timers.pending_stopTurn] at pending
    exact .inl (List.mem_filter.mp pending).1
  · cases issued : outcome.turn with
    | none =>
      rw [issued] at pending
      exact .inl pending
    | some ticket =>
      rw [issued] at pending
      dsimp only at pending
      rw [Timers.pending_scheduleTurn] at pending
      split at pending
      · exact .inl pending
      · rcases List.mem_append.mp (List.mem_filter.mp pending).1 with before | new
        · exact .inl before
        · exact .inr ⟨ticket, rfl, List.mem_singleton.mp new⟩

end WordGame
