import Mathlib.Data.List.Perm.Subperm
import WordGame.Timers

/-!
The records of the timers. Every operation changes the record of its own room only, and arms no other
call than its own.
-/

namespace WordGame

def RoomTimers.cleared (entry : RoomTimers) (number : UInt64) : RoomTimers :=
  if entry.turn.map TurnTimer.number = some number then { entry with turn := .none } else entry

def RoomTimers.isOutdated (entry : RoomTimers) (number : UInt64) : Bool :=
  match entry.turn with
  | some running => number ≤ running.number
  | .none => false

theorem RoomTimers.isOutdated_eq_false {entry : RoomTimers} {number : UInt64}
    (older : ∀ timer, entry.turn = some timer → timer.number.toNat < number.toNat) :
    entry.isOutdated number = false := by
  unfold isOutdated
  cases running : entry.turn with
  | none => rfl
  | some timer =>
    have less := older timer running
    apply decide_eq_false
    rw [UInt64.le_iff_toNat_le]
    omega

/-- What is picked from a list two by two, each time the one with the smaller key, is one of the list,
and none of the list has a smaller key. -/
theorem foldl_least {β : Type} {key : β → Nat} {pick : β → β → β}
    (picks : ∀ one other, pick one other = if key other < key one then other else one)
    (first : β) (rest : List β) :
    rest.foldl pick first ∈ first :: rest ∧
      ∀ item ∈ first :: rest, key (rest.foldl pick first) ≤ key item := by
  induction rest generalizing first with
  | nil =>
    refine ⟨List.mem_singleton_self first, ?_⟩
    intro item member
    rw [List.mem_singleton.mp member]
    exact Nat.le_refl _
  | cons second rest ih =>
    rw [List.foldl_cons, picks]
    by_cases sooner : key second < key first
    · rw [if_pos sooner]
      obtain ⟨member, least⟩ := ih second
      refine ⟨List.mem_cons_of_mem first member, List.forall_mem_cons.mpr ⟨?_, least⟩⟩
      exact Nat.le_trans (least second List.mem_cons_self) (Nat.le_of_lt sooner)
    · rw [if_neg sooner]
      obtain ⟨member, least⟩ := ih first
      have below := least first List.mem_cons_self
      refine ⟨?_, List.forall_mem_cons.mpr ⟨below, List.forall_mem_cons.mpr ⟨?_, ?_⟩⟩⟩
      · rcases List.mem_cons.mp member with same | later
        · rw [same]
          exact List.mem_cons_self
        · exact List.mem_cons_of_mem _ (List.mem_cons_of_mem _ later)
      · exact Nat.le_trans below (Nat.le_of_not_lt sooner)
      · exact fun item later => least item (List.mem_cons_of_mem _ later)

namespace Timers

variable {α : Type}

/-- What the alarms that have yet to ring call for. -/
def calls (timers : Timers α) : List α := timers.pending.map Alarm.call

/-- A room has an entry just when there is something in it. -/
def Tidy (timers : Timers α) : Prop :=
  ∀ room, timers.hasTimers room = !(timers.entry room).isEmpty

theorem recorded_disarmAll (timers : Timers α) (armed : List Armed) :
    (timers.disarmAll armed).recorded = timers.recorded := by
  unfold disarmAll
  induction armed generalizing timers with
  | nil => rfl
  | cons first rest ih =>
    rw [List.foldl_cons]
    exact ih (timers.disarm first)

theorem calls_disarmAll (timers : Timers α) (armed : List Armed) :
    (timers.disarmAll armed).calls.Sublist timers.calls := by
  unfold disarmAll
  induction armed generalizing timers with
  | nil => exact List.Sublist.refl _
  | cons first rest ih =>
    rw [List.foldl_cons]
    have left : (timers.disarm first).calls.Sublist timers.calls :=
      List.filter_sublist.map Alarm.call
    exact (ih (timers.disarm first)).trans left

theorem entry_disarmAll (timers : Timers α) (armed : List Armed) (room : RoomId) :
    (timers.disarmAll armed).entry room = timers.entry room := by
  unfold entry
  rw [recorded_disarmAll]

theorem calls_arm (timers : Timers α) (span : Millis) (call : α) :
    (timers.arm span call).2.calls = timers.calls ++ [call] := by
  unfold calls arm
  rw [List.map_append]
  rfl

theorem calls_arm_disarmAll (timers : Timers α) (span : Millis) (call : α) (armed : List Armed) :
    ((timers.arm span call).2.disarmAll armed).calls.Sublist (timers.calls ++ [call]) := by
  rw [← calls_arm timers span call]
  exact calls_disarmAll _ armed

/-! ### Records -/

theorem entry_startCountdown (timers : Timers α) (room query : RoomId) (span : Millis) (call : α) :
    (timers.startCountdown room span call).entry query =
      if query = room then
        { timers.entry room with countdown := some ⟨timers.count, timers.now + span⟩ }
      else timers.entry query := by
  unfold startCountdown
  dsimp only
  rw [entry_record, entry_disarmAll]
  rfl

theorem entry_stopCountdown (timers : Timers α) (room query : RoomId) :
    (timers.stopCountdown room).entry query =
      if query = room then { timers.entry room with countdown := none }
      else timers.entry query := by
  unfold stopCountdown
  dsimp only
  rw [entry_record, entry_disarmAll]

theorem entry_clearCountdown (timers : Timers α) (room query : RoomId) :
    (timers.clearCountdown room).entry query =
      if query = room then { timers.entry room with countdown := none }
      else timers.entry query :=
  entry_record timers room query _

theorem entry_stopTurn (timers : Timers α) (room query : RoomId) :
    (timers.stopTurn room).entry query =
      if query = room then { timers.entry room with turn := none } else timers.entry query := by
  unfold stopTurn
  dsimp only
  rw [entry_record, entry_disarmAll]

theorem entry_cancelRoom (timers : Timers α) (room query : RoomId) :
    (timers.cancelRoom room).entry query =
      if query = room then .none else timers.entry query := by
  unfold cancelRoom
  dsimp only
  rw [entry_record, entry_disarmAll]

theorem entry_clearTurn (timers : Timers α) (room query : RoomId) (number : UInt64) :
    (timers.clearTurn room number).entry query =
      if query = room then (timers.entry room).cleared number else timers.entry query := by
  unfold clearTurn RoomTimers.cleared
  dsimp only
  by_cases recorded : (timers.entry room).turn.map TurnTimer.number = some number
  · rw [if_pos recorded, entry_record, if_pos recorded]
  · rw [if_neg recorded, if_neg recorded]
    split
    · rename_i here
      rw [here]
    · rfl

theorem isOutdated_eq (timers : Timers α) (room : RoomId) (number : UInt64) :
    timers.isOutdated room number = (timers.entry room).isOutdated number := rfl

theorem entry_scheduleTurn (timers : Timers α) (room query : RoomId) (number : UInt64)
    (span : Millis) (call : α) :
    (timers.scheduleTurn room number span call).entry query =
      if query = room ∧ (timers.entry room).isOutdated number = false then
        { timers.entry room with turn := some ⟨number, ⟨timers.count, timers.now + span⟩⟩ }
      else timers.entry query := by
  unfold scheduleTurn
  rw [isOutdated_eq]
  cases (timers.entry room).isOutdated number with
  | false =>
    rw [if_neg Bool.false_ne_true]
    dsimp only
    rw [entry_record, entry_disarmAll]
    simp only [and_true]
    rfl
  | true =>
    rw [if_pos rfl, if_neg (fun both => nomatch both.2)]

/-! ### Calls -/

theorem calls_startCountdown (timers : Timers α) (room : RoomId) (span : Millis) (call : α) :
    (timers.startCountdown room span call).calls.Sublist (timers.calls ++ [call]) :=
  calls_arm_disarmAll timers span call _

theorem calls_stopTurn (timers : Timers α) (room : RoomId) :
    (timers.stopTurn room).calls.Sublist timers.calls :=
  calls_disarmAll timers _

theorem calls_cancelRoom (timers : Timers α) (room : RoomId) :
    (timers.cancelRoom room).calls.Sublist timers.calls :=
  calls_disarmAll timers _

theorem calls_clearTurn (timers : Timers α) (room : RoomId) (number : UInt64) :
    (timers.clearTurn room number).calls = timers.calls := by
  unfold clearTurn
  dsimp only
  split
  · rfl
  · rfl

theorem calls_scheduleTurn (timers : Timers α) (room : RoomId) (number : UInt64) (span : Millis)
    (call : α) :
    (timers.scheduleTurn room number span call).calls.Sublist (timers.calls ++ [call]) := by
  unfold scheduleTurn
  split
  · exact List.sublist_append_left _ _
  · exact calls_arm_disarmAll timers span call _

theorem foldl_earlier_least (first : Alarm α) (rest : List (Alarm α)) :
    rest.foldl earlier first ∈ first :: rest ∧
      ∀ alarm ∈ first :: rest, (rest.foldl earlier first).deadline ≤ alarm.deadline :=
  foldl_least (fun _ _ => rfl) first rest

theorem mem_pending_of_next? {timers : Timers α} {alarm : Alarm α}
    (next : timers.next? = some alarm) : alarm ∈ timers.pending := by
  unfold next? at next
  cases pending : timers.pending with
  | nil =>
    rw [pending] at next
    cases next
  | cons first rest =>
    rw [pending] at next
    cases next
    exact (foldl_earlier_least first rest).1

theorem calls_ring (timers : Timers α) {alarm : Alarm α} (pending : alarm ∈ timers.pending) :
    ((timers.ring alarm).calls ++ [alarm.call]).Subperm timers.calls := by
  have rung : alarm ∈ timers.pending.filter (fun other => !decide (other.id ≠ alarm.id)) := by
    simp [List.mem_filter, pending]
  have parts := List.filter_append_perm (fun other => decide (other.id ≠ alarm.id)) timers.pending
  have within := (List.singleton_sublist.mpr rung).append_left
    (timers.pending.filter fun other => decide (other.id ≠ alarm.id))
  have calls := (within.map Alarm.call).subperm.trans (parts.map Alarm.call).subperm
  rw [List.map_append] at calls
  exact calls

/-! ### Entries -/

theorem initial_tidy : (initial : Timers α).Tidy := fun _ => rfl

theorem Tidy.record {timers : Timers α} (tidy : timers.Tidy) (room : RoomId)
    (entry : RoomTimers) : (timers.record room entry).Tidy := by
  intro query
  rw [hasTimers_record, entry_record]
  by_cases same : query = room
  · rw [if_pos same, if_pos same]
  · rw [if_neg same, if_neg same]
    exact tidy query

theorem Tidy.of_recorded {timers later : Timers α} (tidy : timers.Tidy)
    (same : later.recorded = timers.recorded) : later.Tidy := by
  intro room
  unfold hasTimers entry
  rw [same]
  exact tidy room

theorem Tidy.disarmAll {timers : Timers α} (tidy : timers.Tidy) (armed : List Armed) :
    (timers.disarmAll armed).Tidy :=
  tidy.of_recorded (recorded_disarmAll timers armed)

theorem Tidy.startCountdown {timers : Timers α} (tidy : timers.Tidy) (room : RoomId)
    (span : Millis) (call : α) : (timers.startCountdown room span call).Tidy := by
  have armed : (timers.arm span call).2.Tidy := tidy.of_recorded rfl
  exact (armed.disarmAll _).record room _

theorem Tidy.stopCountdown {timers : Timers α} (tidy : timers.Tidy) (room : RoomId) :
    (timers.stopCountdown room).Tidy :=
  (tidy.disarmAll _).record room _

theorem Tidy.clearCountdown {timers : Timers α} (tidy : timers.Tidy) (room : RoomId) :
    (timers.clearCountdown room).Tidy :=
  tidy.record room _

theorem Tidy.stopTurn {timers : Timers α} (tidy : timers.Tidy) (room : RoomId) :
    (timers.stopTurn room).Tidy :=
  (tidy.disarmAll _).record room _

theorem Tidy.cancelRoom {timers : Timers α} (tidy : timers.Tidy) (room : RoomId) :
    (timers.cancelRoom room).Tidy :=
  (tidy.disarmAll _).record room _

theorem Tidy.clearTurn {timers : Timers α} (tidy : timers.Tidy) (room : RoomId)
    (number : UInt64) : (timers.clearTurn room number).Tidy := by
  unfold Timers.clearTurn
  dsimp only
  split
  · exact tidy.record room _
  · exact tidy

theorem Tidy.scheduleTurn {timers : Timers α} (tidy : timers.Tidy) (room : RoomId)
    (number : UInt64) (span : Millis) (call : α) :
    (timers.scheduleTurn room number span call).Tidy := by
  unfold Timers.scheduleTurn
  split
  · exact tidy
  · have armed : (timers.arm span call).2.Tidy := tidy.of_recorded rfl
    exact (armed.disarmAll _).record room _

theorem Tidy.hasTimers_eq_false {timers : Timers α} (tidy : timers.Tidy) {room : RoomId}
    (nothing : timers.entry room = .none) : timers.hasTimers room = false := by
  rw [tidy room, nothing]
  rfl

end Timers

end WordGame
