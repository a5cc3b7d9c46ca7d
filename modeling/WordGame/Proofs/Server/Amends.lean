import Mathlib.Data.List.Nodup
import WordGame.Proofs.Server.Pending
import WordGame.Proofs.Server.View

/-!
What the operations on the timers of a room have in common: some alarms are taken back, at most one
is set, and the record of the room is amended. No two alarms have one number, so nothing is taken
back that is set for another room.
-/

namespace WordGame

namespace RoomTimers

def armed (entry : RoomTimers) : List Armed :=
  entry.countdown.toList ++ (entry.turn.map TurnTimer.armed).toList

end RoomTimers

namespace Timers

/-- The record of a room is amended. The alarms that are taken back are recorded for the room, one
that is added is for it, and the new record names no others than the old one and that one. -/
structure Amends (timers : Timers Callback) (room : RoomId) (taken : List Armed)
    (added : List (Alarm Callback)) (record : RoomTimers) (later : Timers Callback) : Prop where
  now : later.now = timers.now
  pending : later.pending = (timers.pending ++ added).filter (Alarm.spared taken)
  count : later.count = timers.count + added.length
  entry : ∀ query, later.entry query = if query = room then record else timers.entry query
  owned : ∀ armed ∈ taken, armed ∈ (timers.entry room).armed
  single : added = [] ∨ ∃ alarm, added = [alarm] ∧ alarm.id = timers.count ∧ alarm.call.room = room
  armed : ∀ armed ∈ record.armed, armed ∈ (timers.entry room).armed ∨
    armed.id = timers.count ∧ added ≠ []

variable {timers later : Timers Callback} {room : RoomId} {taken : List Armed}
  {added : List (Alarm Callback)} {record : RoomTimers}

theorem filter_spared_nil {α : Type} (alarms : List (Alarm α)) :
    alarms.filter (Alarm.spared []) = alarms :=
  List.filter_eq_self.mpr fun _ _ => rfl

theorem startCountdown_amends (timers : Timers Callback) (room : RoomId) (span : Millis)
    (call : Callback) (own : call.room = room) :
    timers.Amends room (timers.entry room).countdown.toList [timers.alarm span call]
      { timers.entry room with countdown := some ⟨timers.count, timers.now + span⟩ }
      (timers.startCountdown room span call) where
  now := timers.now_startCountdown room span call
  pending := timers.pending_startCountdown room span call
  count := timers.count_startCountdown room span call
  entry query := timers.entry_startCountdown room query span call
  owned armed member := List.mem_append_left _ member
  single := .inr ⟨_, rfl, rfl, own⟩
  armed := by
    intro armed member
    rcases List.mem_append.mp member with countdown | turn
    · rw [List.mem_singleton.mp countdown]
      exact .inr ⟨rfl, List.cons_ne_nil _ _⟩
    · exact .inl (List.mem_append_right _ turn)

theorem scheduleTurn_amends (timers : Timers Callback) (room : RoomId) {number : UInt64}
    (span : Millis) (call : Callback) (own : call.room = room)
    (newer : (timers.entry room).isOutdated number = false) :
    timers.Amends room ((timers.entry room).turn.map TurnTimer.armed).toList
      [timers.alarm span call]
      { timers.entry room with turn := some ⟨number, ⟨timers.count, timers.now + span⟩⟩ }
      (timers.scheduleTurn room number span call) where
  now := timers.now_scheduleTurn room number span call
  pending := by
    rw [pending_scheduleTurn, isOutdated_eq, newer, if_neg Bool.false_ne_true]
  count := count_scheduleTurn newer span call
  entry query := by
    rw [entry_scheduleTurn]
    simp only [newer, and_true]
  owned armed member := List.mem_append_right _ member
  single := .inr ⟨_, rfl, rfl, own⟩
  armed := by
    intro armed member
    rcases List.mem_append.mp member with countdown | turn
    · exact .inl (List.mem_append_left _ countdown)
    · rw [List.mem_singleton.mp turn]
      exact .inr ⟨rfl, List.cons_ne_nil _ _⟩

theorem stopTurn_amends (timers : Timers Callback) (room : RoomId) :
    timers.Amends room ((timers.entry room).turn.map TurnTimer.armed).toList []
      { timers.entry room with turn := none } (timers.stopTurn room) where
  now := timers.now_stopTurn room
  pending := by rw [pending_stopTurn, List.append_nil]
  count := timers.count_stopTurn room
  entry query := timers.entry_stopTurn room query
  owned armed member := List.mem_append_right _ member
  single := .inl rfl
  armed armed member := by
    rcases List.mem_append.mp member with countdown | turn
    · exact .inl (List.mem_append_left _ countdown)
    · cases turn

theorem cancelRoom_amends (timers : Timers Callback) (room : RoomId) :
    timers.Amends room (timers.entry room).armed [] .none (timers.cancelRoom room) where
  now := timers.now_cancelRoom room
  pending := by
    rw [pending_cancelRoom, List.append_nil]
    rfl
  count := timers.count_cancelRoom room
  entry query := timers.entry_cancelRoom room query
  owned _ member := member
  single := .inl rfl
  armed _ member := nomatch member

theorem clearCountdown_amends (timers : Timers Callback) (room : RoomId) :
    timers.Amends room [] [] { timers.entry room with countdown := none }
      (timers.clearCountdown room) where
  now := rfl
  pending := by
    rw [filter_spared_nil, List.append_nil]
    rfl
  count := rfl
  entry query := timers.entry_clearCountdown room query
  owned _ member := nomatch member
  single := .inl rfl
  armed _ member := .inl (List.mem_append_right _ member)

theorem clearTurn_amends (timers : Timers Callback) (room : RoomId) (number : UInt64) :
    timers.Amends room [] [] ((timers.entry room).cleared number)
      (timers.clearTurn room number) where
  now := timers.now_clearTurn room number
  pending := by rw [filter_spared_nil, List.append_nil, pending_clearTurn]
  count := timers.count_clearTurn room number
  entry query := timers.entry_clearTurn room query number
  owned _ member := nomatch member
  single := .inl rfl
  armed armed member := by
    unfold RoomTimers.cleared at member
    split at member
    · rcases List.mem_append.mp member with countdown | turn
      · exact .inl (List.mem_append_left _ countdown)
      · cases turn
    · exact .inl member

theorem Amends.refl (timers : Timers Callback) (room : RoomId) :
    timers.Amends room [] [] (timers.entry room) timers where
  now := rfl
  pending := by rw [filter_spared_nil, List.append_nil]
  count := rfl
  entry query := by
    split
    · rename_i here
      rw [here]
    · rfl
  owned _ member := nomatch member
  single := .inl rfl
  armed _ member := .inl member

/-- No two alarms have one number, and an alarm with a number that is recorded for a room is for that
room. -/
structure Orderly (timers : Timers Callback) : Prop where
  ascending : timers.pending.Pairwise (fun first second => first.id < second.id)
  pending : ∀ alarm ∈ timers.pending, alarm.id < timers.count
  recorded : ∀ room, ∀ armed ∈ (timers.entry room).armed, armed.id < timers.count
  owned : ∀ room, ∀ armed ∈ (timers.entry room).armed, ∀ alarm ∈ timers.pending,
    alarm.id = armed.id → alarm.call.room = room

theorem initial_orderly : (initial : Timers Callback).Orderly where
  ascending := .nil
  pending _ member := nomatch member
  recorded _ _ member := nomatch member
  owned _ _ _ _ member := nomatch member

/-- What pends after a record was amended pended before, or was added. -/
theorem Amends.mem_pending (amends : timers.Amends room taken added record later)
    {alarm : Alarm Callback} (pending : alarm ∈ later.pending) :
    alarm ∈ timers.pending ∨ alarm ∈ added := by
  rw [amends.pending] at pending
  exact List.mem_append.mp (List.mem_filter.mp pending).1

theorem Amends.of_added (amends : timers.Amends room taken added record later)
    {alarm : Alarm Callback} (member : alarm ∈ added) :
    alarm.id = timers.count ∧ alarm.call.room = room ∧ later.count = timers.count + 1 := by
  rcases amends.single with none | ⟨only, one, id, own⟩
  · rw [none] at member
    cases member
  · have count := amends.count
    rw [one] at member count
    cases List.mem_singleton.mp member
    exact ⟨id, own, count⟩

theorem Amends.count_le (amends : timers.Amends room taken added record later) :
    timers.count ≤ later.count := by
  rw [amends.count]
  exact Nat.le_add_right _ _

theorem Amends.armed_entry (amends : timers.Amends room taken added record later) {query : RoomId}
    {armed : Armed} (member : armed ∈ (later.entry query).armed) :
    armed ∈ (timers.entry query).armed ∨
      query = room ∧ armed.id = timers.count ∧ later.count = timers.count + 1 := by
  rw [amends.entry] at member
  split at member
  · rename_i here
    subst here
    rcases amends.armed armed member with before | ⟨new, some⟩
    · exact .inl before
    · obtain ⟨alarm, isAdded⟩ := List.exists_mem_of_ne_nil _ some
      exact .inr ⟨rfl, new, (amends.of_added isAdded).2.2⟩
  · exact .inl member

theorem Amends.orderly (amends : timers.Amends room taken added record later)
    (orderly : timers.Orderly) : later.Orderly := by
  have grows := amends.count_le
  constructor
  · rw [amends.pending]
    refine List.Pairwise.filter _ (List.pairwise_append.mpr ⟨orderly.ascending, ?_, ?_⟩)
    · rcases amends.single with none | ⟨only, one, _⟩
      · rw [none]
        exact .nil
      · rw [one]
        exact List.pairwise_singleton _ _
    · intro first before second new
      rw [(amends.of_added new).1]
      exact orderly.pending first before
  · intro alarm pending
    rcases amends.mem_pending pending with before | new
    · exact Nat.lt_of_lt_of_le (orderly.pending alarm before) grows
    · obtain ⟨id, _, count⟩ := amends.of_added new
      rw [id, count]
      exact Nat.lt_succ_self _
  · intro query armed member
    rcases amends.armed_entry member with before | ⟨_, new, count⟩
    · exact Nat.lt_of_lt_of_le (orderly.recorded query armed before) grows
    · rw [new, count]
      exact Nat.lt_succ_self _
  · intro query armed member alarm pending same
    rcases amends.armed_entry member with before | ⟨here, new, _⟩
    · rcases amends.mem_pending pending with already | isAdded
      · exact orderly.owned query armed before alarm already same
      · have old := orderly.recorded query armed before
        rw [← same, (amends.of_added isAdded).1] at old
        exact absurd old (Nat.lt_irrefl _)
    · rcases amends.mem_pending pending with already | isAdded
      · have old := orderly.pending alarm already
        rw [same, new] at old
        exact absurd old (Nat.lt_irrefl _)
      · rw [here]
        exact (amends.of_added isAdded).2.1

theorem Amends.alarms_of_ne (amends : timers.Amends room taken added record later)
    (orderly : timers.Orderly) {id : RoomId} (other : id ≠ room) (since : Epoch) :
    later.alarms id since = timers.alarms id since := by
  have unset : added.filter (fun alarm => alarm.call.concerns id since) = [] := by
    rw [List.filter_eq_nil_iff]
    intro alarm member concerned
    rw [(Callback.concerns_iff.mp concerned).1.symm] at other
    exact other (amends.of_added member).2.1
  have spared : ∀ alarm ∈ timers.pending.filter (fun alarm => alarm.call.concerns id since),
      alarm.spared taken = true := by
    intro alarm member
    obtain ⟨pending, concerned⟩ := List.mem_filter.mp member
    rw [Alarm.spared_iff]
    intro armed isTaken same
    have own := orderly.owned room armed (amends.owned armed isTaken) alarm pending same
    exact other ((Callback.concerns_iff.mp concerned).1.symm.trans own)
  unfold alarms
  rw [amends.pending, List.filter_filter, List.filter_congr fun _ _ => Bool.and_comm _ _,
    ← List.filter_filter, List.filter_append, unset, List.append_nil,
    List.filter_eq_self.mpr spared]

/-- An alarm that rings is taken from the list, and no other. -/
theorem Orderly.ring (orderly : timers.Orderly) (alarm : Alarm Callback) :
    (timers.ring alarm).Orderly where
  ascending := orderly.ascending.filter _
  pending other member := orderly.pending other (List.mem_filter.mp member).1
  recorded := orderly.recorded
  owned room armed member other pending :=
    orderly.owned room armed member other (List.mem_filter.mp pending).1

theorem Orderly.eq_of_id (orderly : timers.Orderly) {first second : Alarm Callback}
    (one : first ∈ timers.pending) (two : second ∈ timers.pending) (same : first.id = second.id) :
    first = second := by
  have distinct : (timers.pending.map Alarm.id).Nodup :=
    List.pairwise_map.mpr (orderly.ascending.imp Nat.ne_of_lt)
  exact List.inj_on_of_nodup_map distinct one two same

end Timers

end WordGame
