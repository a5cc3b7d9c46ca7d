import WordGame.Proofs.Server.Amends
import WordGame.Timers.Run

/-!
What one act does to the timers, told by its note: which alarm is set, which ring, which are taken
back, and what is recorded afterwards.
-/

namespace WordGame

/-- The record names the alarm at the post. -/
def RoomTimers.holds (entry : RoomTimers) : Timers.Post → Nat → Prop
  | .countdown, id => entry.countdown.map Armed.id = some id
  | .turn number, id =>
    entry.turn.map (fun timer => (timer.number, timer.armed.id)) = some (number, id)

theorem RoomTimers.isEmpty_eq_false_iff (entry : RoomTimers) :
    entry.isEmpty = false ↔ ∃ post id, entry.holds post id := by
  obtain ⟨countdown, turn⟩ := entry
  constructor
  · intro occupied
    cases countdown with
    | some armed => exact ⟨.countdown, armed.id, rfl⟩
    | none => cases turn with
      | some timer => exact ⟨.turn timer.number, timer.armed.id, rfl⟩
      | none => cases occupied
  · rintro ⟨post, id, held⟩
    cases countdown with
    | some armed => rfl
    | none => cases turn with
      | some timer => rfl
      | none => cases post <;> cases held

theorem RoomTimers.holds_cleared_countdown (entry : RoomTimers) (number : UInt64) (id : Nat) :
    (entry.cleared number).holds .countdown id ↔ entry.holds .countdown id := by
  unfold cleared
  split
  · rfl
  · rfl

theorem RoomTimers.holds_cleared_turn (entry : RoomTimers) (number recorded : UInt64) (id : Nat) :
    (entry.cleared number).holds (.turn recorded) id ↔
      entry.holds (.turn recorded) id ∧ number ≠ recorded := by
  unfold cleared
  by_cases same : entry.turn.map TurnTimer.number = some number
  · obtain ⟨timer, running, rfl⟩ := Option.map_eq_some_iff.mp same
    rw [if_pos same]
    refine iff_of_false (fun impossible => nomatch impossible) ?_
    rintro ⟨held, other⟩
    unfold holds at held
    rw [running] at held
    exact other (Prod.mk.inj (Option.some.inj held)).1
  · rw [if_neg same]
    refine (and_iff_left_of_imp ?_).symm
    intro held
    obtain ⟨timer, running, named⟩ := Option.map_eq_some_iff.mp held
    obtain ⟨rfl, _⟩ := Prod.mk.inj named
    rw [running] at same
    exact fun cleared => same (congrArg some cleared.symm)

namespace Timers

variable {α : Type}

def Setting.alarm (setting : Setting α) : Alarm α := ⟨setting.id, setting.deadline, setting.call⟩

/-- What the note of an act tells of the timers before and after it. -/
structure Tells (timers : Timers α) (note : Note α) (later : Timers α) : Prop where
  moment : note.moment = timers.now
  count : later.count = timers.count + note.setting?.toList.length
  set : ∀ setting, note.setting? = some setting →
    setting.id = timers.count ∧ setting.moment = later.now
  pending : ∀ alarm, alarm ∈ later.pending ↔
    (alarm ∈ timers.pending ∨ ∃ setting, note.setting? = some setting ∧ alarm = setting.alarm) ∧
      (∀ ringing, note.ringing? = some ringing → alarm.id ≠ ringing.id) ∧
      ∀ room post, note.revokes room post = true → ¬(timers.entry room).holds post alarm.id
  holds : ∀ room post id, (later.entry room).holds post id ↔
    (∃ setting, note.setting? = some setting ∧ setting.room = room ∧ setting.post = post ∧
      setting.id = id) ∨
    (timers.entry room).holds post id ∧ note.revokes room post = false ∧
      note.clears room post = false
  rang : ∀ ringing, note.ringing? = some ringing →
    (∃ alarm ∈ timers.pending, alarm.id = ringing.id ∧ alarm.call = ringing.call ∧
      alarm.deadline ≤ timers.now) ∧
    ringing.moment = timers.now ∧ ∀ room post, note.revokes room post = false
  ahead : (∀ alarm ∈ timers.pending, timers.now ≤ alarm.deadline) →
    ∀ alarm ∈ timers.pending, later.now ≤ alarm.deadline

variable {timers later : Timers α} {note : Note α}

theorem Post.exists_iff {found : Post → Prop} :
    (∃ post, found post) ↔ found .countdown ∨ ∃ number, found (.turn number) := by
  constructor
  · rintro ⟨post, there⟩
    cases post with
    | countdown => exact .inl there
    | turn number => exact .inr ⟨number, there⟩
  · rintro (there | ⟨number, there⟩)
    · exact ⟨.countdown, there⟩
    · exact ⟨.turn number, there⟩

theorem holds_countdown_iff (entry : RoomTimers) (id : Nat) :
    entry.holds .countdown id ↔ ∃ armed ∈ entry.countdown.toList, id = armed.id := by
  cases running : entry.countdown with
  | none => simp [RoomTimers.holds, running]
  | some armed => simp [RoomTimers.holds, running, eq_comm]

theorem exists_holds_turn_iff (entry : RoomTimers) (id : Nat) :
    (∃ number, entry.holds (.turn number) id) ↔
      ∃ armed ∈ (entry.turn.map TurnTimer.armed).toList, id = armed.id := by
  cases running : entry.turn with
  | none => simp [RoomTimers.holds, running]
  | some timer => simp [RoomTimers.holds, running, eq_comm]

/-- What is about a room does not touch the records of another one. -/
theorem Note.elsewhere (note : Note α) {own query : RoomId} (about : note.act.room? = some own)
    (other : query ≠ own) (post : Post) :
    note.revokes query post = false ∧ note.clears query post = false := by
  obtain ⟨moment, act, effect⟩ := note
  cases act with
  | wait | ring => cases about
  | _ =>
    cases about
    cases post with
    | countdown => simp [Note.revokes, Note.clears, other.symm]
    | turn => simp [Note.revokes, Note.clears, other.symm]

/-- What a call tells that amends the record of one room and takes back some of what is recorded
there. -/
theorem tells_of_amended (own : RoomId) (record : RoomTimers) (taken : List Armed)
    (moment : note.moment = timers.now) (now : later.now = timers.now)
    (count : later.count = timers.count + note.setting?.toList.length)
    (set : ∀ setting, note.setting? = some setting →
      setting.id = timers.count ∧ setting.moment = timers.now ∧ setting.room = own)
    (quiet : note.ringing? = none)
    (pending : later.pending =
      (timers.pending ++ note.setting?.toList.map Setting.alarm).filter (Alarm.spared taken))
    (entry : ∀ query, later.entry query = if query = own then record else timers.entry query)
    (about : note.act.room? = some own)
    (revoked : ∀ id, (∃ armed ∈ taken, id = armed.id) ↔
      ∃ post, note.revokes own post = true ∧ (timers.entry own).holds post id)
    (recorded : ∀ post id, record.holds post id ↔
      (∃ setting, note.setting? = some setting ∧ setting.post = post ∧ setting.id = id) ∨
      (timers.entry own).holds post id ∧ note.revokes own post = false ∧
        note.clears own post = false) : timers.Tells note later where
  moment := moment
  count := count
  set := by
    intro setting same
    rw [now]
    exact ⟨(set setting same).1, (set setting same).2.1⟩
  pending := by
    intro alarm
    have new : alarm ∈ note.setting?.toList.map Setting.alarm ↔
        ∃ setting, note.setting? = some setting ∧ alarm = setting.alarm := by
      simp only [List.mem_map, Option.mem_toList, eq_comm]
    have spared : alarm.spared taken = true ↔
        ∀ room post, note.revokes room post = true →
          ¬(timers.entry room).holds post alarm.id := by
      rw [Alarm.spared_iff]
      constructor
      · intro other room post revokes held
        by_cases here : room = own
        · subst here
          obtain ⟨armed, member, same⟩ := (revoked alarm.id).mpr ⟨post, revokes, held⟩
          exact other armed member same
        · rw [(note.elsewhere about here post).1] at revokes
          cases revokes
      · intro free armed member same
        obtain ⟨post, revokes, held⟩ := (revoked alarm.id).mp ⟨armed, member, same⟩
        exact free own post revokes held
    rw [pending, List.mem_filter, List.mem_append, new, spared, quiet]
    refine and_congr_right (fun _ => (and_iff_right ?_).symm)
    intro ringing impossible
    cases impossible
  holds := by
    intro room post id
    rw [entry]
    by_cases here : room = own
    · subst here
      rw [if_pos rfl, recorded]
      refine or_congr_left ?_
      constructor
      · rintro ⟨setting, same, rest⟩
        exact ⟨setting, same, (set setting same).2.2, rest⟩
      · rintro ⟨setting, same, _, rest⟩
        exact ⟨setting, same, rest⟩
    · rw [if_neg here, and_iff_left (note.elsewhere about here post)]
      refine (or_iff_right ?_).symm
      rintro ⟨setting, same, there, _⟩
      exact here (there.symm.trans (set setting same).2.2)
  rang := by
    intro ringing rang
    rw [quiet] at rang
    cases rang
  ahead := by
    intro ahead
    rw [now]
    exact ahead

theorem startCountdown_tells (timers : Timers α) (room : RoomId) (span : Millis) (call : α) :
    timers.Tells ⟨timers.now, .startCountdown room span call, .set timers.count⟩
      (timers.startCountdown room span call) := by
  refine tells_of_amended room
    { timers.entry room with countdown := some ⟨timers.count, timers.now + span⟩ }
    (timers.entry room).countdown.toList rfl (timers.now_startCountdown room span call)
    (timers.count_startCountdown room span call) ?_ rfl
    (timers.pending_startCountdown room span call)
    (fun query => timers.entry_startCountdown room query span call) rfl ?_ ?_
  · intro setting same
    cases same
    exact ⟨rfl, rfl, rfl⟩
  · intro id
    rw [← holds_countdown_iff, Post.exists_iff]
    simp [Note.revokes]
  · intro post id
    cases post with
    | countdown => simp [RoomTimers.holds, Note.setting?, Note.revokes]
    | turn number => simp [RoomTimers.holds, Note.setting?, Note.revokes, Note.clears]

/-- What a call tells that sets no alarm. -/
theorem tells_of_struck (own : RoomId) (record : RoomTimers) (taken : List Armed)
    (moment : note.moment = timers.now) (now : later.now = timers.now)
    (count : later.count = timers.count) (unset : note.setting? = none)
    (quiet : note.ringing? = none)
    (pending : later.pending = timers.pending.filter (Alarm.spared taken))
    (entry : ∀ query, later.entry query = if query = own then record else timers.entry query)
    (about : note.act.room? = some own)
    (revoked : ∀ id, (∃ armed ∈ taken, id = armed.id) ↔
      ∃ post, note.revokes own post = true ∧ (timers.entry own).holds post id)
    (recorded : ∀ post id, record.holds post id ↔
      (timers.entry own).holds post id ∧ note.revokes own post = false ∧
        note.clears own post = false) : timers.Tells note later := by
  refine tells_of_amended own record taken moment now ?_ ?_ quiet ?_ entry about revoked ?_
  · rw [unset]
    exact count
  · intro setting impossible
    rw [unset] at impossible
    cases impossible
  · rw [pending, unset]
    exact congrArg _ (List.append_nil _).symm
  · intro post id
    rw [recorded, unset]
    refine (or_iff_right ?_).symm
    rintro ⟨setting, impossible, _⟩
    cases impossible

theorem stopCountdown_tells (timers : Timers α) (room : RoomId) :
    timers.Tells ⟨timers.now, .stopCountdown room, .nothing⟩ (timers.stopCountdown room) := by
  refine tells_of_struck room { timers.entry room with countdown := none }
    (timers.entry room).countdown.toList rfl (timers.now_stopCountdown room)
    (timers.count_stopCountdown room) rfl rfl (timers.pending_stopCountdown room)
    (fun query => timers.entry_stopCountdown room query) rfl ?_ ?_
  · intro id
    rw [← holds_countdown_iff, Post.exists_iff]
    simp [Note.revokes]
  · intro post id
    cases post with
    | countdown => simp [RoomTimers.holds, Note.revokes]
    | turn number => simp [RoomTimers.holds, Note.revokes, Note.clears]

theorem stopTurn_tells (timers : Timers α) (room : RoomId) :
    timers.Tells ⟨timers.now, .stopTurn room, .nothing⟩ (timers.stopTurn room) := by
  refine tells_of_struck room { timers.entry room with turn := none }
    ((timers.entry room).turn.map TurnTimer.armed).toList rfl (timers.now_stopTurn room)
    (timers.count_stopTurn room) rfl rfl (timers.pending_stopTurn room)
    (fun query => timers.entry_stopTurn room query) rfl ?_ ?_
  · intro id
    rw [← exists_holds_turn_iff, Post.exists_iff]
    simp [Note.revokes]
  · intro post id
    cases post with
    | countdown => simp [RoomTimers.holds, Note.revokes, Note.clears]
    | turn number => simp [RoomTimers.holds, Note.revokes]

theorem cancelRoom_tells (timers : Timers α) (room : RoomId) :
    timers.Tells ⟨timers.now, .cancelRoom room, .nothing⟩ (timers.cancelRoom room) := by
  refine tells_of_struck room .none
    ((timers.entry room).countdown.toList ++
      ((timers.entry room).turn.map TurnTimer.armed).toList) rfl
    (timers.now_cancelRoom room) (timers.count_cancelRoom room) rfl rfl
    (timers.pending_cancelRoom room) (fun query => timers.entry_cancelRoom room query) rfl ?_ ?_
  · intro id
    simp only [List.mem_append, or_and_right, exists_or]
    rw [← holds_countdown_iff, ← exists_holds_turn_iff, Post.exists_iff]
    simp [Note.revokes]
  · intro post id
    cases post with
    | countdown => simp [RoomTimers.holds, RoomTimers.none, Note.revokes]
    | turn number => simp [RoomTimers.holds, RoomTimers.none, Note.revokes]

theorem clearCountdown_tells (timers : Timers α) (room : RoomId) :
    timers.Tells ⟨timers.now, .clearCountdown room, .nothing⟩ (timers.clearCountdown room) := by
  refine tells_of_struck room { timers.entry room with countdown := none } [] rfl rfl rfl rfl rfl
    (filter_spared_nil _).symm (fun query => timers.entry_clearCountdown room query) rfl ?_ ?_
  · intro id
    rw [Post.exists_iff]
    simp [Note.revokes]
  · intro post id
    cases post with
    | countdown => simp [RoomTimers.holds, Note.revokes, Note.clears]
    | turn number => simp [RoomTimers.holds, Note.revokes, Note.clears]

theorem clearTurn_tells (timers : Timers α) (room : RoomId) (number : UInt64) :
    timers.Tells ⟨timers.now, .clearTurn room number, .nothing⟩ (timers.clearTurn room number) := by
  refine tells_of_struck room ((timers.entry room).cleared number) [] rfl
    (timers.now_clearTurn room number) (timers.count_clearTurn room number) rfl rfl ?_
    (fun query => timers.entry_clearTurn room query number) rfl ?_ ?_
  · rw [pending_clearTurn, filter_spared_nil]
  · intro id
    rw [Post.exists_iff]
    simp [Note.revokes]
  · intro post id
    cases post with
    | countdown =>
      rw [RoomTimers.holds_cleared_countdown]
      exact (and_iff_left ⟨rfl, rfl⟩).symm
    | turn recorded =>
      rw [RoomTimers.holds_cleared_turn]
      simp [Note.revokes, Note.clears]

/-- What is told when nothing is set, taken back or forgotten. -/
theorem tells_of_rest (moment : note.moment = timers.now)
    (recorded : later.recorded = timers.recorded) (pending : later.pending = timers.pending)
    (count : later.count = timers.count) (unset : note.setting? = none)
    (quiet : note.ringing? = none)
    (kept : ∀ room post, note.revokes room post = false ∧ note.clears room post = false)
    (ahead : (∀ alarm ∈ timers.pending, timers.now ≤ alarm.deadline) →
      ∀ alarm ∈ timers.pending, later.now ≤ alarm.deadline) : timers.Tells note later where
  moment := moment
  count := by
    rw [unset, count]
    rfl
  set := by
    intro setting impossible
    rw [unset] at impossible
    cases impossible
  pending := by
    intro alarm
    rw [pending, unset, quiet]
    simp [kept]
  holds := by
    intro room post id
    unfold Timers.entry
    rw [recorded, unset]
    simp [kept]
  rang := by
    intro ringing impossible
    rw [quiet] at impossible
    cases impossible
  ahead := ahead

theorem scheduleTurn_tells (timers : Timers α) (room : RoomId) (number : UInt64) (span : Millis)
    (call : α) :
    timers.Tells
      ⟨timers.now, .scheduleTurn room number span call,
        if timers.isOutdated room number then .nothing else .set timers.count⟩
      (timers.scheduleTurn room number span call) := by
  cases outdated : timers.isOutdated room number with
  | true =>
    rw [if_pos rfl, scheduleTurn_of_outdated outdated]
    refine tells_of_rest rfl rfl rfl rfl rfl rfl ?_ id
    intro query post
    cases post with
    | countdown => exact ⟨rfl, rfl⟩
    | turn => exact ⟨Bool.and_false _, rfl⟩
  | false =>
    rw [if_neg Bool.false_ne_true]
    refine tells_of_amended room
      { timers.entry room with turn := some ⟨number, ⟨timers.count, timers.now + span⟩⟩ }
      ((timers.entry room).turn.map TurnTimer.armed).toList rfl
      (timers.now_scheduleTurn room number span call) (count_scheduleTurn outdated span call) ?_
      rfl ?_ (fun query => ?_) rfl ?_ ?_
    · intro setting same
      cases same
      exact ⟨rfl, rfl, rfl⟩
    · rw [pending_scheduleTurn, outdated, if_neg Bool.false_ne_true]
      rfl
    · rw [entry_scheduleTurn, ← isOutdated_eq, outdated]
      simp only [and_true]
    · intro id
      rw [← exists_holds_turn_iff, Post.exists_iff]
      simp [Note.revokes, Note.setting?]
    · intro post id
      cases post with
      | countdown => simp [RoomTimers.holds, Note.setting?, Note.revokes, Note.clears]
      | turn other => simp [RoomTimers.holds, Note.setting?, Note.revokes]

theorem pending_of_next?_eq_none (none : timers.next? = none) : timers.pending = [] := by
  unfold next? at none
  cases waiting : timers.pending with
  | nil => rfl
  | cons first rest =>
    rw [waiting] at none
    cases none

theorem wait_tells (timers : Timers α) (moment : Millis) :
    timers.Tells ⟨timers.now, .wait moment, .nothing⟩ (timers.wait (timers.horizon moment)) := by
  refine tells_of_rest rfl rfl rfl rfl rfl rfl (fun _ post => ?_) ?_
  · cases post <;> exact ⟨rfl, rfl⟩
  · intro ahead alarm member
    refine Nat.max_le.mpr ⟨ahead alarm member, ?_⟩
    unfold horizon
    cases next : timers.next? with
    | none =>
      rw [pending_of_next?_eq_none next] at member
      cases member
    | some first =>
      exact Nat.le_trans (Nat.min_le_right _ _) (deadline_le_of_next? next member)

theorem ring_tells {alarm : Alarm α} (member : alarm ∈ timers.pending)
    (due : alarm.deadline ≤ timers.now) (index : Nat) :
    timers.Tells ⟨timers.now, .ring index, .rang alarm.id alarm.call⟩ (timers.ring alarm) where
  moment := rfl
  count := rfl
  set := fun _ impossible => nomatch impossible
  pending := by
    intro other
    change other ∈ timers.pending.filter (fun other => decide (other.id ≠ alarm.id)) ↔ _
    rw [List.mem_filter, decide_eq_true_iff]
    constructor
    · rintro ⟨pending, different⟩
      refine ⟨.inl pending, ?_, fun _ post impossible => ?_⟩
      · intro ringing same
        cases same
        exact different
      · cases post <;> cases impossible
    · rintro ⟨pending | ⟨_, impossible, _⟩, different, _⟩
      · exact ⟨pending, different _ rfl⟩
      · cases impossible
  holds := by
    intro room post id
    refine Iff.trans ?_ (or_iff_right ?_).symm
    · cases post <;> exact (and_iff_left ⟨rfl, rfl⟩).symm
    · rintro ⟨_, impossible, _⟩
      cases impossible
  rang := by
    intro ringing same
    cases same
    refine ⟨⟨alarm, member, rfl, rfl, due⟩, rfl, fun _ post => ?_⟩
    cases post <;> rfl
  ahead := by
    intro ahead other pending
    exact Nat.max_le.mpr ⟨ahead other pending, Nat.le_trans due (ahead other pending)⟩

theorem act_tells (timers : Timers α) (act : Act α) :
    timers.Tells ⟨timers.now, act, (timers.act act).1⟩ (timers.act act).2 := by
  cases act with
  | startCountdown room span call => exact timers.startCountdown_tells room span call
  | stopCountdown room => exact timers.stopCountdown_tells room
  | clearCountdown room => exact timers.clearCountdown_tells room
  | stopTurn room => exact timers.stopTurn_tells room
  | clearTurn room number => exact timers.clearTurn_tells room number
  | cancelRoom room => exact timers.cancelRoom_tells room
  | scheduleTurn room number span call => exact timers.scheduleTurn_tells room number span call
  | wait moment => exact timers.wait_tells moment
  | ring index =>
    have rests : timers.Tells ⟨timers.now, .ring index, .nothing⟩ timers :=
      tells_of_rest rfl rfl rfl rfl rfl rfl (fun _ post => by cases post <;> exact ⟨rfl, rfl⟩) id
    dsimp only [Timers.act]
    cases chosen : timers.pending[index]? with
    | none => exact rests
    | some alarm =>
      dsimp only
      split
      · rename_i due
        exact ring_tells (List.mem_of_getElem? chosen) due index
      · exact rests

theorem Tidy.act (tidy : timers.Tidy) (act : Act α) : (timers.act act).2.Tidy := by
  cases act with
  | startCountdown room span call => exact tidy.startCountdown room span call
  | stopCountdown room => exact tidy.stopCountdown room
  | clearCountdown room => exact tidy.clearCountdown room
  | scheduleTurn room number span call => exact tidy.scheduleTurn room number span call
  | stopTurn room => exact tidy.stopTurn room
  | clearTurn room number => exact tidy.clearTurn room number
  | cancelRoom room => exact tidy.cancelRoom room
  | wait moment => exact tidy.of_recorded rfl
  | ring index =>
    dsimp only [Timers.act]
    split
    · split
      · exact tidy.of_recorded rfl
      · exact tidy
    · exact tidy

end Timers

end WordGame
