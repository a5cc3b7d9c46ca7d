import WordGame.Proofs.History
import WordGame.Proofs.Timers.Act

/-!
What becomes of the alarms under any calls. An alarm rings at most once, at the end of its span or
of the longest span that an alarm can wait, whichever is shorter; and it does ring unless it was
taken back while it was recorded and had not rung.
-/

namespace WordGame

namespace Timers

variable {α : Type}

def rung (notes : List (Note α)) : List Nat := (ringings notes).map Ringing.id

/-- An alarm was set and is recorded still. -/
def Recorded (notes : List (Note α)) (setting : Setting α) : Prop :=
  History.Since notes (Note.setting? · = some setting) fun note =>
    note.revokes setting.room setting.post = false ∧ note.clears setting.room setting.post = false

/-- An alarm was taken back while it was recorded and had not rung. -/
def Revoked (notes : List (Note α)) (setting : Setting α) : Prop :=
  History.Once notes fun before note =>
    note.revokes setting.room setting.post = true ∧ Recorded before setting ∧
      setting.id ∉ rung before

theorem recorded_append (notes : List (Note α)) (note : Note α) (setting : Setting α) :
    Recorded (notes ++ [note]) setting ↔
      note.setting? = some setting ∨
        Recorded notes setting ∧ note.revokes setting.room setting.post = false ∧
          note.clears setting.room setting.post = false :=
  History.since_append _ _ _ _

theorem revoked_append (notes : List (Note α)) (note : Note α) (setting : Setting α) :
    Revoked (notes ++ [note]) setting ↔
      Revoked notes setting ∨
        note.revokes setting.room setting.post = true ∧ Recorded notes setting ∧
          setting.id ∉ rung notes :=
  History.once_append _ _ _

theorem settings_append (notes : List (Note α)) (note : Note α) :
    settings (notes ++ [note]) = settings notes ++ note.setting?.toList := by
  unfold settings
  rw [List.filterMap_append]
  cases set : note.setting? with
  | none => rw [List.filterMap_cons_none set]; rfl
  | some setting => rw [List.filterMap_cons_some set]; rfl

theorem ringings_append (notes : List (Note α)) (note : Note α) :
    ringings (notes ++ [note]) = ringings notes ++ note.ringing?.toList := by
  unfold ringings
  rw [List.filterMap_append]
  cases rang : note.ringing? with
  | none => rw [List.filterMap_cons_none rang]; rfl
  | some ringing => rw [List.filterMap_cons_some rang]; rfl

theorem mem_rung_append (notes : List (Note α)) (note : Note α) (id : Nat) :
    id ∈ rung (notes ++ [note]) ↔
      id ∈ rung notes ∨ ∃ ringing, note.ringing? = some ringing ∧ ringing.id = id := by
  unfold rung
  rw [ringings_append, List.map_append, List.mem_append]
  simp only [List.mem_map, Option.mem_toList]

theorem Recorded.mem_settings {notes : List (Note α)} {setting : Setting α}
    (recorded : Recorded notes setting) : setting ∈ settings notes := by
  obtain ⟨before, note, since, rfl, set, _⟩ := recorded
  exact List.mem_filterMap.mpr ⟨note, List.mem_append_right _ List.mem_cons_self, set⟩

theorem Revoked.mem_settings {notes : List (Note α)} {setting : Setting α}
    (revoked : Revoked notes setting) : setting ∈ settings notes := by
  obtain ⟨before, note, since, rfl, _, recorded, _⟩ := revoked
  unfold settings
  rw [List.filterMap_append]
  exact List.mem_append_left _ recorded.mem_settings

variable {timers later : Timers α} {notes : List (Note α)} {note : Note α}
  {setting other : Setting α}

/-- What the notes tell of the timers as they are. -/
structure Tracks (timers : Timers α) (notes : List (Note α)) : Prop where
  numbered : (settings notes).map Setting.id = List.range timers.count
  pending : ∀ alarm, alarm ∈ timers.pending ↔
    ∃ setting ∈ settings notes, alarm = setting.alarm ∧ setting.id ∉ rung notes ∧
      ¬Revoked notes setting
  ahead : ∀ alarm ∈ timers.pending, timers.now ≤ alarm.deadline
  holds : ∀ room post id, (timers.entry room).holds post id ↔
    ∃ setting, Recorded notes setting ∧ setting.room = room ∧ setting.post = post ∧
      setting.id = id
  once : (rung notes).Nodup
  rang : ∀ ringing ∈ ringings notes, ∃ setting ∈ settings notes,
    ringing = ⟨setting.deadline, setting.id, setting.call⟩ ∧ ¬Revoked notes setting
  tidy : timers.Tidy

namespace Tracks

theorem id_lt (tracks : timers.Tracks notes) (member : setting ∈ settings notes) :
    setting.id < timers.count := by
  have listed := List.mem_map_of_mem (f := Setting.id) member
  rw [tracks.numbered] at listed
  exact List.mem_range.mp listed

theorem eq_of_id (tracks : timers.Tracks notes) (member : setting ∈ settings notes)
    (other_member : other ∈ settings notes) (same : setting.id = other.id) : setting = other := by
  have distinct : ((settings notes).map Setting.id).Nodup := by
    rw [tracks.numbered]
    exact List.nodup_range
  exact List.inj_on_of_nodup_map distinct member other_member same

theorem mem_rung (tracks : timers.Tracks notes) {id : Nat} (member : id ∈ rung notes) :
    ∃ setting ∈ settings notes, setting.id = id := by
  obtain ⟨ringing, listed, rfl⟩ := List.mem_map.mp member
  obtain ⟨setting, set, rfl, _⟩ := tracks.rang ringing listed
  exact ⟨setting, set, rfl⟩

theorem ringing_iff (tracks : timers.Tracks notes) (member : setting ∈ settings notes) :
    ⟨setting.deadline, setting.id, setting.call⟩ ∈ ringings notes ↔ setting.id ∈ rung notes := by
  constructor
  · exact fun rang => List.mem_map.mpr ⟨_, rang, rfl⟩
  · intro rang
    obtain ⟨ringing, listed, same⟩ := List.mem_map.mp rang
    obtain ⟨other, set, rfl, _⟩ := tracks.rang ringing listed
    rw [tracks.eq_of_id member set same.symm]
    exact listed

/-- The number of an alarm that is set now is a new one. -/
theorem new (tracks : timers.Tracks notes) (fresh : setting.id = timers.count) :
    setting.id ∉ rung notes ∧ ¬Revoked notes setting ∧
      ∀ room post, ¬(timers.entry room).holds post setting.id := by
  refine ⟨?_, ?_, ?_⟩
  · intro rang
    obtain ⟨other, set, same⟩ := tracks.mem_rung rang
    exact Nat.lt_irrefl _ (fresh ▸ same ▸ tracks.id_lt set)
  · intro revoked
    exact Nat.lt_irrefl _ (fresh ▸ tracks.id_lt revoked.mem_settings)
  · intro room post held
    obtain ⟨other, recorded, _, _, same⟩ := (tracks.holds room post setting.id).mp held
    exact Nat.lt_irrefl _ (fresh ▸ same ▸ tracks.id_lt recorded.mem_settings)

/-- What the record of a room names at a post was set for it there. -/
theorem recorded_iff (tracks : timers.Tracks notes) (member : setting ∈ settings notes)
    (room : RoomId) (post : Post) :
    (timers.entry room).holds post setting.id ↔
      Recorded notes setting ∧ setting.room = room ∧ setting.post = post := by
  rw [tracks.holds]
  constructor
  · rintro ⟨other, recorded, there, at_post, same⟩
    rw [tracks.eq_of_id member recorded.mem_settings same.symm]
    exact ⟨recorded, there, at_post⟩
  · rintro ⟨recorded, there, at_post⟩
    exact ⟨setting, recorded, there, at_post, rfl⟩

end Tracks

namespace Tells

theorem numbered (tells : timers.Tells note later) (tracks : timers.Tracks notes) :
    (settings (notes ++ [note])).map Setting.id = List.range later.count := by
  rw [settings_append, List.map_append, tracks.numbered, tells.count]
  cases set : note.setting? with
  | none => exact List.append_nil _
  | some setting =>
    have fresh := (tells.set setting set).1
    change List.range timers.count ++ [setting.id] = List.range (timers.count + 1)
    rw [fresh, List.range_succ]

/-- What pends was set, has not rung and was not taken back. -/
theorem mem_pending_iff (tells : timers.Tells note later) (tracks : timers.Tracks notes)
    (alarm : Alarm α) :
    alarm ∈ later.pending ↔
      ∃ setting ∈ settings (notes ++ [note]), alarm = setting.alarm ∧
        setting.id ∉ rung (notes ++ [note]) ∧ ¬Revoked (notes ++ [note]) setting := by
  rw [tells.pending, settings_append]
  constructor
  · rintro ⟨there, silent, free⟩
    have standing : ∃ setting ∈ settings notes ++ note.setting?.toList,
        alarm = setting.alarm ∧ setting.id ∉ rung notes ∧ ¬Revoked notes setting := by
      rcases there with old | ⟨setting, set, rfl⟩
      · obtain ⟨setting, member, rest⟩ := (tracks.pending alarm).mp old
        exact ⟨setting, List.mem_append_left _ member, rest⟩
      · have fresh := tracks.new (tells.set setting set).1
        exact ⟨setting, List.mem_append_right _ (Option.mem_toList.mpr set), rfl, fresh.1,
          fresh.2.1⟩
    obtain ⟨setting, member, rfl, unrung, unrevoked⟩ := standing
    refine ⟨setting, member, rfl, ?_, ?_⟩
    · rw [mem_rung_append]
      rintro (before | ⟨ringing, rang, same⟩)
      · exact unrung before
      · exact silent ringing rang same.symm
    · rw [revoked_append]
      rintro (before | ⟨revokes, recorded, _⟩)
      · exact unrevoked before
      -- what the notes have as recorded is what the room has, and that was disarmed
      · exact free _ _ revokes ((tracks.holds _ _ _).mpr ⟨setting, recorded, rfl, rfl, rfl⟩)
  · rintro ⟨setting, member, rfl, unrung, unrevoked⟩
    rw [mem_rung_append, not_or] at unrung
    rw [revoked_append, not_or] at unrevoked
    refine ⟨?_, fun ringing rang same => unrung.2 ⟨ringing, rang, same.symm⟩, ?_⟩
    · rcases List.mem_append.mp member with old | set
      · exact .inl ((tracks.pending _).mpr ⟨setting, old, rfl, unrung.1, unrevoked.1⟩)
      · exact .inr ⟨setting, Option.mem_toList.mp set, rfl⟩
    · intro room post revokes held
      rcases List.mem_append.mp member with old | set
      · obtain ⟨recorded, rfl, rfl⟩ := (tracks.recorded_iff old room post).mp held
        exact unrevoked.2 ⟨revokes, recorded, unrung.1⟩
      · have fresh := (tells.set setting (Option.mem_toList.mp set)).1
        exact (tracks.new fresh).2.2 room post held

theorem holds_iff (tells : timers.Tells note later) (tracks : timers.Tracks notes)
    (room : RoomId) (post : Post) (id : Nat) :
    (later.entry room).holds post id ↔
      ∃ setting, Recorded (notes ++ [note]) setting ∧ setting.room = room ∧
        setting.post = post ∧ setting.id = id := by
  simp only [recorded_append, or_and_right, exists_or]
  rw [tells.holds, tracks.holds]
  refine or_congr_right ?_
  constructor
  · rintro ⟨⟨setting, recorded, rfl, rfl, rfl⟩, kept⟩
    exact ⟨setting, ⟨recorded, kept⟩, rfl, rfl, rfl⟩
  · rintro ⟨setting, ⟨recorded, kept⟩, rfl, rfl, rfl⟩
    exact ⟨⟨setting, recorded, rfl, rfl, rfl⟩, kept⟩

theorem once (tells : timers.Tells note later) (tracks : timers.Tracks notes) :
    (rung (notes ++ [note])).Nodup := by
  unfold rung
  rw [ringings_append, List.map_append]
  cases rang : note.ringing? with
  | none => exact (List.append_nil _).symm ▸ tracks.once
  | some ringing =>
    obtain ⟨⟨alarm, pending, same, _⟩, _⟩ := tells.rang ringing rang
    obtain ⟨setting, _, rfl, unrung, _⟩ := (tracks.pending alarm).mp pending
    change setting.id = ringing.id at same
    rw [same] at unrung
    have longer := tracks.once.concat unrung
    rw [List.concat_eq_append] at longer
    exact longer

/-- Whatever rings has come to its deadline, and was not taken back. -/
theorem rang_when_due (tells : timers.Tells note later) (tracks : timers.Tracks notes) :
    ∀ ringing ∈ ringings (notes ++ [note]), ∃ setting ∈ settings (notes ++ [note]),
      ringing = ⟨setting.deadline, setting.id, setting.call⟩ ∧
        ¬Revoked (notes ++ [note]) setting := by
  intro ringing member
  rw [ringings_append] at member
  rw [settings_append]
  rcases List.mem_append.mp member with old | new
  · obtain ⟨setting, set, rfl, unrevoked⟩ := tracks.rang ringing old
    refine ⟨setting, List.mem_append_left _ set, rfl, ?_⟩
    rw [revoked_append]
    rintro (before | ⟨_, _, unrung⟩)
    · exact unrevoked before
    · exact unrung ((tracks.ringing_iff set).mp old)
  · obtain ⟨⟨alarm, pending, same, called, due⟩, moment, kept⟩ :=
      tells.rang ringing (Option.mem_toList.mp new)
    have ahead := tracks.ahead alarm pending
    obtain ⟨setting, set, rfl, _, unrevoked⟩ := (tracks.pending alarm).mp pending
    refine ⟨setting, List.mem_append_left _ set, ?_, ?_⟩
    -- no time has gone by past an alarm that pends, so it rings when it is due and not later
    · have time : ringing.moment = setting.deadline := by
        rw [moment]
        exact Nat.le_antisymm ahead due
      obtain ⟨_, _, _⟩ := ringing
      cases time
      cases same
      cases called
      rfl
    · rw [revoked_append]
      rintro (before | ⟨revokes, _⟩)
      · exact unrevoked before
      · rw [kept] at revokes
        cases revokes

theorem tracks (tells : timers.Tells note later) (tracks : timers.Tracks notes)
    (tidy : later.Tidy) : later.Tracks (notes ++ [note]) where
  numbered := tells.numbered tracks
  pending := tells.mem_pending_iff tracks
  ahead := by
    intro alarm member
    rcases ((tells.pending alarm).mp member).1 with old | ⟨setting, set, rfl⟩
    · exact tells.ahead tracks.ahead alarm old
    · rw [← (tells.set setting set).2]
      exact Nat.le_add_right _ _
  holds := tells.holds_iff tracks
  once := tells.once tracks
  rang := tells.rang_when_due tracks
  tidy := tidy

end Tells

theorem initial_tracks : (initial : Timers α).Tracks [] where
  numbered := rfl
  pending := by
    intro alarm
    refine iff_of_false List.not_mem_nil ?_
    rintro ⟨setting, impossible, _⟩
    cases impossible
  ahead := fun _ impossible => nomatch impossible
  holds := by
    intro room post id
    refine iff_of_false ?_ ?_
    · cases post <;> exact fun impossible => nomatch impossible
    · rintro ⟨setting, recorded, _⟩
      exact History.not_since_nil _ _ recorded
  once := List.nodup_nil
  rang := fun _ impossible => nomatch impossible
  tidy := initial_tidy

theorem Tracks.after (tracks : timers.Tracks notes) (acts : List (Act α)) :
    (timers.after acts).Tracks (notes ++ timers.notes acts) := by
  induction acts generalizing timers notes with
  | nil =>
    rw [Timers.notes, List.append_nil]
    exact tracks
  | cons act rest ih =>
    have next := ih ((timers.act_tells act).tracks tracks (tracks.tidy.act act))
    rw [List.append_assoc] at next
    exact next

theorem Tracks.mem_pending_startCountdown (tracks : timers.Tracks notes) (room : RoomId)
    (span : Millis) (call : α) :
    timers.alarm span call ∈ (timers.startCountdown room span call).pending := by
  let setting : Setting α := ⟨timers.count, room, .countdown, timers.now, span, call⟩
  have fresh := tracks.new (show setting.id = timers.count from rfl)
  rw [(timers.startCountdown_tells room span call).pending]
  refine ⟨.inr ⟨setting, rfl, rfl⟩, ?_, fun query post _ => fresh.2.2 query post⟩
  exact fun _ impossible => nomatch impossible

/-- A turn can be scheduled when every turn that is recorded for the room has a smaller number. -/
theorem Tracks.isOutdated_iff (tracks : timers.Tracks notes) (room : RoomId) (number : UInt64) :
    timers.isOutdated room number = false ↔
      ∀ setting recorded, Recorded notes setting → setting.room = room →
        setting.post = .turn recorded → recorded < number := by
  have named (recorded : UInt64) (id : Nat) := tracks.holds room (.turn recorded) id
  unfold RoomTimers.holds at named
  unfold isOutdated
  cases running : (timers.entry room).turn with
  | none =>
    rw [running] at named
    refine iff_of_true rfl ?_
    intro setting recorded stands there at_post
    cases (named recorded setting.id).mpr ⟨setting, stands, there, at_post, rfl⟩
  | some timer =>
    rw [running] at named
    dsimp only
    rw [decide_eq_false_iff_not, UInt64.not_le]
    constructor
    · intro newer setting recorded stands there at_post
      have same := (named recorded setting.id).mpr ⟨setting, stands, there, at_post, rfl⟩
      rw [← (Prod.mk.inj (Option.some.inj same)).1]
      exact newer
    · intro newer
      obtain ⟨setting, stands, there, at_post, _⟩ := (named timer.number timer.armed.id).mp rfl
      exact newer setting timer.number stands there at_post

theorem entry_act_of_ne (timers : Timers α) {act : Act α} {room query : RoomId}
    (about : act.room? = some room) (elsewhere : query ≠ room) :
    (timers.act act).2.entry query = timers.entry query := by
  cases act with
  | wait | ring => cases about
  | startCountdown own span call =>
    cases about
    exact (timers.entry_startCountdown room query span call).trans (if_neg elsewhere)
  | stopCountdown own =>
    cases about
    exact (timers.entry_stopCountdown room query).trans (if_neg elsewhere)
  | clearCountdown own =>
    cases about
    exact (timers.entry_clearCountdown room query).trans (if_neg elsewhere)
  | scheduleTurn own number span call =>
    cases about
    exact (timers.entry_scheduleTurn room query number span call).trans
      (if_neg fun both => elsewhere both.1)
  | stopTurn own =>
    cases about
    exact (timers.entry_stopTurn room query).trans (if_neg elsewhere)
  | clearTurn own number =>
    cases about
    exact (timers.entry_clearTurn room query number).trans (if_neg elsewhere)
  | cancelRoom own =>
    cases about
    exact (timers.entry_cancelRoom room query).trans (if_neg elsewhere)

/-- Nothing rings while a call is done. -/
theorem ringing?_of_room (timers : Timers α) {act : Act α} {room : RoomId}
    (about : act.room? = some room) :
    (⟨timers.now, act, (timers.act act).1⟩ : Note α).ringing? = none := by
  cases act with
  | wait | ring => cases about
  | scheduleTurn own number span call =>
    dsimp only [Timers.act]
    split
    · rfl
    · rfl
  | _ => rfl

/-- A call about one room neither sets nor takes back what is set for another. -/
theorem Tracks.mem_pending_act_of_ne (tracks : timers.Tracks notes) {act : Act α} {room : RoomId}
    (about : act.room? = some room) (member : setting ∈ settings notes)
    (elsewhere : setting.room ≠ room) :
    setting.alarm ∈ (timers.act act).2.pending ↔ setting.alarm ∈ timers.pending := by
  rw [(timers.act_tells act).pending]
  constructor
  · rintro ⟨old | ⟨set, fresh, same⟩, _⟩
    · exact old
    · have next := ((timers.act_tells act).set set fresh).1
      have known := tracks.id_lt member
      rw [show setting.id = set.id from congrArg Alarm.id same, next] at known
      exact absurd known (Nat.lt_irrefl _)
  · intro pending
    refine ⟨.inl pending, ?_, ?_⟩
    · intro ringing rang
      rw [timers.ringing?_of_room about] at rang
      cases rang
    · intro query post revokes held
      obtain ⟨_, rfl, _⟩ := (tracks.recorded_iff member query post).mp held
      rw [((⟨timers.now, act, (timers.act act).1⟩ : Note α).elsewhere about elsewhere post).1]
        at revokes
      cases revokes

/-- What becomes of the alarms under any calls, with time going by between them. Each alarm that is
set gets a number of its own, and rings at most once, at its deadline: the moment when it was set
and the shorter of its span and the longest one. When that moment is over, it has rung just in case
it was not taken back, that is, stopped, replaced or cancelled while it was recorded and had not
rung; to forget the record takes nothing back. A countdown is always set. The timer of a turn is set
just in case all that is recorded of the turns of the room has a smaller number, and nothing is
changed otherwise. What is about one room leaves the timers of the others alone, and a room is
listed just in case something is recorded for it. -/
theorem alarms_ring_unless_revoked (acts : List (Act α)) :
    let timers := (initial : Timers α).after acts
    let notes := (initial : Timers α).notes acts
    (settings notes).map Setting.id = List.range timers.count ∧
    (rung notes).Nodup ∧
    (∀ ringing ∈ ringings notes, ∃ setting ∈ settings notes,
      ringing = ⟨setting.deadline, setting.id, setting.call⟩ ∧ ¬Revoked notes setting) ∧
    (∀ setting ∈ settings notes, setting.deadline < timers.now →
      (⟨setting.deadline, setting.id, setting.call⟩ ∈ ringings notes ↔
        ¬Revoked notes setting)) ∧
    (∀ room number, (timers.act (.clearCountdown room)).2.pending = timers.pending ∧
      (timers.act (.clearTurn room number)).2.pending = timers.pending) ∧
    (∀ room span call,
      let (effect, later) := timers.act (.startCountdown room span call)
      effect = .set timers.count ∧
        ⟨timers.count, timers.now + min span maxSpan, call⟩ ∈ later.pending) ∧
    (∀ room number span call,
      let (effect, later) := timers.act (.scheduleTurn room number span call)
      (effect = .set timers.count ↔
        ∀ setting recorded, Recorded notes setting → setting.room = room →
          setting.post = .turn recorded → recorded < number) ∧
      (effect ≠ .set timers.count → later = timers)) ∧
    (∀ act room query, act.room? = some room → query ≠ room →
      let later := (timers.act act).2
      later.entry query = timers.entry query ∧ later.hasTimers query = timers.hasTimers query ∧
        ∀ setting ∈ settings notes, setting.room = query →
          (setting.alarm ∈ later.pending ↔ setting.alarm ∈ timers.pending)) ∧
    (∀ room, timers.hasTimers room = true ↔
      ∃ setting, Recorded notes setting ∧ setting.room = room) := by
  intro timers notes
  have tracks : timers.Tracks notes := initial_tracks.after acts
  refine ⟨tracks.numbered, tracks.once, tracks.rang, ?_, ?_, ?_, ?_, ?_, ?_⟩
  · intro setting member past
    rw [tracks.ringing_iff member]
    constructor
    · intro rang
      obtain ⟨ringing, listed, same⟩ := List.mem_map.mp rang
      obtain ⟨other, set, rfl, unrevoked⟩ := tracks.rang ringing listed
      rw [tracks.eq_of_id member set same.symm]
      exact unrevoked
    · intro unrevoked
      by_contra unrung
      have pending := (tracks.pending _).mpr ⟨setting, member, rfl, unrung, unrevoked⟩
      exact absurd (tracks.ahead _ pending) (Nat.not_le.mpr past)
  · exact fun room number => ⟨rfl, timers.pending_clearTurn room number⟩
  · exact fun room span call => ⟨rfl, tracks.mem_pending_startCountdown room span call⟩
  · intro room number span call
    dsimp only [act]
    rw [← tracks.isOutdated_iff]
    cases outdated : timers.isOutdated room number with
    | true =>
      refine ⟨by simp, fun _ => scheduleTurn_of_outdated outdated span call⟩
    | false => simp
  · intro act room query about elsewhere later
    have same := timers.entry_act_of_ne about elsewhere
    refine ⟨same, ?_, ?_⟩
    · rw [tracks.tidy.act act query, tracks.tidy query, same]
    · rintro setting member rfl
      exact tracks.mem_pending_act_of_ne about member elsewhere
  · intro room
    rw [tracks.tidy room, Bool.not_eq_true', RoomTimers.isEmpty_eq_false_iff]
    constructor
    · rintro ⟨post, id, held⟩
      obtain ⟨setting, recorded, there, _⟩ := (tracks.holds room post id).mp held
      exact ⟨setting, recorded, there⟩
    · rintro ⟨setting, recorded, there⟩
      exact ⟨_, _, (tracks.holds room _ _).mpr ⟨setting, recorded, there, rfl, rfl⟩⟩

/-- What is forgotten rings all the same, and cannot be stopped any more. -/
example :
    ringings ((initial : Timers Nat).notes
      [.startCountdown 1 5 7, .clearCountdown 1, .stopCountdown 1, .wait 9, .ring 0]) =
      [⟨5, 0, 7⟩] := by
  decide

theorem length_ring_lt {alarm : Alarm α} (pending : alarm ∈ timers.pending) :
    (timers.ring alarm).pending.length < timers.pending.length :=
  List.length_filter_lt_length_iff_exists.mpr ⟨alarm, pending, by simp⟩

/-- Where nothing is due before a moment, the clock is put forward to it at once. -/
theorem after_wait (moment : Millis) (free : timers.horizon moment = moment) :
    timers.after [.wait moment] = timers.wait moment ∧
      ringings (timers.notes [.wait moment]) = [] := by
  refine ⟨?_, rfl⟩
  change timers.wait (timers.horizon moment) = timers.wait moment
  rw [free]

/-- The next alarm rings when its time has come. -/
theorem after_ring {alarm : Alarm α} (next : timers.next? = some alarm) :
    ∃ index, ∀ rest,
      timers.after (.wait alarm.deadline :: .ring index :: rest) =
          (timers.ring alarm).after rest ∧
        ringings (timers.notes (.wait alarm.deadline :: .ring index :: rest)) =
          ⟨(timers.ring alarm).now, alarm.id, alarm.call⟩ ::
            ringings ((timers.ring alarm).notes rest) := by
  obtain ⟨index, chosen⟩ := List.getElem?_of_mem (mem_pending_of_next? next)
  have waited : (timers.act (.wait alarm.deadline)).2 = timers.wait alarm.deadline := by
    dsimp only [act]
    unfold horizon
    rw [next]
    dsimp only
    rw [Nat.min_self]
  have rings : (timers.wait alarm.deadline).act (.ring index) =
      (.rang alarm.id alarm.call, timers.ring alarm) := by
    have time : max (max timers.now alarm.deadline) alarm.deadline =
        max timers.now alarm.deadline := Nat.max_eq_left (Nat.le_max_right _ _)
    dsimp only [act, wait]
    rw [chosen]
    dsimp only
    rw [if_pos (Nat.le_max_right _ _)]
    unfold ring
    dsimp only
    rw [time]
  refine ⟨index, fun rest => ?_⟩
  constructor
  · change ((timers.act (.wait alarm.deadline)).2.act (.ring index)).2.after rest = _
    rw [waited, rings]
  · rw [notes, notes, waited, rings]
    rfl

theorem elapseWithin_eq_after {fuel : Nat} (enough : timers.pending.length ≤ fuel)
    (moment : Millis) :
    ∃ acts : List (Act α), (∀ act ∈ acts, act.room? = none) ∧
      timers.after acts = (timers.elapseWithin moment fuel).2 ∧
      (ringings (timers.notes acts)).map (fun ringing => (ringing.moment, ringing.call)) =
        (timers.elapseWithin moment fuel).1 := by
  have rests {timers : Timers α} (free : timers.horizon moment = moment) :
      ∃ acts : List (Act α), (∀ act ∈ acts, act.room? = none) ∧
        timers.after acts = timers.wait moment ∧
        (ringings (timers.notes acts)).map (fun ringing => (ringing.moment, ringing.call)) =
          [] := by
    obtain ⟨final, silent⟩ := after_wait moment free
    refine ⟨[.wait moment], ?_, final, ?_⟩
    · intro act member
      rw [List.mem_singleton.mp member]
      rfl
    · rw [silent]
      rfl
  induction fuel generalizing timers with
  | zero =>
    refine rests ?_
    unfold horizon next?
    rw [List.eq_nil_of_length_eq_zero (Nat.le_zero.mp enough)]
  | succ fuel ih =>
    unfold elapseWithin
    cases next : timers.next? with
    | none =>
      refine rests ?_
      unfold horizon
      rw [next]
    | some alarm =>
      dsimp only
      by_cases due : alarm.deadline ≤ moment
      · rw [if_pos due]
        have fewer := length_ring_lt (mem_pending_of_next? next)
        obtain ⟨acts, idle, final, rang⟩ :=
          ih (Nat.le_of_lt_succ (Nat.lt_of_lt_of_le fewer enough))
        obtain ⟨index, first⟩ := after_ring next
        obtain ⟨same, heard⟩ := first acts
        refine ⟨.wait alarm.deadline :: .ring index :: acts, ?_, same.trans final, ?_⟩
        · simpa [Act.room?] using idle
        · rw [heard, List.map_cons, rang]
      · rw [if_neg due]
        refine rests ?_
        unfold horizon
        rw [next]
        exact Nat.min_eq_left (Nat.le_of_not_le due)

/-- To put the clock forward at once is to wait for one alarm after the other. -/
theorem elapse_eq_after (timers : Timers α) (moment : Millis) :
    ∃ acts : List (Act α), (∀ act ∈ acts, act.room? = none) ∧
      timers.after acts = (timers.elapse moment).2 ∧
      (ringings (timers.notes acts)).map (fun ringing => (ringing.moment, ringing.call)) =
        (timers.elapse moment).1 :=
  elapseWithin_eq_after (Nat.le_refl _) moment

/-- An alarm for more than the longest span rings before its own span is over. -/
theorem far_alarm_rings_early :
    ¬∀ acts : List (Act Nat), let notes := (initial : Timers Nat).notes acts
      ∀ setting ∈ settings notes, ∀ ringing ∈ ringings notes, ringing.id = setting.id →
        setting.moment + setting.span ≤ ringing.moment := by
  intro always
  have late := always [.startCountdown 1 946080000001 0, .wait 946080000001, .ring 0]
    ⟨0, 1, .countdown, 0, 946080000001, 0⟩ (by decide) ⟨946080000000, 0, 0⟩ (by decide) rfl
  exact absurd late (by decide)

end Timers

end WordGame
