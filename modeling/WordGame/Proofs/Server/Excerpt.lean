import WordGame.Proofs.Server.LateCalls
import WordGame.Proofs.Server.Mirror
import WordGame.Proofs.Server.NextAlarm

/-!
What is left of the occurrences on a server when all that concerns other rooms is deleted. On a
server that has nothing but the one room, the rest comes to the same.
-/

namespace WordGame

/-! ### Lists with an element taken out -/

theorem filter_split_at {α : Type} {items : List α} {index : Nat} {item : α}
    (found : items[index]? = some item) {keep : α → Bool} (kept : keep item = true) :
    items.filter keep =
      (items.take index).filter keep ++ item :: (items.drop (index + 1)).filter keep := by
  conv_lhs => rw [split_at found]
  rw [List.filter_append, List.filter_cons_of_pos kept]

theorem getElem?_filter {α : Type} {items : List α} {index : Nat} {item : α}
    (found : items[index]? = some item) {keep : α → Bool} (kept : keep item = true) :
    (items.filter keep)[(items.take index).countP keep]? = some item := by
  rw [filter_split_at found kept, List.countP_eq_length_filter,
    List.getElem?_append_right (Nat.le_refl _), Nat.sub_self]
  rfl

theorem filter_eraseIdx {α : Type} {items : List α} {index : Nat} {item : α}
    (found : items[index]? = some item) {keep : α → Bool} (kept : keep item = true) :
    (items.eraseIdx index).filter keep =
      (items.filter keep).eraseIdx ((items.take index).countP keep) := by
  rw [filter_split_at found kept, List.eraseIdx_eq_take_drop_succ, List.filter_append,
    List.countP_eq_length_filter, List.eraseIdx_append_of_length_le (Nat.le_refl _), Nat.sub_self]
  rfl

namespace Server

/-- What is left of an occurrence for one room: nothing, if it concerns other rooms, or a room that
had the same number before. Time goes by for all of them. -/
def excerpt (id : RoomId) (since : Epoch) (server : Server) : Occurrence → Option Occurrence
  | .join connection room objection =>
    if room = id then some (.join connection room objection) else none
  | .leave connection room => if room = id then some (.leave connection room) else none
  | .answer room player text => if room = id then some (.answer room player text) else none
  | .relay room player text => if room = id then some (.relay room player text) else none
  | .wait moment => some (.wait (server.wait moment).timers.now)
  | .ring =>
    match server.timers.next? with
    | some alarm =>
      if alarm.deadline ≤ server.timers.now ∧ alarm.call.concerns id since then some .ring else none
    | none => none
  | .call index =>
    match server.handed[index]? with
    | some callback =>
      if callback.concerns id since then
        some (.call ((server.handed.take index).countP (Callback.concerns id since)))
      else none
    | none => none

/-- Something is left of an occurrence: it is in the room, time goes by, or a timer of the room is
concerned. -/
inductive Retains (server : Server) (id : RoomId) (since : Epoch) : Occurrence → Occurrence → Prop
  | join (connection : Connection) (objection : Option Refusal) :
      Retains server id since (.join connection id objection) (.join connection id objection)
  | leave (connection : Connection) :
      Retains server id since (.leave connection id) (.leave connection id)
  | answer (player : PlayerId) (text : String) :
      Retains server id since (.answer id player text) (.answer id player text)
  | relay (player : PlayerId) (text : String) :
      Retains server id since (.relay id player text) (.relay id player text)
  | wait (moment : Millis) :
      Retains server id since (.wait moment) (.wait (server.wait moment).timers.now)
  | ring {alarm : Alarm Callback} (next : server.timers.next? = some alarm)
      (due : alarm.deadline ≤ server.timers.now) (concerned : alarm.call.concerns id since = true) :
      Retains server id since .ring .ring
  | call {index : Nat} {callback : Callback} (handed : server.handed[index]? = some callback)
      (concerned : callback.concerns id since = true) :
      Retains server id since (.call index)
        (.call ((server.handed.take index).countP (Callback.concerns id since)))

theorem retains_of_excerpt {server : Server} {id : RoomId} {since : Epoch}
    {occurrence kept : Occurrence} (excerpted : server.excerpt id since occurrence = some kept) :
    server.Retains id since occurrence kept := by
  unfold excerpt at excerpted
  cases occurrence with
  | join connection room objection | leave connection room | answer room player text
  | relay room player text =>
    obtain ⟨rfl, same⟩ := Option.ite_none_right_eq_some.mp excerpted
    cases same
    constructor
  | wait moment =>
    cases excerpted
    exact .wait moment
  | ring =>
    dsimp only at excerpted
    split at excerpted
    · rename_i alarm next
      obtain ⟨⟨due, concerned⟩, same⟩ := Option.ite_none_right_eq_some.mp excerpted
      cases same
      exact .ring next due concerned
    · cases excerpted
  | call index =>
    dsimp only at excerpted
    split at excerpted
    · rename_i callback handed
      obtain ⟨concerned, same⟩ := Option.ite_none_right_eq_some.mp excerpted
      cases same
      exact .call handed concerned
    · cases excerpted

/-- Nothing is to be seen of any other room. -/
def Alone (server : Server) (id : RoomId) : Prop :=
  ∀ room, room ≠ id → server.view room 0 = .bare server.timers.now

variable {names : Names} {id : RoomId} {since : Epoch} {one other : Server} {rules : Rules}
  {fragment : Nat → String}

/-- All that is set or was handed over is for the one room. -/
theorem Alone.room_eq (alone : other.Alone id) {callback : Callback}
    (called : callback ∈ other.callbacks) : callback.room = id := by
  by_contra elsewhere
  have bare := alone callback.room elsewhere
  have concerned : callback.concerns callback.room 0 = true :=
    Callback.concerns_iff.mpr ⟨rfl, Nat.zero_le _⟩
  rcases List.mem_append.mp called with pending | handed
  · obtain ⟨alarm, pends, rfl⟩ := List.mem_map.mp pending
    have seen : alarm ∈ other.timers.alarms alarm.call.room 0 :=
      List.mem_filter.mpr ⟨pends, concerned⟩
    rw [show other.timers.alarms alarm.call.room 0 = [] from congrArg View.alarms bare] at seen
    exact List.not_mem_nil seen
  · have seen : callback ∈ other.handed.filter (Callback.concerns callback.room 0) :=
      List.mem_filter.mpr ⟨handed, concerned⟩
    rw [show other.handed.filter _ = [] from congrArg View.handed bare] at seen
    exact List.not_mem_nil seen

theorem view_eq_bare {room : RoomId} (nobody : other.site room = ⟨none, .empty, .none⟩)
    (gone : ∀ callback ∈ other.callbacks, callback.concerns room since = false) :
    other.view room since = .bare other.timers.now := by
  have alarms : other.timers.alarms room since = [] := by
    refine List.filter_eq_nil_iff.mpr fun alarm pending => Bool.eq_false_iff.mp ?_
    exact gone alarm.call (List.mem_append_left _ (List.mem_map_of_mem pending))
  have handed : other.handed.filter (Callback.concerns room since) = [] := by
    refine List.filter_eq_nil_iff.mpr fun callback handed => Bool.eq_false_iff.mp ?_
    exact gone callback (List.mem_append_right _ handed)
  unfold view View.bare
  rw [nobody, alarms, handed]

theorem alone_iff : other.Alone id ↔
    (∀ room, room ≠ id → other.site room = ⟨none, .empty, .none⟩) ∧
      ∀ callback ∈ other.callbacks, callback.room = id := by
  constructor
  · intro alone
    exact ⟨fun room elsewhere => congrArg View.toSite (alone room elsewhere),
      fun _ called => alone.room_eq called⟩
  · rintro ⟨sites, own⟩ room elsewhere
    refine view_eq_bare (sites room elsewhere) fun callback called => ?_
    rw [Bool.eq_false_iff]
    intro concerned
    exact elsewhere ((Callback.concerns_iff.mp concerned).1.symm.trans (own callback called))

theorem Alone.alarms (alone : other.Alone id) :
    other.timers.alarms id 0 = other.timers.pending := by
  refine List.filter_eq_self.mpr fun alarm pending => Callback.concerns_iff.mpr ⟨?_, Nat.zero_le _⟩
  exact alone.room_eq (List.mem_append_left _ (List.mem_map_of_mem pending))

theorem Alone.handed (alone : other.Alone id) :
    other.handed.filter (Callback.concerns id 0) = other.handed := by
  refine List.filter_eq_self.mpr fun callback handed =>
    Callback.concerns_iff.mpr ⟨?_, Nat.zero_le _⟩
  exact alone.room_eq (List.mem_append_right _ handed)

/-! ### What happens in the room -/

theorem Mirrors.join (mirrors : one.Mirrors names id since other) (late : names.Late since)
    (rules : Rules) (fragment : Nat → String) (connection : Connection)
    (objection : Option Refusal) :
    (one.undergo rules fragment (.join connection id objection)).Mirrors names id since
      (other.undergo rules fragment (.join connection id objection)) := by
  rw [undergo_join, undergo_join]
  cases objection with
  | some refusal => exact ⟨mirrors, rfl⟩
  | none =>
    rcases Registry.register_congr mirrors.members mirrors.capacity connection with
      ⟨full, first, second⟩ | ⟨registration, _, _, first, second, members, capacity⟩
    · rw [first, second]
      exact ⟨mirrors, rfl⟩
    · rw [first, second]
      exact mirrors.welcome late rules connection registration members capacity

theorem Mirrors.leave (mirrors : one.Mirrors names id since other) (late : names.Late since)
    (connection : Connection) (first : one.Settled id) (second : other.Settled id)
    (counts : one.Counts (one.undergo rules fragment (.leave connection id)).server) :
    (one.undergo rules fragment (.leave connection id)).Mirrors names id since
      (other.undergo rules fragment (.leave connection id)) := by
  dsimp only [undergo] at counts ⊢
  rw [leave_eq] at counts ⊢
  rw [leave_eq]
  rcases Registry.unregister_congr mirrors.members mirrors.capacity connection.identity.id
      connection.id with
    ⟨here, there⟩ | ⟨left, registry, registry', here, there, members, capacity⟩
  · rw [here, there]
    exact ⟨mirrors, rfl⟩
  · rw [here] at counts ⊢
    rw [there]
    dsimp only [Option.map_some, Option.getD_some] at counts ⊢
    by_cases last : left = 0
    · rw [if_pos last, if_pos last]
      exact ⟨mirrors.removed late members capacity, rfl⟩
    · rw [if_neg last] at counts ⊢
      rw [if_neg last, Registry.broadcast_congr members]
      rw [Registry.broadcast_congr members] at counts
      exact (mirrors.registered members capacity).makeMove late rules fragment
        (.remove connection.identity.id) _ (fun _ _ => trivial)
        (settled_registry registry first).numbered (settled_registry registry' second).numbered counts

theorem Mirrors.answer (mirrors : one.Mirrors names id since other) (late : names.Late since)
    (player : PlayerId) (text : String) (first : one.Settled id) (second : other.Settled id)
    (counts : one.Counts (one.undergo rules fragment (.answer id player text)).server) :
    (one.undergo rules fragment (.answer id player text)).Mirrors names id since
      (other.undergo rules fragment (.answer id player text)) := by
  dsimp only [undergo] at counts ⊢
  rw [answer_eq] at counts ⊢
  rw [answer_eq]
  exact mirrors.makeMove late rules fragment (.answer player text) [] (fun _ _ => trivial)
    first.numbered second.numbered counts

/-- The clock is not put forward past an alarm that has yet to ring. -/
theorem horizon_le (server : Server) (moment : Millis) {alarm : Alarm Callback}
    (pending : alarm ∈ server.timers.pending) : server.horizon moment ≤ alarm.deadline := by
  obtain ⟨next, isNext⟩ := server.timers.exists_next? pending
  unfold horizon
  rw [isNext]
  exact Nat.le_trans (Nat.min_le_right _ _) (Timers.deadline_le_of_next? isNext pending)

/-- The clock is put forward to a moment that it has not passed, and no alarm comes before. -/
theorem now_wait (server : Server) {moment : Millis} (later : server.timers.now ≤ moment)
    (first : moment = server.timers.now ∨
      ∀ alarm, server.timers.next? = some alarm → moment ≤ alarm.deadline) :
    (server.wait moment).timers.now = moment := by
  change max server.timers.now (server.horizon moment) = moment
  unfold horizon
  cases next : server.timers.next? with
  | none => exact Nat.max_eq_right later
  | some alarm =>
    dsimp only
    rcases first with same | early
    · rw [← same]
      exact Nat.max_eq_left (Nat.min_le_left _ _)
    · rw [Nat.min_eq_left (early alarm next)]
      exact Nat.max_eq_right later

/-- No alarm of the room is missed when time goes by. -/
theorem Mirrors.now_wait (mirrors : one.Mirrors names id since other) (alone : other.Alone id)
    (moment : Millis) :
    (other.wait (one.wait moment).timers.now).timers.now = (one.wait moment).timers.now := by
  have later : one.timers.now ≤ (one.wait moment).timers.now := Nat.le_max_left _ _
  refine Server.now_wait other (mirrors.timers.now ▸ later) ?_
  -- Either the clock is put forward, and then no alarm of the room comes before, or it stands still.
  by_cases ahead : one.timers.now < one.horizon moment
  · refine .inr fun alarm next => ?_
    have there : alarm.rename names ∈ one.timers.alarms id since := by
      rw [mirrors.timers.alarms, alone.alarms]
      exact List.mem_map_of_mem (Timers.mem_pending_of_next? next)
    have least := one.horizon_le moment (List.mem_filter.mp there).1
    exact Nat.le_trans (Nat.le_of_eq (Nat.max_eq_right (Nat.le_of_lt ahead))) least
  · refine .inl ?_
    rw [← mirrors.timers.now]
    exact Nat.max_eq_left (Nat.le_of_not_lt ahead)

theorem Mirrors.wait (mirrors : one.Mirrors names id since other) (alone : other.Alone id)
    (moment : Millis) :
    (one.wait moment).Mirrors names id since (other.wait (one.wait moment).timers.now) := by
  have now := (mirrors.now_wait alone moment).symm
  exact ⟨mirrors.room, mirrors.members, mirrors.capacity,
    ⟨now, mirrors.timers.entry, mirrors.timers.alarms, mirrors.timers.lead⟩, mirrors.handed,
    mirrors.epochs, mirrors.turns⟩

theorem Mirrors.ring (mirrors : one.Mirrors names id since other) (late : names.Late since)
    (alone : other.Alone id) {alarm : Alarm Callback} (next : one.timers.next? = some alarm)
    (due : alarm.deadline ≤ one.timers.now) (concerned : alarm.call.concerns id since = true) :
    (one.ring alarm).Mirrors names id since other.ringDue := by
  have isNext : Timers.IsNext (one.timers.alarms id since) alarm :=
    ((Timers.next?_eq_some_iff _ _).mp next).filter concerned
  rw [mirrors.timers.alarms, alone.alarms] at isNext
  obtain ⟨original, isFirst, rfl⟩ := isNext.of_map (Alarm.rename names) (fun _ => rfl)
  have nextThere := (Timers.next?_eq_some_iff other.timers original).mpr isFirst
  have ringing : other.ringDue = other.ring original := by
    unfold ringDue
    rw [nextThere]
    exact if_pos (mirrors.timers.now ▸ due)
  rw [ringing]
  refine ⟨mirrors.room, mirrors.members, mirrors.capacity, mirrors.timers.ring late.alarm original,
    ?_, mirrors.epochs, mirrors.turns⟩
  unfold Server.ring
  dsimp only
  have pending := Timers.mem_pending_of_next? nextThere
  rw [← alone.alarms] at pending
  have here : original.call.concerns id 0 = true := (List.mem_filter.mp pending).2
  rw [List.filter_append, List.filter_append, List.map_append, mirrors.handed,
    List.filter_cons_of_pos concerned, List.filter_cons_of_pos here]
  rfl

/-- What was handed over on one server was handed over on the other. -/
theorem Mirrors.handed_there (mirrors : one.Mirrors names id since other) (alone : other.Alone id)
    {index : Nat} {callback : Callback} (handed : one.handed[index]? = some callback)
    (concerned : callback.concerns id since = true) :
    let place := (one.handed.take index).countP (Callback.concerns id since)
    ∃ original, other.handed[place]? = some original ∧ original.rename names = callback ∧
      (one.handed.eraseIdx index).filter (Callback.concerns id since) =
        ((other.handed.eraseIdx place).filter (Callback.concerns id 0)).map
          (Callback.rename names) := by
  intro place
  have listed := getElem?_filter handed concerned
  rw [mirrors.handed, alone.handed, List.getElem?_map] at listed
  obtain ⟨original, there, same⟩ := Option.map_eq_some_iff.mp listed
  have left : (other.handed.eraseIdx place).filter (Callback.concerns id 0) =
      other.handed.eraseIdx place := by
    refine List.filter_eq_self.mpr fun callback member => ?_
    have before := List.mem_of_mem_eraseIdx member
    rw [← alone.handed] at before
    exact (List.mem_filter.mp before).2
  refine ⟨original, there, same, ?_⟩
  rw [filter_eraseIdx handed concerned, mirrors.handed, alone.handed, left]
  exact List.eraseIdx_map _ _ _

theorem Mirrors.taken (mirrors : one.Mirrors names id since other) {here there : Nat}
    (left : (one.handed.eraseIdx here).filter (Callback.concerns id since) =
      ((other.handed.eraseIdx there).filter (Callback.concerns id 0)).map (Callback.rename names))
    {first second : Timers Callback} (timers : first.Mirrors names id since second) :
    { one with handed := one.handed.eraseIdx here, timers := first }.Mirrors names id since
      { other with handed := other.handed.eraseIdx there, timers := second } :=
  ⟨mirrors.room, mirrors.members, mirrors.capacity, timers, left, mirrors.epochs, mirrors.turns⟩

theorem Mirrors.callStart (mirrors : one.Mirrors names id since other) (late : names.Late since)
    {here there : Nat} {epoch : Epoch}
    (onOne : one.handed[here]? = some (.start id (names.epoch epoch)))
    (onOther : other.handed[there]? = some (.start id epoch))
    (left : (one.handed.eraseIdx here).filter (Callback.concerns id since) =
      ((other.handed.eraseIdx there).filter (Callback.concerns id 0)).map (Callback.rename names))
    (first : one.Settled id) (second : other.Settled id)
    (counts : one.Counts (one.callNth rules fragment here).server) :
    (one.callNth rules fragment here).Mirrors names id since
      (other.callNth rules fragment there) := by
  rw [callNth_start rules fragment onOne] at counts ⊢
  rw [callNth_start rules fragment onOther]
  have same : (one.store.get? id).map Room.epoch = some (names.epoch epoch) ↔
      (other.store.get? id).map Room.epoch = some epoch := by
    rw [mirrors.room]
    cases other.store.get? id with
    | none => exact iff_of_false (fun none => nomatch none) (fun none => nomatch none)
    | some found =>
      exact (Option.some_inj.trans late.epoch.injective.eq_iff).trans Option.some_inj.symm
  by_cases stands : (other.store.get? id).map Room.epoch = some epoch
  · rw [if_pos (same.mpr stands)] at counts ⊢
    rw [if_pos stands]
    have taken := mirrors.taken left (mirrors.timers.clearCountdown late.alarm)
    exact taken.makeMove late rules fragment .start [] (fun _ _ => trivial)
      (handed_settled id here first).numbered (handed_settled id there second).numbered counts
  · rw [if_neg (fun both => stands (same.mp both)), if_neg stands]
    exact ⟨mirrors.taken left mirrors.timers, rfl⟩

theorem Mirrors.callExpire (mirrors : one.Mirrors names id since other) (late : names.Late since)
    {here there : Nat} {ticket : Ticket}
    (onOne : one.handed[here]? = some (.expire id (ticket.rename names)))
    (onOther : other.handed[there]? = some (.expire id ticket))
    (left : (one.handed.eraseIdx here).filter (Callback.concerns id since) =
      ((other.handed.eraseIdx there).filter (Callback.concerns id 0)).map (Callback.rename names))
    (first : one.Numbered id) (second : other.Numbered id) (known : other.Known)
    (counts : one.Counts (one.callNth rules fragment here).server) :
    (one.callNth rules fragment here).Mirrors names id since
      (other.callNth rules fragment there) := by
  rw [callNth_expire rules fragment onOne] at counts ⊢
  rw [callNth_expire rules fragment onOther]
  have given := second.called ticket (mem_callbacks_of_handed onOther)
  have cleared : (one.timers.clearTurn id (names.turn ticket.number)).Mirrors names id since
      (other.timers.clearTurn id ticket.number) := by
    refine mirrors.timers.clearTurn late.alarm fun timer recorded => ?_
    exact mirrors.turn_eq_iff late.toAscending (second.recorded timer recorded) given
  refine (mirrors.taken left cleared).makeMove late rules fragment (.expire ticket) [] ?_
    (cleared_numbered _ here first) (cleared_numbered _ there second) counts
  intro found present
  exact Room.distinguishes_expire late.epoch.injective.eq_iff
    (mirrors.turn_eq_iff late.toAscending (known.latest id found present) given)

theorem Mirrors.call (mirrors : one.Mirrors names id since other) (late : names.Late since)
    (alone : other.Alone id) {index : Nat} {callback : Callback}
    (handed : one.handed[index]? = some callback)
    (concerned : callback.concerns id since = true) (first : one.Settled id)
    (second : other.Settled id) (known : other.Known)
    (counts : one.Counts (one.callNth rules fragment index).server) :
    (one.callNth rules fragment index).Mirrors names id since
      (other.callNth rules fragment
        ((one.handed.take index).countP (Callback.concerns id since))) := by
  obtain ⟨original, there, rfl, left⟩ := mirrors.handed_there alone handed concerned
  have own := alone.room_eq (mem_callbacks_of_handed there)
  cases original with
  | start room epoch =>
    obtain rfl : id = room := own.symm
    exact mirrors.callStart late handed there left first second counts
  | expire room ticket =>
    obtain rfl : id = room := own.symm
    exact mirrors.callExpire late handed there left first.numbered second.numbered known counts

/-- What is left of an occurrence comes to the same on a server that has nothing but the room. -/
theorem Mirrors.undergo (mirrors : one.Mirrors names id since other) (late : names.Late since)
    (alone : other.Alone id) (first : one.Settled id) (second : other.Settled id)
    (known : other.Known) {occurrence kept : Occurrence}
    (retains : one.Retains id since occurrence kept)
    (counts : one.Counts (one.undergo rules fragment occurrence).server) :
    (one.undergo rules fragment occurrence).Mirrors names id since
      (other.undergo rules fragment kept) := by
  cases retains with
  | join connection objection => exact mirrors.join late rules fragment connection objection
  | leave connection => exact mirrors.leave late connection first second counts
  | answer player text => exact mirrors.answer late player text first second counts
  | relay player text => exact ⟨mirrors, Registry.broadcast_congr mirrors.members _⟩
  | wait moment => exact ⟨mirrors.wait alone moment, rfl⟩
  | @ring alarm next due concerned =>
    have ringing : one.ringDue = one.ring alarm := by
      unfold ringDue
      rw [next]
      exact if_pos due
    dsimp only [Server.undergo, Transaction.begin]
    rw [ringing]
    exact ⟨mirrors.ring late alone next due concerned, rfl⟩
  | call handed concerned =>
    exact mirrors.call late alone handed concerned first second known counts

/-! ### What happens elsewhere -/

variable {server : Server}

/-- Nothing of a transaction shows in a room, and its members are told nothing. -/
structure Unseen (server : Server) (id : RoomId) (since : Epoch) (transaction : Transaction) :
    Prop where
  view : transaction.server.view id since = server.view id since
  told : transaction.deliveries.filter (Delivery.isAbout id) = []

theorem unseen_begin (server : Server) (id : RoomId) (since : Epoch) :
    server.Unseen id since (.begin server) :=
  ⟨rfl, rfl⟩

/-- What was called for by timers of rooms that are gone does nothing. -/
theorem unseen_call (agrees : (server.site id).Agrees) (settled : server.Settled id)
    (late : ∀ found, server.store.get? id = some found → since ≤ found.epoch) {index : Nat}
    {callback : Callback} (handed : server.handed[index]? = some callback)
    (here : callback.room = id) (gone : callback.epoch < since) :
    server.Unseen id since (server.callNth rules fragment index) := by
  let left : Server := { server with handed := server.handed.eraseIdx index }
  have called := mem_callbacks_of_handed handed
  have idle : left.call rules fragment callback = .begin left := by
    cases callback with
    | start room epoch =>
      cases here
      refine startGame_of_other fun found present same => ?_
      have bound := late found present
      rw [same] at bound
      exact absurd gone (Nat.not_lt_of_le bound)
    | expire room ticket =>
      cases here
      have stale : ∀ found, server.store.get? room = some found →
          found.isRunning ticket = false := by
        intro found present
        rw [Bool.eq_false_iff]
        intro running
        have bound := late found present
        rw [((found.isRunning_iff ticket).mp running).1] at bound
        exact absurd gone (Nat.not_lt_of_le bound)
      have unrecorded : (server.timers.entry room).turn.map TurnTimer.number ≠
          some ticket.number := unrecorded_of_stale agrees settled called stale
      exact @endTurn_of_stale rules fragment left room ticket unrecorded stale
  unfold callNth
  rw [handed]
  dsimp only
  rw [idle]
  refine ⟨view_of_same rfl rfl rfl (eraseIdx_filter_of_neg handed ?_), rfl⟩
  rw [Bool.eq_false_iff]
  exact fun concerned => Nat.not_lt_of_le (Callback.concerns_iff.mp concerned).2 gone

theorem unseen_ring (orderly : server.timers.Orderly) {alarm : Alarm Callback}
    (next : server.timers.next? = some alarm) (due : alarm.deadline ≤ server.timers.now)
    (elsewhere : alarm.call.concerns id since = false) :
    (server.ring alarm).view id since = server.view id since := by
  have pending := Timers.mem_pending_of_next? next
  refine view_of_same rfl (Nat.max_eq_left due) ?_ ?_
  · change (server.timers.pending.filter _).filter _ = server.timers.pending.filter _
    rw [List.filter_filter]
    refine List.filter_congr fun other member => ?_
    cases concerned : other.call.concerns id since with
    | false => rfl
    | true =>
      rw [Bool.true_and, decide_eq_true_iff]
      intro same
      rw [orderly.eq_of_id member pending same, elsewhere] at concerned
      cases concerned
  · change (server.handed ++ [alarm.call]).filter _ = server.handed.filter _
    rw [List.filter_append, List.filter_cons_of_neg (Bool.eq_false_iff.mp elsewhere)]
    exact List.append_nil _

/-- An occurrence of which nothing is left for a room is not seen there. -/
theorem unseen_undergo (orderly : server.timers.Orderly) (filed : server.Filed)
    (agrees : ∀ id, (server.site id).Agrees) (settled : server.Settled id)
    (late : ∀ found, server.store.get? id = some found → since ≤ found.epoch)
    {occurrence : Occurrence} (excerpted : server.excerpt id since occurrence = none) :
    server.Unseen id since (server.undergo rules fragment occurrence) := by
  have outside : ∀ room, server.room? occurrence = some room → id ≠ room →
      server.Unseen id since (server.undergo rules fragment occurrence) := by
    intro room here other
    exact ⟨(undergo_confined orderly rules fragment here).view id other since,
      silent_undergo filed here other⟩
  unfold excerpt at excerpted
  cases occurrence with
  | join connection room objection | leave connection room | answer room player text
  | relay room player text =>
    refine outside room rfl ?_
    rintro rfl
    cases (if_pos rfl).symm.trans excerpted
  | wait moment => cases excerpted
  | ring =>
    cases next : server.timers.next? with
    | none =>
      have idle : server.ringDue = server := by
        unfold ringDue
        rw [next]
      dsimp only [Server.undergo]
      rw [idle]
      exact server.unseen_begin id since
    | some alarm =>
      simp only [next] at excerpted
      dsimp only [Server.undergo]
      unfold ringDue
      rw [next]
      dsimp only
      by_cases due : alarm.deadline ≤ server.timers.now
      · rw [if_pos due]
        refine ⟨unseen_ring orderly next due ?_, rfl⟩
        rw [Bool.eq_false_iff]
        intro concerned
        cases (if_pos ⟨due, concerned⟩).symm.trans excerpted
      · rw [if_neg due]
        exact server.unseen_begin id since
  | call index =>
    cases handed : server.handed[index]? with
    | none =>
      have idle : server.callNth rules fragment index = .begin server := by
        unfold callNth
        rw [handed]
      dsimp only [Server.undergo]
      rw [idle]
      exact server.unseen_begin id since
    | some callback =>
      simp only [handed] at excerpted
      by_cases here : callback.room = id
      · refine unseen_call (agrees id) settled late handed here (Nat.lt_of_not_le fun bound => ?_)
        cases (if_pos (Callback.concerns_iff.mpr ⟨here, bound⟩)).symm.trans excerpted
      · exact outside callback.room (congrArg (Option.map Callback.room) handed) (Ne.symm here)

/-! ### The room alone -/

theorem Confined.alone {later : Server} (confined : server.Confined id later)
    (alone : server.Alone id) : later.Alone id := by
  intro room elsewhere
  have same := confined.view room elsewhere 0
  have now : later.timers.now = server.timers.now := congrArg View.now same
  rw [same, now]
  exact alone room elsewhere

/-- What is left of an occurrence is in the room, if it is in any. -/
theorem room?_of_retains (alone : other.Alone id) {occurrence kept : Occurrence}
    (retains : one.Retains id since occurrence kept) {room : RoomId}
    (here : other.room? kept = some room) : room = id := by
  cases retains with
  | join | leave | answer | relay => exact (Option.some.inj here).symm
  | wait | ring => cases here
  | call =>
    obtain ⟨callback, handed, rfl⟩ := Option.map_eq_some_iff.mp here
    exact alone.room_eq (mem_callbacks_of_handed handed)

/-- A server that has nothing but one room has nothing else after what happens in the room. -/
theorem Alone.undergo (alone : other.Alone id) (orderly : other.timers.Orderly) (rules : Rules)
    (fragment : Nat → String) {occurrence kept : Occurrence}
    (retains : one.Retains id since occurrence kept) :
    (other.undergo rules fragment kept).server.Alone id := by
  cases here : other.room? kept with
  | some room =>
    have confined := undergo_confined orderly rules fragment here
    exact (room?_of_retains alone retains here ▸ confined).alone alone
  | none =>
    obtain ⟨sites, own⟩ := alone_iff.mp alone
    rcases undergo_nowhere rules fragment here with
      idle | ⟨moment, waits⟩ | ⟨alarm, next, rings⟩
    · rw [idle]
      exact alone
    · rw [waits]
      exact alone_iff.mpr ⟨sites, own⟩
    · rw [rings]
      refine alone_iff.mpr ⟨sites, fun callback called => own callback ?_⟩
      exact (other.ring_callbacks next).subset called

end Server

end WordGame
