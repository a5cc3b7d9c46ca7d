import WordGame.Proofs.Service.Watch

/-!
What the pings are good for. A connection that stays silent after its latest ping is ended when the
time for a pong is over, and one that answers every ping in time is not ended for want of a pong. A
ping puts the deadline of the one before it off: where pings come faster than their deadlines,
silence goes unnoticed.
-/

namespace WordGame

namespace Vigil

variable {setup : Setup} {vigil : Vigil} {id : ConnectionId} {heartbeat : Heartbeat}
  {signs : List (Millis × Sign)}

theorem ended_of_missed (kept : vigil.Kept) (setup : Setup)
    (due : ∀ heartbeat, vigil.service.heartbeat? id = some heartbeat →
      ∃ deadline ∈ heartbeat.keepalive.deadline, deadline ≤ vigil.now) :
    (vigil.undergo setup (.pulse id .missed)).service.sessions.contains id = false := by
  change (vigil.service.meet setup (.pulse id .missed)).sessions.contains id = false
  unfold Table.contains
  rw [Option.isSome_eq_false_iff, Option.isNone_iff_eq_none]
  cases live : vigil.service.sessions.get? id with
  | none =>
    dsimp only [Service.meet]
    unfold Service.isDue
    rw [live]
    exact live
  | some session =>
    obtain ⟨deadline, set, passed⟩ := due session.heartbeat (Service.heartbeat?_of_live live)
    have missed : session.heartbeat.isDue vigil.now .missed = true :=
      (Option.any_eq_true _ _).mpr ⟨deadline, set, decide_eq_true passed⟩
    have come : vigil.service.isDue id .missed = true := Service.isDue_of_live live missed
    exact Option.map_eq_none_iff.mp (Service.meet_missed kept.numbered setup come).own

/-- The deadline of a ping that no pong came after, if it is the latest one. -/
theorem Beating.deadline_of_split {now : Millis} {before after : List (Millis × Sign)}
    {moment : Millis} {number : UInt64}
    (beating : Beating setup now heartbeat (before ++ (moment, .ping number) :: after))
    (unheard : ∀ entry ∈ after, entry.2 ≠ .pong)
    (latest : setup.pongTimeout < setup.pingInterval ∨
      ∀ entry ∈ after, ∀ number, entry.2 ≠ .ping number) :
    heartbeat.keepalive.deadline = some (moment + setup.pongTimeout) ∧
      now ≤ moment + setup.pongTimeout := by
  obtain ⟨newer, listed, last⟩ := unanswered_of_split before moment number unheard
  -- Pings that are slower than their deadlines leave room for one that is unanswered.
  have none : newer = [] := by
    rcases latest with short | silent
    · have single := beating.single short
      rw [listed, List.length_append, List.length_cons] at single
      exact List.length_eq_zero_iff.mp (by omega)
    · exact last silent
  have head : (unanswered (before ++ (moment, .ping number) :: after)).head? = some moment := by
    rw [listed, none]
    rfl
  refine ⟨?_, beating.inTime moment head⟩
  rw [beating.deadline, head]
  rfl

/-- A ping is sent, and no pong comes after it. If it is the latest ping, or if pings come more
slowly than their deadlines, then the session does not outlive the time for a pong, and it is ended
when that time is over. -/
theorem silent_connections_end (setup : Setup) (occasions : List Occasion) (id : ConnectionId)
    (before after : List (Millis × Sign)) (moment : Millis) (number : UInt64)
    (sent : ((initial setup).run setup occasions).signs id =
      before ++ (moment, .ping number) :: after)
    (unheard : ∀ entry ∈ after, entry.2 ≠ .pong)
    (latest : setup.pongTimeout < setup.pingInterval ∨
      ∀ entry ∈ after, ∀ number, entry.2 ≠ .ping number) :
    let vigil := (initial setup).run setup occasions
    (vigil.service.sessions.contains id = true → vigil.now ≤ moment + setup.pongTimeout) ∧
      (moment + setup.pongTimeout ≤ vigil.now →
        (vigil.undergo setup (.pulse id .missed)).service.sessions.contains id = false) := by
  intro vigil
  obtain ⟨kept, watched⟩ : vigil.Kept ∧ vigil.Watched setup id :=
    run_watched (initial_kept setup) (initial_watched setup id) occasions
  have deadline (heartbeat : Heartbeat) (live : vigil.service.heartbeat? id = some heartbeat) :
      heartbeat.keepalive.deadline = some (moment + setup.pongTimeout) ∧
        vigil.now ≤ moment + setup.pongTimeout := by
    have beating := watched.beating heartbeat live
    rw [show vigil.signs id = _ from sent] at beating
    exact beating.deadline_of_split unheard latest
  refine ⟨?_, ?_⟩
  · intro there
    obtain ⟨session, live⟩ := Option.isSome_iff_exists.mp there
    exact (deadline session.heartbeat (Service.heartbeat?_of_live live)).2
  · intro expired
    refine ended_of_missed kept setup ?_
    intro heartbeat live
    exact ⟨moment + setup.pongTimeout, (deadline heartbeat live).1, expired⟩

/-- A connection that answers its first ping only. -/
theorem silent_connections_end_at_second_ping :
    let setup : Setup :=
      ⟨⟨{}, ⟨fun _ => true, fun _ _ => true⟩⟩, .everybody, fun _ => "the", 30000, 10000, fun _ => 0⟩
    let pong : Frame := .text "\x7b\"type\":\"pong\",\"payload\":\x7b\"timestamp\":0\x7d\x7d"
    let occasions : List Occasion :=
      [.accept (some 1) (some "one") "", .wait 30000, .pulse 0 .ping, .read 0 pong, .wait 60000,
        .pulse 0 .ping, .read 0 .other, .wait 80000]
    let vigil := (initial setup).run setup occasions
    vigil.signs 0 = [(30000, .ping 1), (30000, .pong)] ++ (60000, .ping 2) :: [] ∧
      vigil.now = 70000 ∧ vigil.service.sessions.contains 0 = true ∧
      (vigil.undergo setup (.pulse 0 .missed)).service.sessions.contains 0 = false := by
  refine ⟨?sent, by decide +kernel, by decide +kernel, And.right (silent_connections_end _ _ 0
    [(30000, .ping 1), (30000, .pong)] [] 60000 2 ?sent ?_ ?latest) ?_⟩
  case latest => exact .inl (by decide)
  all_goals decide +kernel

/-- Where pings come faster than their deadlines, a connection that never answers is kept. -/
theorem pings_put_deadlines_off :
    let setup : Setup :=
      ⟨⟨{}, ⟨fun _ => true, fun _ _ => true⟩⟩, .everybody, fun _ => "the", 10000, 25000, fun _ => 0⟩
    let occasions : List Occasion :=
      [.accept (some 1) (some "one") "", .wait 10000, .pulse 0 .ping, .wait 20000, .pulse 0 .ping,
        .wait 30000, .pulse 0 .ping, .wait 40000, .pulse 0 .ping]
    let vigil := (initial setup).run setup occasions
    vigil.signs 0 =
        [(10000, .ping 1), (20000, .ping 2), (30000, .ping 3), (40000, .ping 4)] ∧
      vigil.service.sessions.contains 0 = true ∧ 10000 + setup.pongTimeout < vigil.now := by
  decide +kernel

/-- Every ping whose time is over was followed by a pong before that. -/
def Answered (timeout now : Millis) : List (Millis × Sign) → Prop
  | [] => True
  | (moment, .ping _) :: rest =>
    (moment + timeout ≤ now → ∃ entry ∈ rest, entry.2 = .pong ∧ entry.1 < moment + timeout) ∧
      Answered timeout now rest
  | (_, .pong) :: rest | (_, .missed) :: rest => Answered timeout now rest

instance decidableAnswered (timeout now : Millis) :
    (signs : List (Millis × Sign)) → Decidable (Answered timeout now signs)
  | [] => isTrue trivial
  | (_, .ping _) :: rest =>
    have := decidableAnswered timeout now rest
    inferInstanceAs (Decidable (_ ∧ _))
  | (_, .pong) :: rest | (_, .missed) :: rest => decidableAnswered timeout now rest

theorem Answered.of_split {timeout now moment : Millis} {before after : List (Millis × Sign)}
    {number : UInt64} (answered : Answered timeout now (before ++ (moment, .ping number) :: after))
    (expired : moment + timeout ≤ now) :
    ∃ entry ∈ after, entry.2 = .pong ∧ entry.1 < moment + timeout := by
  induction before with
  | nil => exact answered.1 expired
  | cons entry rest ih =>
    obtain ⟨earlier, sign⟩ := entry
    cases sign with
    | ping => exact ih answered.2
    | pong | missed => exact ih answered

/-- The latest of what is unanswered is the latest ping, or was unanswered at first. -/
theorem split_of_foldl_unansweredAfter (older : List Millis) {latest : Millis}
    (listed : (signs.foldl unansweredAfter older).head? = some latest) :
    (∃ before number after, signs = before ++ (latest, .ping number) :: after ∧
        ∀ entry ∈ after, entry.2 ≠ .pong) ∨
      (older.head? = some latest ∧ ∀ entry ∈ signs, entry.2 ≠ .pong) := by
  induction signs generalizing older with
  | nil => exact .inr ⟨listed, List.forall_mem_nil _⟩
  | cons entry rest ih =>
    obtain ⟨moment, sign⟩ := entry
    have further {older : List Millis}
        (listed : (rest.foldl unansweredAfter older).head? = some latest) :
        (∃ before number after, (moment, sign) :: rest = before ++ (latest, .ping number) :: after ∧
          ∀ entry ∈ after, entry.2 ≠ .pong) ∨
        (older.head? = some latest ∧ ∀ entry ∈ rest, entry.2 ≠ .pong) := by
      refine (ih older listed).imp_left ?_
      rintro ⟨before, number, after, rfl, unheard⟩
      exact ⟨(moment, sign) :: before, number, after, rfl, unheard⟩
    cases sign with
    | ping number =>
      rcases further listed with split | ⟨head, unheard⟩
      · exact .inl split
      · cases head
        exact .inl ⟨[], number, rest, rfl, unheard⟩
    | pong =>
      rcases further listed with split | ⟨head, _⟩
      · exact .inl split
      · cases head
    | missed =>
      rcases further listed with split | ⟨head, unheard⟩
      · exact .inl split
      · refine .inr ⟨head, List.forall_mem_cons.mpr ⟨?_, unheard⟩⟩
        exact fun other => nomatch other

/-- A ping that is due is the next one. -/
theorem signs_ping (kept : vigil.Kept) (watched : vigil.Watched setup id)
    (due : vigil.service.isDue id .ping = true)
    (accepts : (vigil.service.queues.queue id).accepts = true) :
    (vigil.undergo setup (.pulse id .ping)).signs id = vigil.signs id ++
      [(vigil.now, .ping (UInt64.ofNat ((numbers (vigil.signs id)).length + 1)))] := by
  obtain ⟨session, live, come⟩ := (Option.any_eq_true _ _).mp due
  have sent := Service.meet_ping kept.numbered setup live come
  rw [accepts, if_pos rfl] at sent
  rw [undergo_of_ping sent fun _ => rfl]
  refine (vigil.note_of_eq id _).trans ?_
  have beating := watched.beating session.heartbeat (Service.heartbeat?_of_live live)
  change _ ++ [(_, Sign.ping (session.heartbeat.keepalive.pings + 1))] = _
  rw [beating.pings, UInt64.ofNat_add]
  rfl

/-- A connection that answers every ping before its time is over misses no deadline, whatever else
it sends. Its pings are numbered from one on, without a gap and without a repetition, and one that
is due is sent. -/
theorem responsive_connections_go_on (setup : Setup) (occasions : List Occasion) (id : ConnectionId)
    (answered : Answered setup.pongTimeout ((initial setup).run setup occasions).now
      (((initial setup).run setup occasions).signs id)) :
    let vigil := (initial setup).run setup occasions
    let signs := vigil.signs id
    (∀ moment, (moment, .missed) ∉ signs) ∧
      numbers signs = (List.range (numbers signs).length).map (fun n => UInt64.ofNat (n + 1)) ∧
      ((numbers signs).length < UInt64.size →
        (numbers signs).map UInt64.toNat = List.range' 1 (numbers signs).length) ∧
      (vigil.service.isDue id .ping = true → (vigil.service.queues.queue id).accepts = true →
        (vigil.undergo setup (.pulse id .ping)).signs id =
          signs ++ [(vigil.now, .ping (UInt64.ofNat ((numbers signs).length + 1)))]) := by
  intro vigil signs
  obtain ⟨kept, watched⟩ : vigil.Kept ∧ vigil.Watched setup id :=
    run_watched (initial_kept setup) (initial_watched setup id) occasions
  refine ⟨?_, watched.numbered, ?_, signs_ping kept watched⟩
  · intro moment missed
    obtain ⟨_, latest, listed, expired⟩ := watched.missed moment missed
    rcases split_of_foldl_unansweredAfter [] listed with
      ⟨before, number, after, split, unheard⟩ | ⟨impossible, _⟩
    · rw [split] at answered
      obtain ⟨entry, member, pong, _⟩ := answered.of_split expired
      exact unheard entry member pong
    · cases impossible
  · intro few
    have numbered : numbers signs = _ := watched.numbered
    rw [numbered, List.map_map, List.length_map, List.length_range, List.range'_eq_map_range]
    refine List.map_congr_left ?_
    intro n member
    have small : n < (numbers signs).length := List.mem_range.mp member
    change (UInt64.ofNat (n + 1)).toNat = 1 + n
    rw [UInt64.toNat_ofNat_of_lt' (by omega), Nat.add_comm]

/-- Pings come faster than their deadlines, and some are answered late, some twice. In between the
client joins a room and sends what is no message at all. -/
theorem responsive_connections_go_on_with_late_pongs :
    let setup : Setup :=
      ⟨⟨{}, ⟨fun _ => true, fun _ _ => true⟩⟩, .everybody, fun _ => "the", 10000, 25000, fun _ => 0⟩
    let pong : Frame := .text "\x7b\"type\":\"pong\",\"payload\":\x7b\"timestamp\":0\x7d\x7d"
    let join : Frame := .text "\x7b\"type\":\"join\",\"payload\":\x7b\"room_id\":42\x7d\x7d"
    let occasions : List Occasion :=
      [.accept (some 1) (some "one") "", .wait 10000, .pulse 0 .ping, .wait 20000, .pulse 0 .ping,
        .read 0 (.text "pong"), .read 0 .other, .wait 28000, .read 0 pong, .wait 30000,
        .pulse 0 .ping, .read 0 join, .wait 40000, .pulse 0 .ping, .read 0 pong, .read 0 pong,
        .wait 50000, .pulse 0 .ping, .wait 60000, .pulse 0 .missed, .pulse 0 .ping, .wait 70000]
    let vigil := (initial setup).run setup occasions
    let signs := vigil.signs 0
    Answered setup.pongTimeout vigil.now signs ∧ vigil.service.sessions.contains 0 = true ∧
      (∀ moment, (moment, .missed) ∉ signs) ∧ numbers signs = [1, 2, 3, 4, 5, 6] ∧
      (numbers signs).map UInt64.toNat = [1, 2, 3, 4, 5, 6] ∧
      (vigil.undergo setup (.pulse 0 .ping)).signs 0 = signs ++ [(70000, .ping 7)] := by
  refine ⟨?answered, ?live, And.left (responsive_connections_go_on _ _ 0 ?answered),
    Eq.trans (And.left (And.right (responsive_connections_go_on _ _ 0 ?answered))) ?numbers,
    Eq.trans (And.left (And.right (And.right (responsive_connections_go_on _ _ 0 ?answered))) ?few)
      ?values,
    Eq.trans (And.right (And.right (And.right (responsive_connections_go_on _ _ 0 ?answered)))
      ?due ?accepts) ?next⟩
  all_goals decide +kernel

end Vigil

end WordGame
