import WordGame.Proofs.Service.Vigil

/-!
What is known of a connection at any moment of a vigil. As long as its session runs, the deadline is
that of the latest ping since the last pong, and no deadline and no ping is overdue; and the pings
are numbered one after the other.
-/

namespace WordGame

namespace Vigil

variable {setup : Setup} {vigil later : Vigil} {id : ConnectionId} {heartbeat : Heartbeat}
  {signs after : List (Millis × Sign)}

def numbers (signs : List (Millis × Sign)) : List UInt64 :=
  signs.filterMap fun entry =>
    match entry.2 with
    | .ping number => some number
    | .pong | .missed => none

/-- What is left unanswered by one more sign. -/
def unansweredAfter (unanswered : List Millis) : Millis × Sign → List Millis
  | (moment, .ping _) => moment :: unanswered
  | (_, .pong) => []
  | (_, .missed) => unanswered

/-- The moments of the pings since the last pong, the latest first. -/
def unanswered (signs : List (Millis × Sign)) : List Millis := signs.foldl unansweredAfter []

@[simp] theorem numbers_concat (signs : List (Millis × Sign)) (moment : Millis) (sign : Sign) :
    numbers (signs ++ [(moment, sign)]) = numbers signs ++
      match sign with
      | .ping number => [number]
      | .pong | .missed => [] := by
  unfold numbers
  rw [List.filterMap_append]
  cases sign with
  | ping | pong | missed => rfl

@[simp] theorem unanswered_concat (signs : List (Millis × Sign)) (entry : Millis × Sign) :
    unanswered (signs ++ [entry]) = unansweredAfter (unanswered signs) entry := by
  unfold unanswered
  rw [List.foldl_append]
  rfl

/-- As long as no pong comes, pings are added to what is unanswered, and nothing else changes it. -/
theorem foldl_unansweredAfter (unheard : ∀ entry ∈ signs, entry.2 ≠ .pong) (older : List Millis) :
    ∃ newer, signs.foldl unansweredAfter older = newer ++ older ∧
      ((∀ entry ∈ signs, ∀ number, entry.2 ≠ .ping number) → newer = []) := by
  induction signs generalizing older with
  | nil => exact ⟨[], rfl, fun _ => rfl⟩
  | cons entry rest ih =>
    have goesOn := ih fun other member => unheard other (List.mem_cons_of_mem _ member)
    obtain ⟨moment, sign⟩ := entry
    cases sign with
    | ping number =>
      obtain ⟨newer, listed, _⟩ := goesOn (moment :: older)
      refine ⟨newer ++ [moment], ?_, ?_⟩
      · rw [List.append_assoc]
        exact listed
      · intro none
        exact absurd rfl (none (moment, .ping number) List.mem_cons_self number)
    | pong => exact absurd rfl (unheard (moment, .pong) List.mem_cons_self)
    | missed =>
      obtain ⟨newer, listed, last⟩ := goesOn older
      exact ⟨newer, listed, fun none =>
        last fun other member => none other (List.mem_cons_of_mem _ member)⟩

/-- A ping that no pong came after is unanswered; it is the latest if no ping came after it. -/
theorem unanswered_of_split (before : List (Millis × Sign)) (moment : Millis) (number : UInt64)
    (unheard : ∀ entry ∈ after, entry.2 ≠ .pong) :
    ∃ newer, unanswered (before ++ (moment, .ping number) :: after) =
        newer ++ moment :: unanswered before ∧
      ((∀ entry ∈ after, ∀ number, entry.2 ≠ .ping number) → newer = []) := by
  unfold unanswered
  rw [List.foldl_append, List.foldl_cons]
  exact foldl_unansweredAfter unheard _

/-- What is kept of all connections. -/
structure Kept (vigil : Vigil) : Prop where
  numbered : vigil.service.Numbered
  sockets : ∀ id, (vigil.service.heartbeat? id).isSome = true →
    vigil.service.sockets.contains id = true
  below : ∀ id, (vigil.service.heartbeat? id).isSome = true → id < vigil.service.connections

/-- What becomes of one connection. -/
inductive Turns (setup : Setup) (vigil : Vigil) (id : ConnectionId) (later : Vigil) : Prop
  | rests (heartbeat : later.service.heartbeat? id = vigil.service.heartbeat? id)
      (signs : later.signs id = vigil.signs id) (passes : vigil.now ≤ later.now)
      (timely : ∀ heartbeat, vigil.service.heartbeat? id = some heartbeat →
        later.now ≤ max vigil.now heartbeat.next.1) : Turns setup vigil id later
  | begins (new : id = vigil.service.connections)
      (heartbeat : later.service.heartbeat? id = some (setup.heartbeat vigil.now))
      (signs : later.signs id = vigil.signs id) (still : later.now = vigil.now) :
      Turns setup vigil id later
  | ends (heartbeat : later.service.heartbeat? id = none) (signs : later.signs id = vigil.signs id)
      (still : later.now = vigil.now) : Turns setup vigil id later
  | pings (heartbeat : Heartbeat) (live : vigil.service.heartbeat? id = some heartbeat)
      (due : heartbeat.nextPing ≤ vigil.now)
      (goesOn : later.service.heartbeat? id = some (heartbeat.ping vigil.now).2)
      (signs : later.signs id =
        vigil.signs id ++ [(vigil.now, .ping (heartbeat.ping vigil.now).1)])
      (still : later.now = vigil.now) : Turns setup vigil id later
  | hears (heartbeat : Heartbeat) (live : vigil.service.heartbeat? id = some heartbeat)
      (goesOn : later.service.heartbeat? id = some heartbeat.pong)
      (signs : later.signs id = vigil.signs id ++ [(vigil.now, .pong)])
      (still : later.now = vigil.now) : Turns setup vigil id later
  | misses (heartbeat : Heartbeat) (deadline : Millis)
      (live : vigil.service.heartbeat? id = some heartbeat)
      (set : heartbeat.keepalive.deadline = some deadline) (due : deadline ≤ vigil.now)
      (ended : later.service.heartbeat? id = none)
      (signs : later.signs id = vigil.signs id ++ [(vigil.now, .missed)])
      (still : later.now = vigil.now) : Turns setup vigil id later

theorem note_of_eq (vigil : Vigil) (id : ConnectionId) (sign : Sign) :
    vigil.note id sign id = vigil.signs id ++ [(vigil.now, sign)] := by
  unfold note
  rw [if_pos rfl]

theorem note_of_ne {other : ConnectionId} (different : id ≠ other) (sign : Sign) :
    vigil.note other sign id = vigil.signs id := by
  unfold note
  rw [if_neg different, List.append_nil]

namespace Acts

theorem rests_of_still (heartbeat : later.service.heartbeat? id = vigil.service.heartbeat? id)
    (signs : later.signs id = vigil.signs id) (still : later.now = vigil.now) :
    vigil.Turns setup id later := by
  refine .rests heartbeat signs (Nat.le_of_eq still.symm) ?_
  intro _ _
  rw [still]
  exact Nat.le_max_left _ _

theorem turns_of_other {other : ConnectionId} {heartbeat : Option Heartbeat} {service : Service}
    {sign : Sign} (alters : vigil.service.Alters other heartbeat service)
    (different : id ≠ other) : vigil.Turns setup id ⟨service, vigil.note other sign⟩ :=
  rests_of_still (alters.others id different) (note_of_ne different sign) alters.now

theorem turns (acts : vigil.Acts setup later) (kept : vigil.Kept) (id : ConnectionId) :
    vigil.Turns setup id later := by
  cases acts with
  | steady service steady => exact rests_of_still (steady.heartbeats id) rfl steady.now
  | waits moment =>
    refine .rests rfl rfl (Nat.le_max_left _ _) ?_
    intro heartbeat live
    obtain ⟨session, listed, same⟩ := Option.map_eq_some_iff.mp live
    have socket := kept.sockets id (Option.isSome_of_eq_some live)
    have bound := Service.horizon_le_next listed socket moment
    rw [same] at bound
    exact Nat.max_le.mpr ⟨Nat.le_max_left _ _, Nat.le_trans bound (Nat.le_max_right _ _)⟩
  | accepts service accepts =>
    by_cases new : id = vigil.service.connections
    · have own := accepts.own
      rw [← new] at own
      split at own
      · exact .ends own rfl accepts.now
      · exact .begins new own rfl accepts.now
    · exact rests_of_still (accepts.others id new) rfl accepts.now
  | ends other service ended =>
    by_cases own : id = other
    · subst own
      exact .ends ended.own rfl ended.now
    · exact rests_of_still (ended.others id own) rfl ended.now
  | pings other session service live due pings =>
    by_cases own : id = other
    · subst own
      exact .pings session.heartbeat (Service.heartbeat?_of_live live) due pings.own
        (vigil.note_of_eq id _) pings.now
    · exact turns_of_other pings.toAlters own
  | hears other session service live retimes =>
    by_cases own : id = other
    · subst own
      exact .hears session.heartbeat (Service.heartbeat?_of_live live) retimes.own
        (vigil.note_of_eq id .pong) retimes.now
    · exact turns_of_other retimes.toAlters own
  | misses other session deadline service live set due ended =>
    by_cases own : id = other
    · subst own
      exact .misses session.heartbeat deadline (Service.heartbeat?_of_live live) set due ended.own
        (vigil.note_of_eq id .missed) ended.now
    · exact turns_of_other ended.toAlters own

theorem connections_le (acts : vigil.Acts setup later) :
    vigil.service.connections ≤ later.service.connections := by
  cases acts with
  | steady service steady => exact Nat.le_of_eq steady.connections.symm
  | waits => exact Nat.le_refl _
  | accepts service accepts => exact accepts.connections ▸ Nat.le_succ _
  | ends _ _ alters | pings _ _ _ _ _ alters | hears _ _ _ _ alters
  | misses _ _ _ _ _ _ _ alters => exact Nat.le_of_eq alters.connections.symm

theorem kept_of_alters {other : ConnectionId} {heartbeat : Option Heartbeat} {service : Service}
    (kept : vigil.Kept) (alters : vigil.service.Alters other heartbeat service)
    (was : heartbeat.isSome = true → (vigil.service.heartbeat? other).isSome = true)
    (signs : ConnectionId → List (Millis × Sign)) : Kept ⟨service, signs⟩ := by
  have before : ∀ id, (service.heartbeat? id).isSome = true →
      (vigil.service.heartbeat? id).isSome = true := by
    intro id there
    by_cases own : id = other
    · rw [own]
      rw [own, alters.own] at there
      exact was there
    · rw [alters.others id own] at there
      exact there
  refine ⟨alters.numbered, ?_, ?_⟩
  · intro id there
    rw [alters.sockets]
    exact kept.sockets id (before id there)
  · intro id there
    rw [alters.connections]
    exact kept.below id (before id there)

theorem kept (acts : vigil.Acts setup later) (kept : vigil.Kept) : later.Kept := by
  cases acts with
  | steady service steady =>
    refine ⟨steady.numbered, ?_, ?_⟩
    · intro id there
      rw [steady.heartbeats] at there
      rw [steady.sockets]
      exact kept.sockets id there
    · intro id there
      rw [steady.heartbeats] at there
      rw [steady.connections]
      exact kept.below id there
  | waits => exact ⟨kept.numbered, kept.sockets, kept.below⟩
  | accepts service accepts =>
    refine ⟨accepts.numbered, ?_, ?_⟩
    · intro id there
      rw [accepts.sockets]
      by_cases new : id = vigil.service.connections
      · exact .inl new
      · rw [accepts.others id new] at there
        exact .inr (kept.sockets id there)
    · intro id there
      rw [accepts.connections]
      by_cases new : id = vigil.service.connections
      · rw [new]
        exact Nat.lt_succ_self _
      · rw [accepts.others id new] at there
        exact Nat.lt_succ_of_lt (kept.below id there)
  | ends other service ended =>
    exact kept_of_alters kept ended.toAlters (fun impossible => nomatch impossible) _
  | pings other session service live _ alters | hears other session service live alters =>
    refine kept_of_alters kept alters.toAlters (fun _ => ?_) _
    exact Option.isSome_of_eq_some (Service.heartbeat?_of_live live)
  | misses other session deadline service live _ _ ended =>
    exact kept_of_alters kept ended.toAlters (fun impossible => nomatch impossible) _

end Acts

/-- The heartbeat of a session that runs, and what was noted of its connection. -/
structure Beating (setup : Setup) (now : Millis) (heartbeat : Heartbeat)
    (signs : List (Millis × Sign)) : Prop where
  interval : heartbeat.interval = setup.pingInterval
  timeout : heartbeat.keepalive.timeout = setup.pongTimeout
  pings : heartbeat.keepalive.pings = UInt64.ofNat (numbers signs).length
  deadline : heartbeat.keepalive.deadline = (unanswered signs).head?.map (· + setup.pongTimeout)
  nextPing : ∀ moment, (unanswered signs).head? = some moment →
    heartbeat.nextPing = moment + setup.pingInterval
  early : now ≤ heartbeat.nextPing
  inTime : ∀ moment, (unanswered signs).head? = some moment → now ≤ moment + setup.pongTimeout
  single : setup.pongTimeout < setup.pingInterval → (unanswered signs).length ≤ 1

namespace Beating

variable {now moment : Millis}

theorem le_next (beating : Beating setup now heartbeat signs) : now ≤ heartbeat.next.1 := by
  unfold Heartbeat.next
  rw [beating.deadline]
  cases open' : (unanswered signs).head? with
  | none => exact beating.early
  | some latest =>
    dsimp only [Option.map_some]
    split
    · exact beating.inTime latest open'
    · exact beating.early

theorem next_le_nextPing (heartbeat : Heartbeat) : heartbeat.next.1 ≤ heartbeat.nextPing := by
  unfold Heartbeat.next
  split
  · split
    · assumption
    · exact Nat.le_refl _
  · exact Nat.le_refl _

theorem next_le_deadline {deadline : Millis}
    (set : heartbeat.keepalive.deadline = some deadline) : heartbeat.next.1 ≤ deadline := by
  unfold Heartbeat.next
  rw [set]
  dsimp only
  split
  · exact Nat.le_refl _
  · rename_i later
    exact Nat.le_of_lt (Nat.lt_of_not_le later)

theorem wait (beating : Beating setup now heartbeat signs)
    (timely : moment ≤ max now heartbeat.next.1) :
    Beating setup moment heartbeat signs := by
  rw [Nat.max_eq_right beating.le_next] at timely
  refine { beating with early := ?_, inTime := ?_ }
  · exact Nat.le_trans timely (next_le_nextPing heartbeat)
  · intro latest listed
    refine Nat.le_trans timely (next_le_deadline ?_)
    rw [beating.deadline, listed]
    rfl

theorem start (now : Millis) (none : signs = []) :
    Beating setup now (setup.heartbeat now) signs := by
  subst none
  exact ⟨rfl, rfl, rfl, rfl, (fun _ impossible => nomatch impossible), Nat.le_add_right _ _,
    (fun _ impossible => nomatch impossible), fun _ => Nat.zero_le _⟩

theorem ping (beating : Beating setup now heartbeat signs) (due : heartbeat.nextPing ≤ now) :
    Beating setup now (heartbeat.ping now).2
      (signs ++ [(now, .ping (heartbeat.ping now).1)]) := by
  constructor
  · exact beating.interval
  · exact beating.timeout
  · rw [numbers_concat, List.length_append]
    change heartbeat.keepalive.pings + 1 = _
    rw [beating.pings, List.length_singleton, UInt64.ofNat_add]
    rfl
  · rw [unanswered_concat]
    change some (now + heartbeat.keepalive.timeout) = some (now + setup.pongTimeout)
    rw [beating.timeout]
  · intro latest listed
    rw [unanswered_concat] at listed
    cases listed
    change now + heartbeat.interval = _
    rw [beating.interval]
  · exact Nat.le_add_right _ _
  · intro latest listed
    rw [unanswered_concat] at listed
    cases listed
    exact Nat.le_add_right _ _
  · intro short
    rw [unanswered_concat]
    -- A ping that is unanswered would have been missed before the next one is due.
    cases open' : unanswered signs with
    | nil => exact Nat.le_refl _
    | cons latest rest =>
      have listed : (unanswered signs).head? = some latest := by
        rw [open']
        rfl
      have next := beating.nextPing latest listed
      have inTime := beating.inTime latest listed
      refine absurd ?_ (Nat.lt_irrefl now)
      calc
        now ≤ latest + setup.pongTimeout := inTime
        _ < latest + setup.pingInterval := Nat.add_lt_add_left short latest
        _ = heartbeat.nextPing := next.symm
        _ ≤ now := due

theorem pong (beating : Beating setup now heartbeat signs) :
    Beating setup now heartbeat.pong (signs ++ [(now, .pong)]) := by
  have answered : unanswered (signs ++ [(now, .pong)]) = [] := unanswered_concat signs (now, .pong)
  constructor
  · exact beating.interval
  · exact beating.timeout
  · rw [numbers_concat, List.append_nil]
    exact beating.pings
  · rw [answered]
    rfl
  · rw [answered]
    exact fun _ impossible => nomatch impossible
  · exact beating.early
  · rw [answered]
    exact fun _ impossible => nomatch impossible
  · rw [answered]
    exact fun _ => Nat.zero_le _

end Beating

/-- What is known of one connection. -/
structure Watched (setup : Setup) (vigil : Vigil) (id : ConnectionId) : Prop where
  unborn : vigil.service.connections ≤ id → vigil.signs id = []
  numbered : numbers (vigil.signs id) =
    (List.range (numbers (vigil.signs id)).length).map fun n => UInt64.ofNat (n + 1)
  beating : ∀ heartbeat, vigil.service.heartbeat? id = some heartbeat →
    Beating setup vigil.now heartbeat (vigil.signs id)
  missed : ∀ moment, (moment, .missed) ∈ vigil.signs id →
    vigil.service.heartbeat? id = none ∧
      ∃ latest, (unanswered (vigil.signs id)).head? = some latest ∧
        latest + setup.pongTimeout ≤ vigil.now

namespace Watched

/-- Nobody who runs has missed a deadline, and no other sign is a missed one. -/
theorem unmissed (watched : vigil.Watched setup id)
    (live : vigil.service.heartbeat? id = some heartbeat) {entry : Millis × Sign}
    (other : entry.2 ≠ .missed) (moment : Millis) :
    (moment, .missed) ∉ vigil.signs id ++ [entry] := by
  intro missed
  rcases List.mem_append.mp missed with before | last
  · cases (watched.missed moment before).1.symm.trans live
  · rw [← List.mem_singleton.mp last] at other
    exact other rfl

theorem numbered_ping (watched : vigil.Watched setup id)
    (live : vigil.service.heartbeat? id = some heartbeat) :
    let signs := vigil.signs id ++ [(vigil.now, .ping (heartbeat.ping vigil.now).1)]
    numbers signs = (List.range (numbers signs).length).map fun n => UInt64.ofNat (n + 1) := by
  dsimp only
  rw [numbers_concat, List.length_append, List.length_singleton, List.range_succ,
    List.map_append, ← watched.numbered]
  change _ ++ [heartbeat.keepalive.pings + 1] = _
  rw [(watched.beating heartbeat live).pings, List.map_singleton, UInt64.ofNat_add]
  rfl

theorem turns (watched : vigil.Watched setup id) (kept : vigil.Kept)
    (turns : vigil.Turns setup id later)
    (connections : vigil.service.connections ≤ later.service.connections) :
    later.Watched setup id := by
  have born : ∀ heartbeat, vigil.service.heartbeat? id = some heartbeat →
      ¬later.service.connections ≤ id := fun heartbeat live =>
    Nat.not_le_of_lt
      (Nat.lt_of_lt_of_le (kept.below id (Option.isSome_of_eq_some live)) connections)
  have unborn : later.signs id = vigil.signs id → later.service.connections ≤ id →
      later.signs id = [] := by
    intro signs above
    rw [signs]
    exact watched.unborn (Nat.le_trans connections above)
  cases turns with
  | rests same signs passes timely =>
    refine ⟨unborn signs, ?_, ?_, ?_⟩
    · rw [signs]
      exact watched.numbered
    · intro heartbeat live
      rw [same] at live
      rw [signs]
      exact (watched.beating heartbeat live).wait (timely heartbeat live)
    · intro moment missed
      rw [signs] at missed ⊢
      rw [same]
      obtain ⟨ended, latest, listed, passed⟩ := watched.missed moment missed
      exact ⟨ended, latest, listed, Nat.le_trans passed passes⟩
  | begins new begun signs still =>
    have nothing := watched.unborn (Nat.le_of_eq new.symm)
    refine ⟨unborn signs, ?_, ?_, ?_⟩
    · rw [signs]
      exact watched.numbered
    · intro heartbeat live
      cases begun.symm.trans live
      rw [still]
      exact .start vigil.now (signs.trans nothing)
    · intro moment missed
      rw [signs, nothing] at missed
      cases missed
  | ends ended signs still =>
    refine ⟨unborn signs, ?_, ?_, ?_⟩
    · rw [signs]
      exact watched.numbered
    · intro heartbeat live
      cases ended.symm.trans live
    · intro moment missed
      rw [signs, still] at *
      exact ⟨ended, (watched.missed moment missed).2⟩
  | pings heartbeat live due goesOn signs still =>
    refine ⟨fun above => absurd above (born heartbeat live), ?_, ?_, ?_⟩
    · rw [signs]
      exact watched.numbered_ping live
    · intro after there
      cases goesOn.symm.trans there
      rw [signs, still]
      exact (watched.beating heartbeat live).ping due
    · intro moment missed
      rw [signs] at missed
      refine absurd missed (watched.unmissed live ?_ moment)
      exact fun impossible => nomatch impossible
  | hears heartbeat live goesOn signs still =>
    refine ⟨fun above => absurd above (born heartbeat live), ?_, ?_, ?_⟩
    · rw [signs, numbers_concat, List.append_nil]
      exact watched.numbered
    · intro after there
      cases goesOn.symm.trans there
      rw [signs, still]
      exact (watched.beating heartbeat live).pong
    · intro moment missed
      rw [signs] at missed
      refine absurd missed (watched.unmissed live ?_ moment)
      exact fun impossible => nomatch impossible
  | misses heartbeat deadline live set due ended signs still =>
    have beating := watched.beating heartbeat live
    refine ⟨fun above => absurd above (born heartbeat live), ?_, ?_, ?_⟩
    · rw [signs, numbers_concat, List.append_nil]
      exact watched.numbered
    · intro after there
      cases ended.symm.trans there
    · intro moment _
      rw [beating.deadline, Option.map_eq_some_iff] at set
      obtain ⟨latest, listed, same⟩ := set
      refine ⟨ended, latest, ?_, ?_⟩
      · rw [signs, unanswered_concat]
        exact listed
      · rw [same, still]
        exact due

end Watched

theorem initial_kept (setup : Setup) : (initial setup).Kept := by
  refine ⟨?_, ?_, ?_⟩
  · intro _ _ impossible
    cases impossible
  · intro _ impossible
    cases impossible
  · intro _ impossible
    cases impossible

theorem initial_watched (setup : Setup) (id : ConnectionId) : (initial setup).Watched setup id := by
  refine ⟨fun _ => rfl, rfl, ?_, ?_⟩
  · intro _ impossible
    cases impossible
  · intro _ impossible
    cases impossible

theorem run_watched (kept : vigil.Kept) (watched : vigil.Watched setup id)
    (occasions : List Occasion) :
    (vigil.run setup occasions).Kept ∧ (vigil.run setup occasions).Watched setup id := by
  induction occasions generalizing vigil with
  | nil => exact ⟨kept, watched⟩
  | cons occasion rest ih =>
    have acts := undergo_acts kept.numbered setup occasion
    rw [run_cons]
    exact ih (acts.kept kept) (watched.turns kept (acts.turns kept id) acts.connections_le)

end Vigil

end WordGame
