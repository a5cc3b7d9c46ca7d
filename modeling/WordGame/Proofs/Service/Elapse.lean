import WordGame.Proofs.Service.Vigil

/-!
Putting the clock forward is a vigil. Settling, waiting for what is due and letting it happen are
occasions that come one after the other, in an order of their own.
-/

namespace WordGame

namespace Vigil

theorem run_append (setup : Setup) (vigil : Vigil) (first second : List Occasion) :
    vigil.run setup (first ++ second) = (vigil.run setup first).run setup second :=
  List.foldl_append

end Vigil

theorem Heartbeat.isDue_of_next {heartbeat : Heartbeat} {due now : Millis} {pulse : Pulse}
    (next : heartbeat.next = (due, pulse)) (reached : due ≤ now) :
    heartbeat.isDue now pulse = true := by
  unfold Heartbeat.next at next
  split at next
  · rename_i deadline set
    split at next
    · cases next
      unfold isDue
      rw [set]
      exact decide_eq_true reached
    · cases next
      exact decide_eq_true reached
  · cases next
    exact decide_eq_true reached

namespace Service

variable {setup : Setup} {service middle later : Service} {id : ConnectionId} {session : Session}
  {due : Millis} {beat : Beat}

/-- Whatever was noted before, a vigil can bring a service from here to there. -/
def Leads (setup : Setup) (service later : Service) : Prop :=
  ∀ signs, ∃ occasions, ((⟨service, signs⟩ : Vigil).run setup occasions).service = later

theorem Leads.refl (setup : Setup) (service : Service) : service.Leads setup service :=
  fun _ => ⟨[], rfl⟩

theorem Leads.trans (first : service.Leads setup middle) (second : middle.Leads setup later) :
    service.Leads setup later := by
  intro signs
  obtain ⟨before, rfl⟩ := first signs
  obtain ⟨after, reached⟩ := second ((⟨service, signs⟩ : Vigil).run setup before).signs
  refine ⟨before ++ after, ?_⟩
  rw [Vigil.run_append]
  exact reached

theorem leads_of_meet (occasion : Occasion) (met : service.meet setup occasion = later) :
    service.Leads setup later :=
  fun _ => ⟨[occasion], met⟩

/-! ### Settling -/

theorem leave_departures (service : Service) (setup : Setup) (connection : Connection)
    (room : RoomId) (departures : List (Connection × RoomId)) :
    { service with departures := departures }.leave setup connection room =
      { service.leave setup connection room with departures := departures } := by
  unfold leave supply
  dsimp only
  split
  · rfl
  · rfl

/-- Those who were dropped depart one after the other, the first one first. -/
theorem depart_leads (setup : Setup) (service : Service) :
    service.Leads setup (service.depart setup) := by
  unfold depart
  -- The list is emptied at once there and one by one here, which no leave can tell.
  generalize waiting : service.departures = departures
  induction departures generalizing service with
  | nil =>
    rw [List.foldl_nil, ← waiting]
    exact .refl setup service
  | cons departure rest ih =>
    obtain ⟨connection, room⟩ := departure
    let left := { service with departures := rest }.leave setup connection room
    have first : service.Leads setup left := by
      refine leads_of_meet (.depart 0) ?_
      change service.departNth setup 0 = left
      unfold departNth
      rw [waiting]
      rfl
    have others : left.departures = rest := (leave_same setup _ connection room).departures
    have same : { left with departures := [] } =
        { service with departures := [] }.leave setup connection room := by
      have leaving := service.leave_departures setup connection room
      dsimp only [left]
      rw [leaving rest, leaving []]
    rw [List.foldl_cons, ← same]
    exact first.trans (ih left others)

theorem sockets_write_of_ne {other : ConnectionId} (different : other ≠ id) (socket : Socket) :
    (service.write id socket).sockets.get? other = service.sockets.get? other := by
  have kept (service : Service) : (service.drop id).sockets = service.sockets := by
    unfold drop
    split
    · rfl
    · rfl
  unfold write
  split
  · dsimp only
    split
    · rw [kept]
      exact Table.get?_insert_of_ne _ _ different
    · exact Table.get?_insert_of_ne _ _ different
  · rfl

/-- Each socket writes once; what one writes leaves the others as they are. -/
theorem writes_lead (setup : Setup) (service : Service) (entries : List (ConnectionId × Socket))
    (distinct : (entries.map Prod.fst).Nodup)
    (present : ∀ entry ∈ entries, service.sockets.get? entry.1 = some entry.2) :
    service.Leads setup
      (entries.foldl (fun later entry => later.write entry.1 entry.2) service) := by
  induction entries generalizing service with
  | nil => exact .refl setup service
  | cons entry rest ih =>
    obtain ⟨fresh, distinct⟩ := List.nodup_cons.mp distinct
    have first : service.Leads setup (service.write entry.1 entry.2) := by
      refine leads_of_meet (.write entry.1) ?_
      dsimp only [meet]
      rw [present entry List.mem_cons_self]
    refine first.trans (ih _ distinct ?_)
    intro other member
    have different : other.1 ≠ entry.1 := by
      intro same
      exact fresh (List.mem_map.mpr ⟨other, member, same⟩)
    rw [sockets_write_of_ne different]
    exact present other (List.mem_cons_of_mem _ member)

theorem settle_leads (setup : Setup) (service : Service) :
    service.Leads setup (service.settle setup) := by
  have once (service : Service) : service.Leads setup (service.settleOnce setup) := by
    have written := writes_lead setup (service.depart setup)
      (service.depart setup).sockets.entries (Table.nodup_keys _) ?_
    · exact (depart_leads setup service).trans written
    · intro entry member
      exact (Table.mem_entries _ entry.1 entry.2).mp member
  have often (n : Nat) (service : Service) : service.Leads setup (service.settleBy setup n) := by
    induction n generalizing service with
    | zero => exact .refl setup service
    | succ n ih => exact (once service).trans (ih (service.settleOnce setup))
  exact often _ service

/-! ### What is due -/

/-- What comes next is the next alarm, or the next pulse of a session that runs. -/
theorem cause_of_next? (next : service.next? = some (due, beat)) :
    (∃ alarm, service.server.timers.next? = some alarm ∧ alarm.deadline = due ∧
        beat = .alarm alarm) ∨
      ∃ id session pulse, service.sessions.get? id = some session ∧
        session.heartbeat.next = (due, pulse) ∧ beat = .pulse id pulse := by
  have listed : (due, beat) ∈ service.beats := by
    unfold next? at next
    cases beats : service.beats with
    | nil =>
      rw [beats] at next
      cases next
    | cons first rest =>
      rw [beats] at next
      rw [← Option.some.inj next]
      exact (foldl_earlier_least first rest).1
  rcases List.mem_append.mp listed with rings | pulse
  · left
    obtain ⟨alarm, pending, same⟩ := Option.map_eq_some_iff.mp (Option.mem_toList.mp rings)
    cases same
    exact ⟨alarm, pending, rfl, rfl⟩
  · right
    obtain ⟨id, _, pulse⟩ := List.mem_filterMap.mp pulse
    obtain ⟨session, live, same⟩ := Option.map_eq_some_iff.mp pulse
    cases same
    exact ⟨id, session, session.heartbeat.next.2, live, rfl, rfl⟩

theorem wait_leads (next : service.next? = some (due, beat)) (setup : Setup) :
    service.Leads setup (service.wait due) := by
  refine leads_of_meet (.wait due) ?_
  dsimp only [meet]
  unfold horizon
  rw [next]
  dsimp only
  rw [Nat.min_self]

/-- Everything that rang timers called for is done in the order in which they rang. -/
theorem callAll_leads (setup : Setup) (service : Service) :
    service.Leads setup (service.callAll setup) := by
  unfold callAll
  generalize service.server.handed = handed
  induction handed generalizing service with
  | nil => exact .refl setup service
  | cons callback rest ih =>
    have first : service.Leads setup (service.undergo setup (.call 0)) :=
      leads_of_meet (.call 0) rfl
    exact first.trans (ih _)

/-- Once the clock has been put forward to what comes next, that happens. -/
theorem happen_leads (next : service.next? = some (due, beat)) (setup : Setup) :
    (service.wait due).Leads setup ((service.wait due).happen setup beat) := by
  have reached : due ≤ (service.wait due).now := Nat.le_max_right _ _
  rcases cause_of_next? next with ⟨alarm, pending, rfl, rfl⟩ | ⟨id, session, pulse, live, own, rfl⟩
  · have rings : (service.wait alarm.deadline).server.ringDue =
        (service.wait alarm.deadline).server.ring alarm := by
      unfold Server.ringDue
      rw [show (service.wait alarm.deadline).server.timers.next? = some alarm from pending]
      exact if_pos reached
    have rung : (service.wait alarm.deadline).Leads setup
        { service.wait alarm.deadline with
          server := (service.wait alarm.deadline).server.ring alarm } := by
      refine leads_of_meet .ring ?_
      rw [← rings]
      rfl
    exact rung.trans (callAll_leads setup _)
  · have there : (service.wait due).sessions.get? id = some session := live
    have come : (service.wait due).isDue id pulse = true :=
      isDue_of_live there (Heartbeat.isDue_of_next own reached)
    exact leads_of_meet (.pulse id pulse) (if_pos come)

/-- Putting the clock forward to a moment is a vigil, and a wait for the moment. -/
theorem elapse_leads (setup : Setup) (service : Service) (moment : Millis) :
    ∃ reached, service.Leads setup reached ∧ service.elapse setup moment = reached.wait moment := by
  unfold elapse
  generalize service.beatLimit setup moment = fuel
  induction fuel generalizing service with
  | zero => exact ⟨service, .refl setup service, rfl⟩
  | succ fuel ih =>
    have settled := settle_leads setup service
    unfold elapseWithin
    dsimp only
    cases next : (service.settle setup).next? with
    | none => exact ⟨_, settled, rfl⟩
    | some entry =>
      obtain ⟨due, beat⟩ := entry
      dsimp only
      split
      · obtain ⟨reached, further, same⟩ := ih (((service.settle setup).wait due).happen setup beat)
        have happened := (wait_leads next setup).trans (happen_leads next setup)
        exact ⟨reached, (settled.trans happened).trans further, same⟩
      · exact ⟨_, settled, rfl⟩

end Service

end WordGame
