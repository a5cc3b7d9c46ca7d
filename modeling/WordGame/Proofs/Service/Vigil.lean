import WordGame.Proofs.Service.Rhythm

/-!
What a vigil sees. Whatever happens, each connection rests, begins, ends, is sent a ping, sends a
pong or misses one; and no time goes by past the next thing that is due for it.
-/

namespace WordGame

namespace Service

variable {setup : Setup} {service later : Service} {id : ConnectionId} {session : Session}

theorem foldl_earlier_least (first : Millis × Beat) (rest : List (Millis × Beat)) :
    rest.foldl earlier first ∈ first :: rest ∧
      ∀ beat ∈ first :: rest, (rest.foldl earlier first).1 ≤ beat.1 :=
  foldl_least (fun _ _ => rfl) first rest

theorem horizon_le {beat : Millis × Beat} (member : beat ∈ service.beats) (moment : Millis) :
    service.horizon moment ≤ beat.1 := by
  unfold horizon next?
  cases beats : service.beats with
  | nil =>
    rw [beats] at member
    cases member
  | cons first rest =>
    rw [beats] at member
    exact Nat.le_trans (Nat.min_le_right _ _) ((foldl_earlier_least first rest).2 beat member)

/-- No time goes by past the next thing that is due for a connection. -/
theorem horizon_le_next (live : service.sessions.get? id = some session)
    (socket : service.sockets.contains id = true) (moment : Millis) :
    service.horizon moment ≤ session.heartbeat.next.1 := by
  have pulse : service.pulse? id =
      some (session.heartbeat.next.1, .pulse id session.heartbeat.next.2) := by
    unfold pulse?
    rw [live]
    rfl
  have open' : id ∈ service.sockets.keys := (service.sockets.mem_keys id).mpr socket
  have member : (session.heartbeat.next.1, .pulse id session.heartbeat.next.2) ∈ service.beats :=
    List.mem_append_right _ (List.mem_filterMap.mpr ⟨id, open', pulse⟩)
  exact horizon_le member moment

theorem write_retimes (numbered : service.Numbered) {socket : Socket}
    (present : service.sockets.get? id = some socket) :
    service.Steady (service.write id socket) ∨
      service.Retimes id none (service.write id socket) := by
  have same (other : Socket) (query : ConnectionId) :
      (service.sockets.insert id other).contains query = service.sockets.contains query := by
    unfold Table.contains
    rw [Table.get?_insert]
    split
    · rename_i own
      rw [own, present]
      rfl
    · rfl
  have written (queue : Queue) (emptied : queue.pings = []) (other : Socket) : service.Steady
      { service with
        queues := service.queues.insert id queue
        sockets := service.sockets.insert id other } := by
    refine ⟨rfl, rfl, same other, fun _ => rfl, ?_, numbered⟩
    intro query
    dsimp only
    rw [Queues.queue_insert]
    split
    · exact .inr emptied
    · exact .inl rfl
  unfold write
  split
  · dsimp only
    split
    · have closed := written (service.queues.queue id).desert rfl
      exact .inr ((closed _).retimes (drop_retimes (closed _).numbered id))
    · exact .inl (written _ rfl _)
  · exact .inl (.refl numbered)

theorem meet_read_of_absent (absent : service.sessions.get? id = none) (frame : Frame) :
    service.meet setup (.read id frame) = service := by
  cases frame with
  | other => rfl
  | ended =>
    dsimp only [meet, read]
    unfold finish
    rw [absent]
  | text content =>
    dsimp only [meet, read]
    unfold receiveText receive
    rw [absent]
    split
    · rfl
    · rfl

theorem isDue_of_live {pulse : Pulse} (live : service.sessions.get? id = some session)
    (due : session.heartbeat.isDue service.now pulse = true) : service.isDue id pulse = true :=
  (Option.any_eq_true _ _).mpr ⟨session, live, due⟩

/-- A ping that is due gets into the queue, if the queue has room and somebody attends to it. -/
theorem meet_ping (numbered : service.Numbered) (setup : Setup)
    (live : service.sessions.get? id = some session)
    (due : session.heartbeat.isDue service.now .ping = true) :
    let next := session.heartbeat.ping service.now
    let later := service.meet setup (.pulse id .ping)
    if (service.queues.queue id).accepts then service.Pings id next.1 next.2 later
    else service.Retimes id none later := by
  have meets : service.meet setup (.pulse id .ping) =
      service.ping setup id (setup.wallClock service.now) := if_pos (isDue_of_live live due)
  rw [meets]
  exact ping_pings numbered setup live (setup.wallClock service.now)

theorem meet_missed (numbered : service.Numbered) (setup : Setup)
    (due : service.isDue id .missed = true) :
    service.Retimes id none (service.meet setup (.pulse id .missed)) := by
  have meets : service.meet setup (.pulse id .missed) = service.finish setup id := if_pos due
  rw [meets]
  exact finish_retimes numbered setup id

/-- What becomes of the sessions when a connection is accepted. -/
structure Accepts (setup : Setup) (service later : Service) : Prop where
  now : later.now = service.now
  connections : later.connections = service.connections + 1
  sockets : ∀ id, later.sockets.contains id = true ↔
    id = service.connections ∨ service.sockets.contains id = true
  own : later.heartbeat? service.connections =
    if setup.pingInterval = 0 then none else some (setup.heartbeat service.now)
  others : ∀ other, other ≠ service.connections → later.heartbeat? other = service.heartbeat? other
  quiet : service.Quiet later
  numbered : later.Numbered

theorem accept_accepts (numbered : service.Numbered) (setup : Setup) (account : Option PlayerId)
    (name : Option String) (invented : String) :
    service.Accepts setup (service.accept setup account name invented).2 := by
  unfold accept connect
  generalize service.guests.resolve account name invented = resolved
  obtain ⟨identity, guests⟩ := resolved
  dsimp only
  let connection : Connection := ⟨service.connections, identity⟩
  let opened : Service :=
    { service with
      guests := guests
      connections := service.connections + 1
      queues := service.queues.insert connection.id .fresh
      sessions := service.sessions.insert connection.id
        (.initial connection (setup.heartbeat service.now))
      sockets := service.sockets.insert connection.id ⟨true, []⟩ }
  have listed (id : ConnectionId) : opened.sessions.get? id =
      if id = service.connections then some (.initial connection (setup.heartbeat service.now))
      else service.sessions.get? id := Table.get?_insert _ _ _ _
  have sockets (id : ConnectionId) : opened.sockets.contains id = true ↔
      id = service.connections ∨ service.sockets.contains id = true :=
    Table.contains_insert _ _ _ _
  have named : opened.Numbered := by
    intro id session present
    rw [listed] at present
    split at present
    · rename_i same
      cases present
      exact same.symm
    · exact numbered id session present
  have others (other : ConnectionId) (different : other ≠ service.connections) :
      opened.heartbeat? other = service.heartbeat? other := by
    unfold heartbeat?
    rw [listed, if_neg different]
  have quiet : service.Quiet opened := by
    intro id
    change (Queues.queue (service.queues.insert connection.id .fresh) id).pings = _ ∨ _ = []
    rw [Queues.queue_insert]
    split
    · exact .inr rfl
    · exact .inl rfl
  change service.Accepts setup
    (if setup.pingInterval = 0 then opened.drop connection.id else opened)
  split
  · rename_i still
    have dropped := drop_retimes named connection.id
    refine ⟨dropped.now, dropped.connections, ?_, ?_, ?_, quiet.trans dropped.quiet,
      dropped.numbered⟩
    · intro id
      rw [dropped.sockets]
      exact sockets id
    · rw [if_pos still]
      exact dropped.own
    · intro other different
      rw [dropped.others other different]
      exact others other different
  · rename_i beats
    refine ⟨rfl, rfl, sockets, ?_, others, quiet, named⟩
    rw [if_neg beats]
    unfold heartbeat?
    rw [listed, if_pos rfl]
    rfl

end Service

namespace Vigil

variable {setup : Setup} {vigil : Vigil} {id : ConnectionId} {occasion : Occasion} {sign : Sign}

/-- What was noted of each connection, with one sign more. -/
def note (vigil : Vigil) (id : ConnectionId) (sign : Sign) : ConnectionId → List (Millis × Sign) :=
  fun other => vigil.signs other ++ if other = id then [(vigil.now, sign)] else []

/-- What an occasion does, as far as heartbeats are concerned. -/
inductive Acts (setup : Setup) (vigil : Vigil) : Vigil → Prop
  | steady (service : Service) (steady : vigil.service.Steady service) :
      Acts setup vigil ⟨service, vigil.signs⟩
  | waits (moment : Millis) :
      Acts setup vigil ⟨vigil.service.wait (vigil.service.horizon moment), vigil.signs⟩
  | accepts (service : Service) (accepts : vigil.service.Accepts setup service) :
      Acts setup vigil ⟨service, vigil.signs⟩
  | ends (id : ConnectionId) (service : Service) (ended : vigil.service.Retimes id none service) :
      Acts setup vigil ⟨service, vigil.signs⟩
  | pings (id : ConnectionId) (session : Session) (service : Service)
      (live : vigil.service.sessions.get? id = some session)
      (due : session.heartbeat.nextPing ≤ vigil.now)
      (pings : vigil.service.Pings id (session.heartbeat.ping vigil.now).1
        (session.heartbeat.ping vigil.now).2 service) :
      Acts setup vigil ⟨service, vigil.note id (.ping (session.heartbeat.ping vigil.now).1)⟩
  | hears (id : ConnectionId) (session : Session) (service : Service)
      (live : vigil.service.sessions.get? id = some session)
      (retimes : vigil.service.Retimes id (some session.heartbeat.pong) service) :
      Acts setup vigil ⟨service, vigil.note id .pong⟩
  | misses (id : ConnectionId) (session : Session) (deadline : Millis) (service : Service)
      (live : vigil.service.sessions.get? id = some session)
      (set : session.heartbeat.keepalive.deadline = some deadline) (due : deadline ≤ vigil.now)
      (ended : vigil.service.Retimes id none service) :
      Acts setup vigil ⟨service, vigil.note id .missed⟩

theorem undergo_of_quiet (quiet : vigil.service.Quiet (vigil.service.meet setup occasion))
    (unsigned : ∀ id, vigil.service.sign? id occasion = none) :
    vigil.undergo setup occasion = ⟨vigil.service.meet setup occasion, vigil.signs⟩ := by
  unfold undergo
  dsimp only
  congr 1
  funext id
  rw [unsigned, quiet.newPings]
  exact List.append_nil _

theorem undergo_of_sign (quiet : vigil.service.Quiet (vigil.service.meet setup occasion))
    (signed : ∀ other, vigil.service.sign? other occasion =
      if other = id then some sign else none) :
    vigil.undergo setup occasion = ⟨vigil.service.meet setup occasion, vigil.note id sign⟩ := by
  unfold undergo note
  dsimp only
  congr 1
  funext other
  rw [signed, quiet.newPings]
  split
  · rfl
  · rfl

theorem undergo_of_ping {number : UInt64} {heartbeat : Heartbeat}
    (pings : vigil.service.Pings id number heartbeat (vigil.service.meet setup occasion))
    (unsigned : ∀ id, vigil.service.sign? id occasion = none) :
    vigil.undergo setup occasion =
      ⟨vigil.service.meet setup occasion, vigil.note id (.ping number)⟩ := by
  unfold undergo note
  dsimp only
  congr 1
  funext other
  rw [unsigned, pings.newPings]
  split
  · rfl
  · rfl

theorem acts_of_steady (steady : vigil.service.Steady (vigil.service.meet setup occasion))
    (unsigned : ∀ id, vigil.service.sign? id occasion = none) :
    vigil.Acts setup (vigil.undergo setup occasion) := by
  rw [undergo_of_quiet steady.quiet unsigned]
  exact .steady _ steady

theorem acts_of_ended (ended : vigil.service.Retimes id none (vigil.service.meet setup occasion))
    (unsigned : ∀ id, vigil.service.sign? id occasion = none) :
    vigil.Acts setup (vigil.undergo setup occasion) := by
  rw [undergo_of_quiet ended.quiet unsigned]
  exact .ends id _ ended

theorem acts_of_read (numbered : vigil.service.Numbered) (setup : Setup) (id : ConnectionId)
    (frame : Frame) : vigil.Acts setup (vigil.undergo setup (.read id frame)) := by
  have unsigned (nothing : ¬(vigil.service.sessions.contains id = true ∧ frame.isPong = true))
      (other : ConnectionId) : vigil.service.sign? other (.read id frame) = none :=
    if_neg fun signed => nothing signed.2
  cases live : vigil.service.sessions.get? id with
  | none =>
    refine acts_of_steady ?_ (unsigned ?_)
    · rw [Service.meet_read_of_absent live]
      exact .refl numbered
    · unfold Table.contains
      rw [live]
      exact fun both => Bool.false_ne_true both.1
  | some session =>
    cases frame with
    | other =>
      refine acts_of_steady (.refl numbered) (unsigned ?_)
      exact fun both => Bool.false_ne_true both.2
    | ended =>
      refine acts_of_ended (Service.finish_retimes numbered setup id) (unsigned ?_)
      exact fun both => Bool.false_ne_true both.2
    | text content =>
      have heard := Service.receiveText_retimes numbered setup live content
      cases isPong : (Frame.text content).isPong with
      | false =>
        rw [isPong, if_neg Bool.false_ne_true] at heard
        have steady := heard.unchanged (Service.heartbeat?_of_live live).symm
        exact acts_of_steady steady (unsigned fun both => Bool.false_ne_true (isPong ▸ both.2))
      | true =>
        rw [isPong, if_pos rfl] at heard
        have there : vigil.service.sessions.contains id = true := Option.isSome_of_eq_some live
        rw [undergo_of_sign heard.quiet]
        · exact .hears id session _ live heard
        · intro other
          unfold Service.sign?
          dsimp only
          rw [isPong, there]
          simp

theorem acts_of_pulse (numbered : vigil.service.Numbered) (setup : Setup) (id : ConnectionId)
    (pulse : Pulse) : vigil.Acts setup (vigil.undergo setup (.pulse id pulse)) := by
  cases due : vigil.service.isDue id pulse with
  | false =>
    have idle : vigil.service.meet setup (.pulse id pulse) = vigil.service := by
      unfold Service.meet
      dsimp only
      rw [due]
      rfl
    refine acts_of_steady ?_ ?_
    · rw [idle]
      exact .refl numbered
    · intro other
      cases pulse with
      | ping => rfl
      | missed => exact if_neg fun both => Bool.false_ne_true (due ▸ both.2)
  | true =>
    obtain ⟨session, live, come⟩ := (Option.any_eq_true _ _).mp due
    cases pulse with
    | ping =>
      have sent := Service.meet_ping numbered setup live come
      split at sent
      · rw [undergo_of_ping sent fun _ => rfl]
        exact .pings id session _ live (of_decide_eq_true come) sent
      · exact acts_of_ended sent fun _ => rfl
    | missed =>
      obtain ⟨deadline, set, passed⟩ := (Option.any_eq_true _ _).mp come
      have ended := Service.meet_missed numbered setup due
      rw [undergo_of_sign ended.quiet]
      · exact .misses id session deadline _ live set (of_decide_eq_true passed) ended
      · intro other
        unfold Service.sign?
        dsimp only
        rw [due]
        simp

/-- Whatever happens is one of a few kinds of acts. -/
theorem undergo_acts (numbered : vigil.service.Numbered) (setup : Setup) (occasion : Occasion) :
    vigil.Acts setup (vigil.undergo setup occasion) := by
  cases occasion with
  | accept account name invented =>
    have accepts := Service.accept_accepts numbered setup account name invented
    rw [undergo_of_quiet accepts.quiet fun _ => rfl]
    exact .accepts _ accepts
  | read id frame => exact acts_of_read numbered setup id frame
  | pulse id pulse => exact acts_of_pulse numbered setup id pulse
  | write id =>
    cases present : vigil.service.sockets.get? id with
    | none =>
      refine acts_of_steady ?_ fun _ => rfl
      unfold Service.meet
      dsimp only
      rw [present]
      exact .refl numbered
    | some socket =>
      have writes : vigil.service.meet setup (.write id) = vigil.service.write id socket := by
        unfold Service.meet
        dsimp only
        rw [present]
      rcases Service.write_retimes numbered present with steady | ended
      · exact acts_of_steady (writes ▸ steady) fun _ => rfl
      · exact acts_of_ended (writes ▸ ended) fun _ => rfl
  | drop id => exact acts_of_ended (Service.drop_retimes numbered id) fun _ => rfl
  | depart index =>
    refine acts_of_steady ?_ fun _ => rfl
    change vigil.service.Steady (vigil.service.departNth setup index)
    unfold Service.departNth
    split
    · rename_i connection room _
      let left := { vigil.service with departures := vigil.service.departures.eraseIdx index }
      have steady : left.Steady (left.leave setup connection room) :=
        Service.leave_steady (show left.Numbered from numbered) setup connection room
      exact ⟨steady.now, steady.connections, steady.sockets, steady.heartbeats, steady.quiet,
        steady.numbered⟩
    · exact .refl numbered
  | amend membership =>
    refine acts_of_steady ?_ fun _ => rfl
    exact ⟨rfl, rfl, fun _ => rfl, fun _ => rfl, .refl _, numbered⟩
  | ring =>
    refine acts_of_steady ?_ fun _ => rfl
    exact ⟨Server.now_ringDue _, rfl, fun _ => rfl, fun _ => rfl, .refl _, numbered⟩
  | call index =>
    exact acts_of_steady (Service.enact_steady numbered (Server.callNth_calm index)) fun _ => rfl
  | wait moment =>
    rw [undergo_of_quiet]
    · exact .waits moment
    · exact .refl _
    · exact fun _ => rfl

end Vigil

end WordGame
