import WordGame.Proofs.Service.Accounted

/-!
What becomes of a connection whose session is cut off. The session leaves the room that it takes
itself to be in. But it forgets a room before it has left it, and it notes a room only when it is done
with joining it. Cut off in between, it leaves its connection behind.
-/

namespace WordGame

/-- A session is cut off where nobody sees to a room any more, or nobody does yet. -/
inductive Session.Exposed (session : Session) (registry : Registry) (await : Await)
    (room : RoomId) : Prop
  | leaving (head : session.errands.head? = some (.leave room))
      (early : await = .gate ∨ await = .registration)
      (listed : registry.connection? room session.connection.identity.id =
        some session.connection) : Exposed session registry await room
  | joining (head : session.errands.head? = some (.join room)) (outside : session.room ≠ some room)
      (inside : await.Inside) : Exposed session registry await room

namespace Service

variable {setup : Setup} {service later : Service} {id : ConnectionId} {session : Session}
  {connection : Connection} {room : RoomId} {lost more : Connection → RoomId → Prop}

theorem drop_of_live (live : service.sessions.get? id = some session) :
    service.drop id =
      { service.deliver [⟨id, .close⟩] with
        sessions := service.sessions.erase id
        departures :=
          service.departures ++ (session.room.map (session.connection, ·)).toList } := by
  unfold drop
  rw [live]

theorem cut_of_live (live : service.sessions.get? id = some session) {place : Nat}
    (within : place < (service.places setup session).length) :
    service.cut setup id place =
      (service.enact (Script.run ((service.places setup session).take place)
        (.begin service.server))).drop id := by
  unfold cut
  rw [live]
  exact if_pos within

/-- The connection that an incident leaves behind in a room. -/
def Loses (setup : Setup) (service : Service) (incident : Incident) (connection : Connection)
    (room : RoomId) : Prop :=
  match incident with
  | .cut id place =>
    ∃ session piece, service.sessions.get? id = some session ∧ session.connection = connection ∧
      (service.places setup session)[place]? = some piece ∧
      session.Exposed service.server.registry piece.await room
  | _ => False

/-- A connection was left behind in a room in the course of a run. -/
def Lost (setup : Setup) (service : Service) : List Incident → Connection → RoomId → Prop
  | [], _, _ => False
  | incident :: rest, connection, room =>
    service.Loses setup incident connection room ∨
      (service.undergo setup incident).Lost setup rest connection room

/-- What is found in a room where a session is cut off: others are listed as they were, and its own
connection where it takes itself to be, or where it is exposed. -/
structure Found (service : Service) (session : Session) (await : Await) (room : RoomId)
    (player : PlayerId) (holder : Connection) : Prop where
  others : holder.id ≠ session.connection.id →
    service.server.registry.connection? room player = some holder
  mine : holder.id = session.connection.id →
    holder = session.connection ∧ holder.identity.id = player ∧
      (session.room = some room ∨ session.Exposed service.server.registry await room)

namespace Accounted

/-- A session is dropped. Its room is left to a departure, and what no departure sees to is lost. -/
theorem drop (accounted : service.Accounted lost)
    (fewer : ∀ connection room, lost connection room → more connection room)
    (live : service.sessions.get? id = some session) (same : service.SameSessions later)
    (others : ∀ room player holder, later.server.registry.connection? room player = some holder →
      holder.id ≠ id → service.server.registry.connection? room player = some holder)
    (mine : ∀ room player holder, later.server.registry.connection? room player = some holder →
      holder.id = id → holder = session.connection ∧ holder.identity.id = player ∧
        (session.room = some room ∨ more session.connection room)) :
    (later.drop id).Accounted more := by
  obtain ⟨number, _⟩ := accounted.session id session live
  have still : later.sessions.get? id = some session := by
    rw [same.sessions]
    exact live
  have erased : ∀ other, (later.drop id).sessions.get? other =
      if other = id then none else service.sessions.get? other := by
    intro other
    rw [drop_of_live still, ← same.sessions]
    exact Table.get?_erase _ _ _
  have departures : (later.drop id).departures =
      service.departures ++ (session.room.map (session.connection, ·)).toList := by
    rw [drop_of_live still, ← same.departures]
  have server : (later.drop id).server = later.server := by
    rw [drop_of_live still]
    rfl
  have gone : (later.drop id).sessions.get? id = none := by
    rw [erased, if_pos rfl]
  refine accounted.alter fewer live ?_ ?_ ?_ ?_ ?_ ?_ ?_
  · rw [← same.connections, drop_of_live still]
    rfl
  · intro other different
    rw [erased, if_neg different]
  · intro after present
    cases gone.symm.trans present
  · rw [departures]
    exact fun _ => List.mem_append_left _
  · intro departure pending
    rw [departures] at pending
    refine (List.mem_append.mp pending).imp_right fun own => ⟨?_, gone⟩
    rw [Option.mem_toList, Option.map_eq_some_iff] at own
    obtain ⟨_, _, rfl⟩ := own
    exact number
  · rw [server]
    exact others
  · intro room player holder listed here
    rw [server] at listed
    obtain ⟨own, known, minds⟩ := mine room player holder listed here
    refine ⟨known, ?_⟩
    have absent : (later.drop id).sessions.get? holder.id = none := by
      rw [here]
      exact gone
    rcases minds with inside | left
    · refine .departure absent ?_
      rw [departures, inside, own]
      exact List.mem_append_right _ (List.mem_singleton.mpr rfl)
    · rw [← own] at left
      exact .nobody absent left

theorem found_of_listed (accounted : service.Accounted lost)
    (live : service.sessions.get? id = some session) {player : PlayerId} {holder : Connection}
    {await : Await} (listed : service.server.registry.connection? room player = some holder)
    (leaving : holder = session.connection → holder.identity.id = player →
      session.errands.head? = some (.leave room) →
        session.Exposed service.server.registry await room) :
    service.Found session await room player holder := by
  obtain ⟨number, _⟩ := accounted.session id session live
  constructor
  · exact fun _ => listed
  · intro here
    obtain ⟨own, known, minds⟩ := accounted.own live listed (here.trans number)
    exact ⟨own, known, minds.imp_right (leaving own known)⟩

theorem found_in_leave (accounted : service.Accounted lost)
    (live : service.sessions.get? id = some session) {target : RoomId} {rest : List Errand}
    (errands : session.errands = .leave target :: rest) {place : Nat} {piece : Piece}
    (waits : (service.script setup session (.leave target))[place]? = some piece)
    {player : PlayerId} {holder : Connection}
    (listed : (Script.run ((service.script setup session (.leave target)).take place)
      (.begin service.server)).server.registry.connection? room player = some holder) :
    service.Found session piece.await room player holder := by
  dsimp only [script] at waits listed
  rcases (Server.leaveScript_leaves service.server).cut waits with ⟨early, same⟩ | ⟨_, quits⟩
  · rw [same] at listed
    refine accounted.found_of_listed live listed ?_
    intro own known head
    refine .leaving head early ?_
    rw [← own, known]
    exact listed
  · -- The connection itself is out of the room, so whoever is listed there is another.
    obtain ⟨before, other⟩ := (quits room player holder).mp listed
    refine accounted.found_of_listed live before ?_
    intro own known head
    rw [errands] at head
    cases head
    rw [own] at known
    exact absurd ⟨rfl, known.symm, congrArg Connection.id own⟩ other

theorem found_in_join (accounted : service.Accounted lost)
    (live : service.sessions.get? id = some session) {target : RoomId} {rest : List Errand}
    (errands : session.errands = .join target :: rest) {place : Nat} {piece : Piece}
    (waits : (service.script setup session (.join target))[place]? = some piece)
    {player : PlayerId} {holder : Connection}
    (listed : (Script.run ((service.script setup session (.join target)).take place)
      (.begin service.server)).server.registry.connection? room player = some holder) :
    service.Found session piece.await room player holder := by
  have unchanged (before : service.server.registry.connection? room player = some holder) :
      service.Found session piece.await room player holder := by
    refine accounted.found_of_listed live before ?_
    intro _ _ head
    rw [errands] at head
    cases head
  dsimp only [script] at waits listed
  rcases (Server.joinScript_joins service.server).cut waits with ⟨_, same⟩ | ⟨inside, registers⟩
  · rw [same] at listed
    exact unchanged listed
  · change Registry.connection? _ room player = some holder at listed
    rw [registers.connection?] at listed
    split at listed
    · rename_i there
      cases listed
      refine ⟨fun elsewhere => absurd rfl elsewhere, fun _ => ⟨rfl, there.2.symm, ?_⟩⟩
      -- A join of the room that the session is in already leaves nobody exposed.
      by_cases noted : session.room = some room
      · exact .inl noted
      · refine .inr (.joining ?_ noted inside)
        rw [errands, there.1]
        rfl
    · exact unchanged listed

theorem found (accounted : service.Accounted lost)
    (live : service.sessions.get? id = some session) {place : Nat} {piece : Piece}
    (waits : (service.places setup session)[place]? = some piece) {player : PlayerId}
    {holder : Connection}
    (listed : (Script.run ((service.places setup session).take place)
      (.begin service.server)).server.registry.connection? room player = some holder) :
    service.Found session piece.await room player holder := by
  have quiet (still : ∀ other ∈ service.places setup session, other.Quiet)
      (stays : session.errands.head? ≠ some (.leave room)) :
      service.Found session piece.await room player holder := by
    rw [Script.run_take_quiet still] at listed
    exact accounted.found_of_listed live listed (fun _ _ head => absurd head stays)
  unfold places at waits listed quiet
  cases errands : session.errands with
  | nil =>
    rw [errands] at quiet
    exact quiet (by simp) (by simp)
  | cons errand rest =>
    rw [errands] at waits listed quiet
    cases errand with
    | answer target text => exact quiet (Server.quiet_answerScript _ _) (by simp)
    | relay target text => exact quiet (Server.quiet_relayScript _ _) (by simp)
    | pong timestamp => cases waits
    | leave target => exact accounted.found_in_leave live errands waits listed
    | join target => exact accounted.found_in_join live errands waits listed

/-- A session is cut off. Whoever it does not see to then is lost. -/
theorem cut (accounted : service.Accounted lost) (setup : Setup) (id : ConnectionId)
    (place : Nat) :
    (service.cut setup id place).Accounted fun connection room =>
      lost connection room ∨ service.Loses setup (.cut id place) connection room := by
  have fewer : ∀ connection room, lost connection room →
      lost connection room ∨ service.Loses setup (.cut id place) connection room :=
    fun _ _ => Or.inl
  unfold Service.cut
  cases live : service.sessions.get? id with
  | none => exact accounted.mono fewer
  | some session =>
    dsimp only
    split
    · rename_i within
      have waits := List.getElem?_eq_getElem within
      obtain ⟨number, _⟩ := accounted.session id session live
      refine accounted.drop fewer live ⟨rfl, rfl, rfl⟩ ?_ ?_
      · intro room player holder listed elsewhere
        rw [← number] at elsewhere
        exact (accounted.found live waits listed).others elsewhere
      · intro room player holder listed here
        rw [← number] at here
        obtain ⟨own, known, minds⟩ := (accounted.found live waits listed).mine here
        refine ⟨own, known, minds.imp_right ?_⟩
        intro exposed
        exact .inr ⟨session, _, live, rfl, waits, exposed⟩
    · exact accounted.mono fewer

theorem undergo (accounted : service.Accounted lost) (setup : Setup) (incident : Incident) :
    (service.undergo setup incident).Accounted fun connection room =>
      lost connection room ∨ service.Loses setup incident connection room := by
  have fewer : ∀ connection room, lost connection room →
      lost connection room ∨ service.Loses setup incident connection room :=
    fun _ _ => Or.inl
  cases incident with
  | cut id place => exact accounted.cut setup id place
  | connect account name invented => exact (accounted.connect setup account name invented).mono fewer
  | hear id message => exact (accounted.hear id message).mono fewer
  | advance id => exact (accounted.advance setup id).mono fewer
  | depart index => exact (accounted.depart setup index).mono fewer
  | amend membership => exact (accounted.mono fewer).of_same ⟨rfl, rfl, rfl⟩ rfl
  | wait moment => exact (accounted.mono fewer).of_same ⟨rfl, rfl, rfl⟩ rfl
  | ring =>
    have same := service.server.registry_ringDue
    exact (accounted.mono fewer).of_same ⟨rfl, rfl, rfl⟩ same
  | call index =>
    have same := service.server.registry_callNth setup.rules (service.supply setup) index
    exact (accounted.mono fewer).of_same ⟨rfl, rfl, rfl⟩ same

theorem runAll (accounted : service.Accounted lost) (setup : Setup) (incidents : List Incident) :
    (service.runAll setup incidents).Accounted fun connection room =>
      lost connection room ∨ service.Lost setup incidents connection room := by
  induction incidents generalizing service lost with
  | nil => exact accounted.mono fun _ _ => Or.inl
  | cons incident rest ih =>
    rw [runAll_cons]
    refine (ih (accounted.undergo setup incident)).mono ?_
    intro connection room left
    exact or_assoc.mp left

end Accounted

theorem connection?_depart (setup : Setup) (departures : List (Connection × RoomId))
    (service : Service) {player : PlayerId}
    (others : ∀ departure ∈ departures, departure.1.id ≠ connection.id)
    (listed : service.server.registry.connection? room player = some connection) :
    (departures.foldl (fun later departure => later.leave setup departure.1 departure.2)
      service).server.registry.connection? room player = some connection := by
  induction departures generalizing service with
  | nil => exact listed
  | cons departure rest ih =>
    rw [List.foldl_cons]
    refine ih _ (fun other member => others other (List.mem_cons_of_mem _ member)) ?_
    have quits := service.leave_quits setup departure.1 departure.2
    refine (quits room player connection).mpr ⟨listed, ?_⟩
    intro taken
    exact others departure List.mem_cons_self taken.2.2.symm

namespace Accounted

variable {piece : Piece} {place : Nat}

theorem room_of_exposed (accounted : service.Accounted lost)
    (live : service.sessions.get? id = some session)
    (exposed : session.Exposed service.server.registry piece.await room) :
    session.room = none := by
  obtain ⟨_, _, fits⟩ := accounted.session id session live
  cases exposed with
  | leaving head =>
    obtain ⟨rest, errands⟩ := List.head?_eq_some_iff.mp head
    rw [errands] at fits
    exact fits.1
  | joining head outside =>
    obtain ⟨rest, errands⟩ := List.head?_eq_some_iff.mp head
    rw [errands] at fits
    exact fits.1.resolve_right outside

theorem connection?_of_exposed (live : service.sessions.get? id = some session)
    (found : (service.places setup session)[place]? = some piece)
    (exposed : session.Exposed service.server.registry piece.await room) :
    (service.cut setup id place).server.registry.connection? room session.connection.identity.id =
      some session.connection := by
  have within : place < (service.places setup session).length :=
    (List.getElem?_eq_some_iff.mp found).1
  rw [cut_of_live live within, @drop_of_live (service.enact _) id session live]
  change (Script.run ((service.places setup session).take place)
    (.begin service.server)).server.registry.connection? room session.connection.identity.id = _
  unfold places at found ⊢
  cases exposed with
  | leaving head early listed =>
    obtain ⟨rest, errands⟩ := List.head?_eq_some_iff.mp head
    rw [errands] at found ⊢
    dsimp only [script] at found ⊢
    rcases (Server.leaveScript_leaves service.server).cut found with ⟨_, same⟩ | ⟨late, _⟩
    · rw [same]
      exact listed
    · exact absurd early late
  | joining head outside inside =>
    obtain ⟨rest, errands⟩ := List.head?_eq_some_iff.mp head
    rw [errands] at found ⊢
    dsimp only [script] at found ⊢
    rcases (Server.joinScript_joins service.server).cut found with ⟨early, _⟩ | ⟨_, registers⟩
    · exact absurd inside early
    · exact (registers.connection? _ _).trans (if_pos ⟨rfl, rfl⟩)

/-- What is lost stays listed when everybody has left who has to. -/
theorem connection?_of_loses (accounted : service.Accounted lost)
    (loses : service.Loses setup (.cut id place) connection room) :
    ((service.cut setup id place).depart setup).server.registry.connection? room
      connection.identity.id = some connection := by
  obtain ⟨session, piece, live, rfl, found, exposed⟩ := loses
  obtain ⟨number, _⟩ := accounted.session id session live
  have nowhere := accounted.room_of_exposed live exposed
  have within : place < (service.places setup session).length :=
    (List.getElem?_eq_some_iff.mp found).1
  have departures : (service.cut setup id place).departures = service.departures := by
    rw [cut_of_live live within, @drop_of_live (service.enact _) id session live, nowhere]
    exact List.append_nil _
  unfold Service.depart
  rw [departures]
  apply connection?_depart setup
  · intro departure pending same
    obtain ⟨_, gone⟩ := accounted.departed departure.1 departure.2 pending
    rw [same, number, live] at gone
    cases gone
  · exact connection?_of_exposed live found exposed

end Accounted

/-- However sessions run and wherever they are cut off: once a connection that was dropped has left
its room, it is listed in no room, unless it was lost there. What is lost is still listed when
everybody has left who has to. -/
theorem dropped_leave_unless_lost (setup : Setup) (incidents : List Incident) :
    let service := (initial setup).runAll setup incidents
    (∀ room player connection,
      service.server.registry.connection? room player = some connection →
        service.sessions.get? connection.id = none → (connection, room) ∉ service.departures →
          (initial setup).Lost setup incidents connection room) ∧
      ∀ id place connection room, service.Loses setup (.cut id place) connection room →
        ((service.cut setup id place).depart setup).server.registry.connection? room
          connection.identity.id = some connection := by
  intro service
  have accounted : service.Accounted ((initial setup).Lost setup incidents) := by
    have nobody : (initial setup).Accounted fun _ _ => False := initial_accounted setup
    refine (nobody.runAll setup incidents).mono ?_
    intro connection room left
    exact left.resolve_left id
  refine ⟨?_, ?_⟩
  · intro room player connection listed gone departed
    obtain ⟨_, _, seen⟩ := accounted.listed room player connection listed
    cases seen with
    | session session live => cases gone.symm.trans live
    | departure _ pending => exact absurd pending departed
    | nobody _ left => exact left
  · intro id place connection room loses
    exact accounted.connection?_of_loses loses

/-- Of two in a room the second is cut off while its session waits for the client, and leaves. The
first is cut off while its leave waits at the gate. -/
theorem dropped_leave_unless_lost_at_gate :
    let setup : Setup :=
      ⟨⟨{}, ⟨fun _ => false, fun _ _ => false⟩⟩, .everybody, fun _ => "the", 30000, 10000,
        fun _ => 0⟩
    let one : Connection := ⟨0, ⟨1, "one", false⟩⟩
    let incidents : List Incident :=
      [.connect (some 1) (some "one") "", .connect (some 2) (some "two") "", .hear 0 (.join 42),
        .advance 0, .hear 1 (.join 42), .advance 1, .cut 1 0, .depart 0, .hear 0 .leave]
    let waiting := (initial setup).runAll setup incidents
    let service := (initial setup).runAll setup (incidents ++ [.cut 0 0])
    service.server.registry.connection? 42 2 = none ∧
      service.server.registry.connection? 42 1 = some one ∧
      service.sessions.get? one.id = none ∧ (one, 42) ∉ service.departures ∧
      (initial setup).Lost setup (incidents ++ [.cut 0 0]) one 42 ∧
      waiting.Loses setup (.cut 0 0) one 42 ∧
      ((waiting.cut setup 0 0).depart setup).server.registry.connection? 42 one.identity.id =
        some one := by
  refine ⟨by decide +kernel, by decide +kernel, by decide +kernel, by decide +kernel, ?_, ?loses,
    And.right (dropped_leave_unless_lost _ _) 0 0 _ 42 ?loses⟩
  · refine And.left (dropped_leave_unless_lost _ _) 42 1 _ ?_ ?_ ?_
    · decide +kernel
    · decide +kernel
    · decide +kernel
  · refine ⟨⟨⟨0, ⟨1, "one", false⟩⟩, none, ⟨30000, 30000, .initial 10000⟩, [.leave 42]⟩, _, ?_, rfl,
      List.getElem?_eq_getElem ?_, .leaving rfl (.inl ?_) ?_⟩
    · decide +kernel
    · decide +kernel
    · decide +kernel
    · decide +kernel

/-- Cut off at the gate, a leave leaves a player on the roster, and so does a join that is cut off on
its way out. A leave that is cut off behind the registry leaves the room that it has emptied. -/
theorem cuts_leave_players_behind :
    let setup : Setup :=
      ⟨⟨{}, ⟨fun _ => false, fun _ _ => false⟩⟩, .everybody, fun _ => "the", 30000, 10000,
        fun _ => 0⟩
    let joining : List Incident := [.connect (some 1) (some "one") "", .hear 0 (.join 42)]
    let leaving : List Incident := joining ++ [.advance 0, .hear 0 .leave]
    let atGate := (initial setup).runAll setup (leaving ++ [.cut 0 0])
    let behindRegistry := (initial setup).runAll setup (leaving ++ [.cut 0 2])
    let entering := (initial setup).runAll setup (joining ++ [.cut 0 6])
    (∀ service ∈ [atGate, entering], service.sessions.get? 0 = none ∧ service.departures = [] ∧
      (service.server.registry.connection? 42 1).map Connection.id = some 0 ∧
      (service.server.store.get? 42).map (·.livesOf 1) = some 3) ∧
      behindRegistry.sessions.get? 0 = none ∧ behindRegistry.departures = [] ∧
      behindRegistry.server.registry.count 42 = 0 ∧
      (behindRegistry.server.store.get? 42).map (·.livesOf 1) = some 3 := by
  decide +kernel

end Service

end WordGame
