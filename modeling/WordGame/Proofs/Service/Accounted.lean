import WordGame.Proofs.Server.Cut
import WordGame.Service.Run

/-!
Who sees to the connections that are listed in rooms: a session that takes itself to be in the room or
is about to leave it, a departure that is pending, or nobody any more. Whatever a session hears and
runs, nobody is lost by it.
-/

namespace WordGame

namespace Session

/-- The errands that are left fit the room of a session: it is in none when it leaves one, and in no
other when it joins one. -/
def Fits : Option RoomId → List Errand → Prop
  | _, [] => True
  | room, .leave _ :: rest => room = none ∧ Fits none rest
  | room, .join target :: rest => (room = none ∨ room = some target) ∧ rest = []
  | room, .answer _ _ :: rest => Fits room rest
  | room, .relay _ _ :: rest => Fits room rest
  | room, .pong _ :: rest => Fits room rest

/-- A session sees to a room that it takes itself to be in, or is about to leave. -/
def Minds (session : Session) (room : RoomId) : Prop :=
  session.room = some room ∨ session.errands.head? = some (.leave room)

variable {session : Session} {room : RoomId}

theorem receive_fits (message : ClientMessage) (idle : session.errands = []) :
    Fits (session.receive message).room (session.receive message).errands := by
  obtain ⟨connection, held, heartbeat, errands⟩ := session
  dsimp only at idle
  subst idle
  cases message with
  | join target =>
    unfold receive join
    dsimp only
    split
    · rename_i same
      exact ⟨.inr same, rfl⟩
    · cases held with
      | none => exact ⟨.inl rfl, rfl⟩
      | some room => exact ⟨rfl, .inl rfl, rfl⟩
  | leave =>
    cases held with
    | none => trivial
    | some room => exact ⟨rfl, trivial⟩
  | answer word | typing text =>
    cases held with
    | none => trivial
    | some room => trivial
  | ping | pong => trivial

theorem connection_receive (session : Session) (message : ClientMessage) :
    (session.receive message).connection = session.connection := by
  cases message with
  | join target =>
    unfold receive join
    dsimp only
    split
    · rfl
    · rfl
  | leave | answer | typing | ping | pong => rfl

theorem receive_minds (message : ClientMessage) (idle : session.errands = [])
    (minds : session.Minds room) : (session.receive message).Minds room := by
  obtain ⟨connection, held, heartbeat, errands⟩ := session
  dsimp only at idle
  subst idle
  rcases minds with here | leaving
  · dsimp only at here
    subst here
    cases message with
    | join target =>
      unfold receive join
      dsimp only
      split
      · exact .inl rfl
      · exact .inr rfl
    | leave => exact .inr rfl
    | answer | typing | ping | pong => exact .inl rfl
  · cases leaving

end Session

namespace Service

variable {setup : Setup} {service later : Service} {id : ConnectionId} {session : Session}
  {connection : Connection} {room : RoomId}

structure SameSessions (service later : Service) : Prop where
  sessions : later.sessions = service.sessions
  departures : later.departures = service.departures
  connections : later.connections = service.connections

theorem leave_same (setup : Setup) (service : Service) (connection : Connection) (room : RoomId) :
    service.SameSessions (service.leave setup connection room) := by
  unfold leave
  split
  · exact ⟨rfl, rfl, rfl⟩
  · exact ⟨rfl, rfl, rfl⟩

theorem leave_quits (setup : Setup) (service : Service) (connection : Connection) (room : RoomId) :
    service.server.registry.Quits room connection
      (service.leave setup connection room).server.registry := by
  have quits := Server.leave_quits setup.rules (service.supply setup) service.server connection room
  unfold leave
  cases departed : service.server.leave setup.rules (service.supply setup) connection room with
  | none =>
    rw [departed] at quits
    exact quits
  | some transaction =>
    rw [departed] at quits
    exact quits

theorem advance_of_errand (setup : Setup) {errand : Errand} {rest : List Errand}
    (live : service.sessions.get? id = some session) (errands : session.errands = errand :: rest) :
    service.advance setup id =
      (service.put { session with errands := rest }).run setup { session with errands := rest }
        errand := by
  unfold advance
  rw [live]
  dsimp only
  rw [errands]

theorem get?_put (service : Service) (session : Session) (id : ConnectionId) :
    (service.put session).sessions.get? id =
      if id = session.connection.id then some session else service.sessions.get? id :=
  Table.get?_insert _ _ _ _

/-- Who sees to a connection that is listed in a room. -/
inductive Seen (service : Service) (lost : Connection → RoomId → Prop) (connection : Connection)
    (room : RoomId) : Prop
  | session (session : Session) (live : service.sessions.get? connection.id = some session)
      (own : session.connection = connection) (minds : session.Minds room) :
      Seen service lost connection room
  | departure (gone : service.sessions.get? connection.id = none)
      (pending : (connection, room) ∈ service.departures) : Seen service lost connection room
  | nobody (gone : service.sessions.get? connection.id = none) (left : lost connection room) :
      Seen service lost connection room

/-- Somebody sees to everybody who is listed, but for those who are lost. -/
structure Accounted (service : Service) (lost : Connection → RoomId → Prop) : Prop where
  session : ∀ id session, service.sessions.get? id = some session →
    session.connection.id = id ∧ id < service.connections ∧
      Session.Fits session.room session.errands
  departed : ∀ connection room, (connection, room) ∈ service.departures →
    connection.id < service.connections ∧ service.sessions.get? connection.id = none
  listed : ∀ room player connection,
    service.server.registry.connection? room player = some connection →
      connection.identity.id = player ∧ connection.id < service.connections ∧
        service.Seen lost connection room

variable {lost : Connection → RoomId → Prop}

theorem initial_accounted (setup : Setup) : (initial setup).Accounted lost := by
  constructor
  · intro _ _ impossible
    cases impossible
  · intro _ _ impossible
    cases impossible
  · intro _ _ _ impossible
    cases impossible

variable {more : Connection → RoomId → Prop}

theorem Seen.imp (seen : service.Seen lost connection room)
    (sessions : later.sessions.get? connection.id = service.sessions.get? connection.id)
    (departures : (connection, room) ∈ service.departures → (connection, room) ∈ later.departures)
    (fewer : lost connection room → more connection room) : later.Seen more connection room := by
  cases seen with
  | session session live own minds => exact .session session (sessions.trans live) own minds
  | departure gone pending => exact .departure (sessions.trans gone) (departures pending)
  | nobody gone left => exact .nobody (sessions.trans gone) (fewer left)

namespace Accounted

theorem own (accounted : service.Accounted lost)
    (live : service.sessions.get? id = some session) {player : PlayerId} {holder : Connection}
    (listed : service.server.registry.connection? room player = some holder)
    (same : holder.id = id) :
    holder = session.connection ∧ holder.identity.id = player ∧ session.Minds room := by
  obtain ⟨known, _, seen⟩ := accounted.listed room player holder listed
  rw [← same] at live
  cases seen with
  | session other found own minds =>
    cases live.symm.trans found
    exact ⟨own.symm, known, minds⟩
  | departure gone | nobody gone => cases live.symm.trans gone

theorem mono (accounted : service.Accounted lost)
    (fewer : ∀ connection room, lost connection room → more connection room) :
    service.Accounted more where
  session := accounted.session
  departed := accounted.departed
  listed room player connection listed := by
    obtain ⟨known, made, seen⟩ := accounted.listed room player connection listed
    exact ⟨known, made, seen.imp rfl id (fewer connection room)⟩

theorem of_same (accounted : service.Accounted lost) (same : service.SameSessions later)
    (registry : later.server.registry = service.server.registry) : later.Accounted lost := by
  obtain ⟨sessions, departures, connections⟩ := same
  constructor
  · rw [sessions, connections]
    exact accounted.session
  · rw [sessions, departures, connections]
    exact accounted.departed
  · intro room player connection listed
    rw [registry] at listed
    obtain ⟨known, made, seen⟩ := accounted.listed room player connection listed
    rw [connections]
    refine ⟨known, made, seen.imp ?_ ?_ id⟩
    · rw [sessions]
    · rw [departures]
      exact id

/-- A change of one session, its departure and its place in the rooms. -/
theorem alter (accounted : service.Accounted lost)
    (fewer : ∀ connection room, lost connection room → more connection room)
    (live : service.sessions.get? id = some session)
    (connections : later.connections = service.connections)
    (elsewhere : ∀ other, other ≠ id → later.sessions.get? other = service.sessions.get? other)
    (here : ∀ after, later.sessions.get? id = some after →
      after.connection.id = id ∧ Session.Fits after.room after.errands)
    (pending : ∀ departure ∈ service.departures, departure ∈ later.departures)
    (departed : ∀ departure ∈ later.departures, departure ∈ service.departures ∨
      departure.1.id = id ∧ later.sessions.get? id = none)
    (others : ∀ room player holder, later.server.registry.connection? room player = some holder →
      holder.id ≠ id → service.server.registry.connection? room player = some holder)
    (mine : ∀ room player holder, later.server.registry.connection? room player = some holder →
      holder.id = id → holder.identity.id = player ∧ later.Seen more holder room) :
    later.Accounted more := by
  obtain ⟨_, made, _⟩ := accounted.session id session live
  constructor
  · intro other found present
    rw [connections]
    by_cases same : other = id
    · subst same
      exact ⟨(here found present).1, made, (here found present).2⟩
    · rw [elsewhere other same] at present
      exact accounted.session other found present
  · intro connection room due
    rw [connections]
    rcases departed (connection, room) due with before | ⟨same, gone⟩
    · obtain ⟨known, gone⟩ := accounted.departed connection room before
      refine ⟨known, ?_⟩
      rw [elsewhere, gone]
      intro same
      rw [same, live] at gone
      cases gone
    · dsimp only at same
      rw [same]
      exact ⟨made, gone⟩
  · intro room player holder listed
    rw [connections]
    by_cases same : holder.id = id
    · obtain ⟨known, seen⟩ := mine room player holder listed same
      rw [same]
      exact ⟨known, made, seen⟩
    · obtain ⟨known, before, seen⟩ :=
        accounted.listed room player holder (others room player holder listed same)
      exact ⟨known, before,
        seen.imp (elsewhere holder.id same) (pending (holder, room)) (fewer holder room)⟩

/-- One session goes on, and with it the place of its connection. -/
theorem put (accounted : service.Accounted lost) (after : Session)
    (live : service.sessions.get? id = some session)
    (sessions : ∀ other, later.sessions.get? other = (service.put after).sessions.get? other)
    (departures : later.departures = service.departures)
    (connections : later.connections = service.connections)
    (own : after.connection = session.connection) (fits : Session.Fits after.room after.errands)
    (others : ∀ room player holder, later.server.registry.connection? room player = some holder →
      holder.id ≠ id → service.server.registry.connection? room player = some holder)
    (mine : ∀ room player holder, later.server.registry.connection? room player = some holder →
      holder.id = id → holder = session.connection ∧ holder.identity.id = player ∧
        after.Minds room) : later.Accounted lost := by
  obtain ⟨number, _⟩ := accounted.session id session live
  have found : ∀ other, later.sessions.get? other =
      if other = id then some after else service.sessions.get? other := by
    intro other
    rw [sessions, get?_put, own, number]
  refine accounted.alter (fun _ _ left => left) live connections ?_ ?_ ?_ ?_ others ?_
  · intro other different
    rw [found, if_neg different]
  · intro present there
    rw [found, if_pos rfl] at there
    cases there
    rw [own]
    exact ⟨number, fits⟩
  · rw [departures]
    exact fun _ member => member
  · rw [departures]
    exact fun _ => .inl
  · intro room player holder listed here
    obtain ⟨same, known, minds⟩ := mine room player holder listed here
    refine ⟨known, .session after ?_ (own.trans same.symm) minds⟩
    rw [found, if_pos here]

theorem advance_quiet (accounted : service.Accounted lost) {errand : Errand} {rest : List Errand}
    (live : service.sessions.get? id = some session) (errands : session.errands = errand :: rest)
    (leaves : ∀ room, errand ≠ .leave room) (fits : Session.Fits session.room rest)
    (same : (service.put { session with errands := rest }).SameSessions later)
    (registry : later.server.registry = service.server.registry) : later.Accounted lost := by
  refine accounted.put { session with errands := rest } live ?_ same.departures same.connections
    rfl fits ?_ ?_
  · intro other
    rw [same.sessions]
  · intro room player holder listed _
    rw [registry] at listed
    exact listed
  · intro room player holder listed here
    rw [registry] at listed
    obtain ⟨own, known, minds⟩ := accounted.own live listed here
    refine ⟨own, known, ?_⟩
    rcases minds with inside | leaving
    · exact .inl inside
    · rw [errands] at leaving
      exact absurd (Option.some.inj leaving) (leaves room)

theorem advance_leave (accounted : service.Accounted lost) {target : RoomId} {rest : List Errand}
    (live : service.sessions.get? id = some session)
    (errands : session.errands = .leave target :: rest) :
    (service.advance setup id).Accounted lost := by
  obtain ⟨_, _, fits⟩ := accounted.session id session live
  rw [errands] at fits
  obtain ⟨nowhere, fits⟩ := fits
  rw [advance_of_errand setup live errands]
  let put := service.put { session with errands := rest }
  have same := put.leave_same setup session.connection target
  have quits := put.leave_quits setup session.connection target
  refine accounted.put { session with errands := rest } live ?_ same.departures same.connections
    rfl ?_ ?_ ?_
  · intro other
    change (put.leave setup session.connection target).sessions.get? other = _
    rw [same.sessions]
  · dsimp only
    rw [nowhere]
    exact fits
  · intro room player holder listed _
    exact ((quits room player holder).mp listed).1
  · intro room player holder listed here
    obtain ⟨before, other⟩ := (quits room player holder).mp listed
    obtain ⟨own, known, minds⟩ := accounted.own live before here
    -- The session has given the room up before, so it only minded the room that it leaves now.
    rcases minds with inside | leaving
    · cases nowhere.symm.trans inside
    · rw [errands] at leaving
      cases leaving
      rw [own] at known
      exact absurd ⟨rfl, known.symm, congrArg Connection.id own⟩ other

theorem advance_join (accounted : service.Accounted lost) {target : RoomId} {rest : List Errand}
    (live : service.sessions.get? id = some session)
    (errands : session.errands = .join target :: rest) :
    (service.advance setup id).Accounted lost := by
  obtain ⟨number, _, fits⟩ := accounted.session id session live
  rw [errands] at fits
  obtain ⟨fits, last⟩ := fits
  subst last
  rw [advance_of_errand setup live errands]
  unfold run Service.join
  dsimp only
  cases admitted : (service.put { session with errands := [] }).request setup session.connection
      target with
  | error error =>
    dsimp only
    exact accounted.advance_quiet live errands (fun _ other => nomatch other) trivial
      ⟨rfl, rfl, rfl⟩ rfl
  | ok admission =>
    have registers := Server.join_registers admitted
    dsimp only
    refine accounted.put { session with errands := [], room := some target } live ?_ rfl rfl rfl
      trivial ?_ ?_
    · intro other
      change ((service.put { session with errands := [] }).put _).sessions.get? other = _
      rw [get?_put, get?_put, get?_put]
      split
      · rfl
      · rfl
    · intro room player holder listed elsewhere
      change admission.transaction.server.registry.connection? room player = some holder at listed
      rw [registers.connection?] at listed
      split at listed
      · cases listed
        exact absurd number elsewhere
      · exact listed
    · intro room player holder listed here
      change admission.transaction.server.registry.connection? room player = some holder at listed
      rw [registers.connection?] at listed
      split at listed
      · rename_i there
        cases listed
        exact ⟨rfl, there.2.symm, .inl (congrArg some there.1.symm)⟩
      · obtain ⟨own, known, minds⟩ := accounted.own live listed here
        refine ⟨own, known, ?_⟩
        rcases minds with inside | leaving
        · rcases fits with nowhere | same
          · cases nowhere.symm.trans inside
          · exact .inl (same.symm.trans inside)
        · rw [errands] at leaving
          cases leaving

theorem advance (accounted : service.Accounted lost) (setup : Setup) (id : ConnectionId) :
    (service.advance setup id).Accounted lost := by
  cases live : service.sessions.get? id with
  | none =>
    unfold Service.advance
    rw [live]
    exact accounted
  | some session =>
    obtain ⟨_, _, fits⟩ := accounted.session id session live
    cases errands : session.errands with
    | nil =>
      unfold Service.advance
      rw [live]
      dsimp only
      rw [errands]
      exact accounted
    | cons errand rest =>
      rw [errands] at fits
      cases errand with
      | join target => exact accounted.advance_join live errands
      | leave target => exact accounted.advance_leave live errands
      | answer room text =>
        rw [advance_of_errand setup live errands]
        exact accounted.advance_quiet live errands (fun _ other => nomatch other) fits
          ⟨rfl, rfl, rfl⟩ (Server.registry_answer _ _ _ _ _ _)
      | relay room text | pong timestamp =>
        rw [advance_of_errand setup live errands]
        exact accounted.advance_quiet live errands (fun _ other => nomatch other) fits
          ⟨rfl, rfl, rfl⟩ rfl

theorem hear (accounted : service.Accounted lost) (id : ConnectionId) (message : ClientMessage) :
    (service.hear id message).Accounted lost := by
  unfold Service.hear
  cases live : service.sessions.get? id with
  | none => exact accounted
  | some session =>
    dsimp only
    split
    · rename_i idle
      refine accounted.put (session.receive message) live (fun _ => rfl) rfl rfl
        (session.connection_receive message) (Session.receive_fits message idle)
        (fun _ _ _ listed _ => listed) ?_
      intro room player holder listed here
      obtain ⟨own, known, minds⟩ := accounted.own live listed here
      exact ⟨own, known, Session.receive_minds message idle minds⟩
    · exact accounted

theorem connect (accounted : service.Accounted lost) (setup : Setup) (account : Option PlayerId)
    (name : Option String) (invented : String) :
    (service.connect setup account name invented).2.Accounted lost := by
  have sessions : ∀ other,
      (service.connect setup account name invented).2.sessions.get? other =
        if other = service.connections then
          some (.initial (service.connect setup account name invented).1
            (setup.heartbeat service.now))
        else service.sessions.get? other :=
    fun other => Table.get?_insert _ _ _ _
  have older : ∀ other, other < service.connections →
      (service.connect setup account name invented).2.sessions.get? other =
        service.sessions.get? other := by
    intro other before
    rw [sessions, if_neg (Nat.ne_of_lt before)]
  constructor
  · intro other session live
    rw [sessions] at live
    split at live
    · rename_i new
      cases live
      rw [new]
      exact ⟨rfl, Nat.lt_succ_self _, trivial⟩
    · obtain ⟨number, made, fits⟩ := accounted.session other session live
      exact ⟨number, Nat.lt_succ_of_lt made, fits⟩
  · intro connection room pending
    obtain ⟨made, gone⟩ := accounted.departed connection room pending
    exact ⟨Nat.lt_succ_of_lt made, (older _ made).trans gone⟩
  · intro room player connection listed
    obtain ⟨known, made, seen⟩ := accounted.listed room player connection listed
    exact ⟨known, Nat.lt_succ_of_lt made,
      seen.imp (older _ made) (fun pending => pending) (fun left => left)⟩

theorem depart (accounted : service.Accounted lost) (setup : Setup) (index : Nat) :
    (service.departNth setup index).Accounted lost := by
  unfold departNth
  cases due : service.departures[index]? with
  | none => exact accounted
  | some departure =>
    obtain ⟨leaver, target⟩ := departure
    let rest : Service := { service with departures := service.departures.eraseIdx index }
    obtain ⟨sessions, departures, connections⟩ := rest.leave_same setup leaver target
    have quits := rest.leave_quits setup leaver target
    dsimp only
    constructor
    · rw [sessions, connections]
      exact accounted.session
    · intro connection room pending
      rw [departures] at pending
      rw [sessions, connections]
      exact accounted.departed connection room (List.mem_of_mem_eraseIdx pending)
    · intro room player connection listed
      obtain ⟨before, other⟩ := (quits room player connection).mp listed
      obtain ⟨known, made, seen⟩ := accounted.listed room player connection before
      rw [connections]
      refine ⟨known, made, seen.imp ?_ ?_ fun left => left⟩
      · rw [sessions]
      · intro pending
        rw [departures]
        obtain ⟨place, found⟩ := List.mem_iff_getElem?.mp pending
        refine List.mem_eraseIdx_iff_getElem?.mpr ⟨place, ?_, found⟩
        rintro rfl
        cases found.symm.trans due
        exact other ⟨rfl, known.symm, rfl⟩

end Accounted

end Service

end WordGame
