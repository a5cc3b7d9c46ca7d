import WordGame.Proofs.Server.Vacancy
import WordGame.Proofs.Service.Listing

/-!
Sessions own the places of their connections, as long as nobody is cut off in the middle of an
errand. Every connection that is listed belongs to a session that knows about it or to a departure,
and when these are gone nothing is left.
-/

namespace WordGame

namespace Service

variable {setup : Setup} {service : Service} {id : ConnectionId} {session : Session}
  {connection : Connection} {room : RoomId}

/-- Nobody is cut off before it is done with its errands. -/
def Patient (service : Service) : Incident → Prop
  | .cut id _ => ∀ session ∈ service.sessions.get? id, session.errands = []
  | _ => True

instance (service : Service) (incident : Incident) : Decidable (service.Patient incident) :=
  match incident with
  | .cut id _ =>
    inferInstanceAs (Decidable (∀ session ∈ service.sessions.get? id, session.errands = []))
  | .connect _ _ _ | .hear _ _ | .advance _ | .depart _ | .amend _ | .wait _ | .ring | .call _ =>
    isTrue trivial

/-- A run in which everybody is done with its errands before it is cut off. -/
def Unhurried (setup : Setup) (service : Service) : List Incident → Prop
  | [] => True
  | incident :: rest =>
    service.Patient incident ∧ (service.undergo setup incident).Unhurried setup rest

instance decidableUnhurried (setup : Setup) :
    (service : Service) → (incidents : List Incident) →
      Decidable (service.Unhurried setup incidents)
  | _, [] => isTrue trivial
  | service, incident :: rest =>
    have := decidableUnhurried setup (service.undergo setup incident) rest
    inferInstanceAs (Decidable (_ ∧ _))

/-! ### Nobody is lost -/

theorem Patient.loses_nobody {incident : Incident} (patient : service.Patient incident) :
    ¬service.Loses setup incident connection room := by
  cases incident with
  | cut id place =>
    rintro ⟨session, piece, live, _, _, exposed⟩
    have idle := patient session live
    cases exposed with
    | leaving head | joining head =>
      rw [idle] at head
      cases head
  | connect | hear | advance | depart | amend | wait | ring | call => exact id

theorem Unhurried.lost_nobody {incidents : List Incident}
    (unhurried : service.Unhurried setup incidents) :
    ¬service.Lost setup incidents connection room := by
  induction incidents generalizing service with
  | nil => exact id
  | cons incident rest ih =>
    rintro (loses | lost)
    · exact unhurried.1.loses_nobody loses
    · exact ih unhurried.2 lost

/-! ### What becomes of the server -/

/-- A session that is done with its errands waits for its client only. -/
theorem cut_of_idle (live : service.sessions.get? id = some session) (idle : session.errands = [])
    (place : Nat) :
    service.cut setup id place = if place = 0 then service.drop id else service := by
  unfold cut places
  rw [live]
  dsimp only
  rw [idle]
  cases place with
  | zero => rfl
  | succ place => rfl

theorem leave_occurs (setup : Setup) (service : Service) (connection : Connection) (room : RoomId) :
    (service.leave setup connection room).server =
      (service.server.undergo setup.rules (service.supply setup)
        (.leave connection room)).server := by
  dsimp only [leave, Server.undergo]
  cases service.server.leave setup.rules (service.supply setup) connection room with
  | none => rfl
  | some transaction => rfl

theorem run_occurs (setup : Setup) (service : Service) (session : Session) (errand : Errand) :
    ∃ occurrence, (service.run setup session errand).server =
      (service.server.undergo setup.rules (service.supply setup) occurrence).server := by
  cases errand with
  | relay room text | pong timestamp => exact ⟨.relay 0 0 "", rfl⟩
  | answer room text => exact ⟨.answer room session.connection.identity.id text, rfl⟩
  | leave room => exact ⟨.leave session.connection room, leave_occurs setup service _ room⟩
  | join room =>
    refine ⟨.join session.connection room (service.objection session.connection room), ?_⟩
    dsimp only [run, join, Server.undergo]
    unfold request
    cases service.server.join setup.rules (service.objection session.connection room)
        session.connection room with
    | error error => rfl
    | ok admission => rfl

/-- As long as nobody is cut off in the middle of an errand, whatever happens to the server is one
of its occurrences, or nothing. -/
theorem undergo_occurs {incident : Incident} (patient : service.Patient incident) (setup : Setup) :
    ∃ occurrence, (service.undergo setup incident).server =
      (service.server.undergo setup.rules (service.supply setup) occurrence).server := by
  have idle : ∃ occurrence, service.server =
      (service.server.undergo setup.rules (service.supply setup) occurrence).server :=
    ⟨.relay 0 0 "", rfl⟩
  cases incident with
  | connect account name invented => exact idle
  | hear id message =>
    dsimp only [undergo]
    unfold hear
    split
    · split
      · exact idle
      · exact idle
    · exact idle
  | advance id =>
    dsimp only [undergo]
    unfold advance
    split
    · rename_i session live
      split
      · exact run_occurs setup (service.put _) _ _
      · exact idle
    · exact idle
  | cut id place =>
    dsimp only [undergo]
    cases live : service.sessions.get? id with
    | none =>
      unfold cut
      rw [live]
      exact idle
    | some session =>
      rw [cut_of_idle live (patient session live)]
      split
      · rw [server_drop]
        exact idle
      · exact idle
  | depart index =>
    dsimp only [undergo]
    unfold departNth
    split
    · exact ⟨.leave _ _, leave_occurs setup { service with departures := _ } _ _⟩
    · exact idle
  | amend membership => exact idle
  | wait moment => exact ⟨.wait moment, rfl⟩
  | ring => exact ⟨.ring, rfl⟩
  | call index => exact ⟨.call index, rfl⟩

theorem Unhurried.occurs {incidents : List Incident}
    (unhurried : service.Unhurried setup incidents) :
    ∃ occurrences, (service.runAll setup incidents).server =
      ((Chronicle.begin service.server).run setup.rules occurrences).server := by
  induction incidents generalizing service with
  | nil => exact ⟨[], rfl⟩
  | cons incident rest ih =>
    obtain ⟨occurrence, happened⟩ := undergo_occurs unhurried.1 setup
    obtain ⟨occurrences, later⟩ := ih unhurried.2
    refine ⟨(occurrence, service.supply setup) :: occurrences, ?_⟩
    rw [runAll_cons, later, happened, Chronicle.run_cons]
    exact Chronicle.server_run_begin setup.rules
      ((Chronicle.begin service.server).step setup.rules (occurrence, service.supply setup))
      occurrences

/-! ### Ownership -/

/-- However many sessions run and whatever they hear: if everybody is done with its errands before
it is cut off, a connection is listed in one room at most. Whoever is listed has a session that
takes itself to be in the room or is about to leave it, or is gone and has yet to leave. Once all
sessions and departures are over, nothing is left of any room. -/
theorem sessions_own_listings (setup : Setup) (incidents : List Incident)
    (unhurried : (initial setup).Unhurried setup incidents) :
    let service := (initial setup).runAll setup incidents
    let server := service.server
    (∀ room other player rival connection holder,
      server.registry.connection? room player = some connection →
        server.registry.connection? other rival = some holder → connection.id = holder.id →
          room = other ∧ player = rival) ∧
      (∀ room player connection, server.registry.connection? room player = some connection →
        (∃ session, service.sessions.get? connection.id = some session ∧
          session.connection = connection ∧
          (session.room = some room ∨ session.errands.head? = some (.leave room)) ∧
          (session.errands = [] → session.room = some room)) ∨
        (service.sessions.get? connection.id = none ∧ (connection, room) ∈ service.departures)) ∧
      (service.sessions = .empty → service.departures = [] →
        server.registry.rooms = .empty ∧ server.store.rooms = .empty ∧
          server.timers.recorded = .empty) := by
  intro service server
  have nobody : (initial setup).Accounted fun _ _ => False := initial_accounted setup
  have accounted : service.Accounted fun _ _ => False := by
    refine (nobody.runAll setup incidents).mono ?_
    intro connection room left
    exact left.resolve_right unhurried.lost_nobody
  refine ⟨nobody.exclusive_runAll (Registry.initial_exclusive _) setup incidents, ?_, ?_⟩
  · intro room player connection listed
    obtain ⟨_, _, seen⟩ := accounted.listed room player connection listed
    cases seen with
    | session session live own minds =>
      refine .inl ⟨session, live, own, minds, ?_⟩
      intro idle
      refine minds.resolve_right ?_
      rw [idle]
      exact fun impossible => nomatch impossible
    | departure gone pending => exact .inr ⟨gone, pending⟩
    | nobody _ left => exact left.elim
  · intro ended departed
    have alone : ∀ room player, server.registry.connection? room player = none := by
      intro room player
      cases listed : server.registry.connection? room player with
      | none => rfl
      | some connection =>
        obtain ⟨_, _, seen⟩ := accounted.listed room player connection listed
        cases seen with
        | session session live =>
          rw [ended] at live
          cases live
        | departure _ pending =>
          rw [departed] at pending
          cases pending
        | nobody _ left => exact left.elim
    obtain ⟨occurrences, same⟩ := unhurried.occurs
    dsimp only [server, service] at alone ⊢
    rw [same] at alone ⊢
    exact Chronicle.tables_of_nobody setup.rules occurrences alone

/-- A player moves from room to room, is refused by one, and takes turns in a room with a second
connection, which is there when the first one leaves late. When all are gone, nothing is left. -/
theorem sessions_own_listings_through_reconnects :
    let setup : Setup :=
      ⟨⟨{}, ⟨fun _ => false, fun _ _ => false⟩⟩, .except [9] [], fun _ => "the", 30000, 10000,
        fun _ => 0⟩
    let again : Connection := ⟨2, ⟨1, "one", false⟩⟩
    let moving : List Incident :=
      [.connect (some 1) (some "one") "", .connect (some 2) (some "two") "", .hear 0 (.join 42),
        .advance 0, .hear 1 (.join 42), .advance 1, .hear 0 (.join 7), .advance 0, .advance 0,
        .hear 0 (.join 9), .advance 0, .advance 0, .hear 0 (.join 42), .advance 0]
    let replacing : List Incident :=
      moving ++ [.connect (some 1) (some "one") "", .hear 2 (.join 42), .advance 2,
        .hear 0 (.join 42), .advance 0, .hear 2 (.join 42), .advance 2, .cut 0 0]
    let ending : List Incident :=
      replacing ++ [.depart 0, .hear 1 .leave, .advance 1, .cut 1 0, .cut 2 0, .depart 0]
    let replaced := (initial setup).runAll setup replacing
    let ended := (initial setup).runAll setup ending
    (initial setup).Unhurried setup replacing ∧ (initial setup).Unhurried setup ending ∧
      replaced.departures = [(⟨0, ⟨1, "one", false⟩⟩, 42)] ∧
      replaced.server.registry.connection? 42 1 = some again ∧
      (∃ session, replaced.sessions.get? 2 = some session ∧ session.room = some 42) ∧
      ended.sessions = .empty ∧ ended.departures = [] ∧ ended.server.registry.rooms = .empty ∧
      ended.server.store.rooms = .empty ∧ ended.server.timers.recorded = .empty := by
  refine ⟨?replacing, ?ending, by decide +kernel, ?listed, ?inside, ?sessions, ?departures,
    And.right (And.right (sessions_own_listings _ _ ?ending)) ?sessions ?departures⟩
  case inside =>
    refine Or.elim (And.left (And.right (sessions_own_listings _ _ ?replacing)) 42 1 _ ?listed)
      ?_ ?_
    · rintro ⟨session, live, _, _, idle⟩
      refine ⟨session, live, idle ?_⟩
      have done := congrArg (Option.map Session.errands) live
      refine Option.some.inj (done.symm.trans ?_)
      decide +kernel
    · rintro ⟨gone, _⟩
      exact absurd gone (by decide +kernel)
  all_goals decide +kernel

end Service

end WordGame
