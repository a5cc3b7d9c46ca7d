import WordGame.Proofs.Service.Cleanup

/-!
Where connections are listed. Whatever happens to a service, one connection comes into a room or one
goes out of it, and nobody is ever listed in two places.
-/

namespace WordGame

namespace Registry

variable {registry later : Registry} {room : RoomId} {connection : Connection}

/-- No connection is listed in two places. -/
def Exclusive (registry : Registry) : Prop :=
  ∀ room other player rival connection holder,
    registry.connection? room player = some connection →
      registry.connection? other rival = some holder → connection.id = holder.id →
        room = other ∧ player = rival

theorem initial_exclusive (capacity : Nat) : (initial capacity).Exclusive := by
  intro _ _ _ _ _ _ impossible
  cases impossible

theorem Quits.exclusive (quits : registry.Quits room connection later)
    (exclusive : registry.Exclusive) : later.Exclusive := by
  intro first second player rival one other listed also same
  have before := ((quits first player one).mp listed).1
  have after := ((quits second rival other).mp also).1
  exact exclusive first second player rival one other before after same

/-- A connection that is listed nowhere else comes into a room. -/
theorem Registers.exclusive (registers : registry.Registers room connection later)
    (exclusive : registry.Exclusive)
    (own : ∀ query player holder, registry.connection? query player = some holder →
      holder.id = connection.id → query = room ∧ player = connection.identity.id) :
    later.Exclusive := by
  have placed : ∀ query player holder, later.connection? query player = some holder →
      holder.id = connection.id → query = room ∧ player = connection.identity.id := by
    intro query player holder listed same
    rw [registers.connection?] at listed
    split at listed
    · assumption
    · exact own query player holder listed same
  intro first second player rival one other listed also same
  by_cases mine : other.id = connection.id
  · obtain ⟨here, known⟩ := placed first player one listed (same.trans mine)
    obtain ⟨there, also⟩ := placed second rival other also mine
    exact ⟨here.trans there.symm, known.trans also.symm⟩
  · rw [registers.connection?] at listed also
    split at listed
    · cases listed
      exact absurd same.symm mine
    · split at also
      · cases also
        exact absurd rfl mine
      · exact exclusive first second player rival one other listed also same

end Registry

namespace Service

variable {setup : Setup} {service later : Service} {id : ConnectionId} {session : Session}
  {connection : Connection} {room : RoomId} {lost : Connection → RoomId → Prop}

/-- A session is let into a room. -/
def Enters (setup : Setup) (service : Service) (incident : Incident) (id : ConnectionId)
    (room : RoomId) : Prop :=
  incident = .advance id ∧
    ∃ session admission, service.sessions.get? id = some session ∧
      session.errands.head? = some (.join room) ∧
      service.request setup session.connection room = .ok admission

/-- What an incident does to the lists of rooms. Whoever comes into a room does so by a join of its
own session, be it to the end or not. -/
inductive Shifts (setup : Setup) (service : Service) (incident : Incident) (later : Registry) : Prop
  | stays (same : later = service.server.registry) : Shifts setup service incident later
  | quits (connection : Connection) (room : RoomId)
      (quits : service.server.registry.Quits room connection later) :
      Shifts setup service incident later
  | registers (id : ConnectionId) (session : Session) (room : RoomId)
      (live : service.sessions.get? id = some session)
      (joining : session.errands.head? = some (.join room))
      (cause : service.Enters setup incident id room ∨ ∃ place, incident = .cut id place)
      (registers : service.server.registry.Registers room session.connection later) :
      Shifts setup service incident later

theorem server_drop (service : Service) (id : ConnectionId) :
    (service.drop id).server = service.server := by
  unfold drop
  split
  · rfl
  · rfl

theorem get?_drop (service : Service) (id query : ConnectionId) :
    (service.drop id).sessions.get? query =
      if query = id then none else service.sessions.get? query := by
  cases live : service.sessions.get? id with
  | none =>
    have stays : service.drop id = service := by
      unfold drop
      rw [live]
    rw [stays]
    split
    · rename_i same
      rw [same]
      exact live
    · rfl
  | some session =>
    rw [drop_of_live live]
    exact Table.get?_erase service.sessions id query

theorem run_join_of_ok {admission : Admission}
    (admitted : service.request setup session.connection room = .ok admission) :
    service.run setup session (.join room) =
      (service.enact admission.transaction).put { session with room := some room } := by
  unfold run
  dsimp only
  unfold join
  rw [admitted]

theorem run_join_of_error {error : JoinError}
    (refused : service.request setup session.connection room = .error error) :
    service.run setup session (.join room) = service := by
  unfold run
  dsimp only
  unfold join
  rw [refused]

theorem advance_shifts (setup : Setup) (service : Service) (id : ConnectionId) :
    service.Shifts setup (.advance id) (service.advance setup id).server.registry := by
  cases live : service.sessions.get? id with
  | none =>
    unfold advance
    rw [live]
    exact .stays rfl
  | some session =>
    cases errands : session.errands with
    | nil =>
      unfold advance
      rw [live]
      dsimp only
      rw [errands]
      exact .stays rfl
    | cons errand rest =>
      rw [advance_of_errand setup live errands]
      cases errand with
      | answer room text => exact .stays (Server.registry_answer _ _ _ _ _ _)
      | relay room text | pong timestamp => exact .stays rfl
      | leave room =>
        exact .quits session.connection room (leave_quits setup _ session.connection room)
      | join room =>
        let put := service.put { session with errands := rest }
        cases admitted : put.request setup session.connection room with
        | error error =>
          rw [@run_join_of_error _ put { session with errands := rest } room error admitted]
          exact .stays rfl
        | ok admission =>
          rw [@run_join_of_ok _ put { session with errands := rest } room admission admitted]
          have head : session.errands.head? = some (.join room) := by
            rw [errands]
            rfl
          exact .registers id session room live head
            (.inl ⟨rfl, session, admission, live, head, admitted⟩) (Server.join_registers admitted)

theorem cut_shifts (setup : Setup) (service : Service) (id : ConnectionId) (place : Nat) :
    service.Shifts setup (.cut id place) (service.cut setup id place).server.registry := by
  unfold cut
  cases live : service.sessions.get? id with
  | none => exact .stays rfl
  | some session =>
    dsimp only
    split
    · rename_i within
      rw [server_drop]
      have waits := List.getElem?_eq_getElem within
      -- Only the pieces of a join or a leave touch the lists.
      have quiet (still : ∀ piece ∈ service.places setup session, piece.Quiet) :
          service.Shifts setup (.cut id place) (Script.run
            ((service.places setup session).take place) (.begin service.server)).server.registry :=
        .stays (Script.run_take_quiet still place (.begin service.server))
      change service.Shifts setup (.cut id place) (Script.run
        ((service.places setup session).take place) (.begin service.server)).server.registry
      generalize (service.places setup session)[place] = piece at waits
      unfold places at waits quiet ⊢
      cases errands : session.errands with
      | nil =>
        rw [errands] at quiet
        exact quiet (by simp)
      | cons errand rest =>
        rw [errands] at waits quiet
        cases errand with
        | answer room text => exact quiet (Server.quiet_answerScript _ _)
        | relay room text => exact quiet (Server.quiet_relayScript _ _)
        | pong timestamp => exact quiet (List.forall_mem_nil _)
        | leave room =>
          rcases (Server.leaveScript_leaves service.server).cut waits with ⟨_, same⟩ | ⟨_, quits⟩
          · exact .stays same
          · exact .quits session.connection room quits
        | join room =>
          rcases (Server.joinScript_joins service.server).cut waits with ⟨_, same⟩ | ⟨_, registers⟩
          · exact .stays same
          · refine .registers id session room live ?_ (.inr ⟨place, rfl⟩) registers
            rw [errands]
            rfl
    · exact .stays rfl

theorem undergo_shifts (setup : Setup) (service : Service) (incident : Incident) :
    service.Shifts setup incident (service.undergo setup incident).server.registry := by
  cases incident with
  | connect account name invented | amend membership | wait moment => exact .stays rfl
  | hear id message =>
    refine .stays ?_
    dsimp only [undergo]
    unfold hear
    split
    · split
      · rfl
      · rfl
    · rfl
  | advance id => exact advance_shifts setup service id
  | cut id place => exact cut_shifts setup service id place
  | depart index =>
    dsimp only [undergo]
    unfold departNth
    split
    · exact .quits _ _ (leave_quits setup { service with departures := _ } _ _)
    · exact .stays rfl
  | ring => exact .stays service.server.registry_ringDue
  | call index =>
    exact .stays (service.server.registry_callNth setup.rules (service.supply setup) index)

namespace Accounted

/-- A session that is about to join a room is listed in no other. -/
theorem place_of_joining (accounted : service.Accounted lost)
    (live : service.sessions.get? id = some session)
    (joining : session.errands.head? = some (.join room)) {query : RoomId} {player : PlayerId}
    {holder : Connection} (listed : service.server.registry.connection? query player = some holder)
    (same : holder.id = id) : query = room ∧ player = session.connection.identity.id := by
  obtain ⟨own, known, minds⟩ := accounted.own live listed same
  refine ⟨?_, by rw [← own, known]⟩
  obtain ⟨rest, errands⟩ := List.head?_eq_some_iff.mp joining
  obtain ⟨_, _, fits⟩ := accounted.session id session live
  rw [errands] at fits
  rcases minds with inside | leaving
  · rcases fits.1 with nowhere | same
    · cases nowhere.symm.trans inside
    · exact Option.some.inj (inside.symm.trans same)
  · rw [joining] at leaving
    cases leaving

theorem exclusive_undergo (accounted : service.Accounted lost)
    (exclusive : service.server.registry.Exclusive) (setup : Setup) (incident : Incident) :
    (service.undergo setup incident).server.registry.Exclusive := by
  cases service.undergo_shifts setup incident with
  | stays same =>
    rw [same]
    exact exclusive
  | quits connection room quits => exact quits.exclusive exclusive
  | registers id session room live joining cause registers =>
    obtain ⟨number, _⟩ := accounted.session id session live
    refine registers.exclusive exclusive ?_
    intro query player holder listed same
    exact accounted.place_of_joining live joining listed (same.trans number)

theorem exclusive_runAll (accounted : service.Accounted lost)
    (exclusive : service.server.registry.Exclusive) (setup : Setup) (incidents : List Incident) :
    (service.runAll setup incidents).server.registry.Exclusive := by
  induction incidents generalizing service lost with
  | nil => exact exclusive
  | cons incident rest ih =>
    rw [runAll_cons]
    have once := accounted.exclusive_undergo exclusive setup incident
    exact ih (accounted.undergo setup incident) once

end Accounted

end Service

end WordGame
