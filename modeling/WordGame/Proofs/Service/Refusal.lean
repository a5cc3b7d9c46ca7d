import WordGame.Proofs.Service.Bystanders
import WordGame.Service.Attempt

/-!
Refused joins. Those who keep the records may object, or the room may have no place; either way all
that the server keeps is as it was, although the room has been listed in between. That hangs on the
registry: only rooms with connections are ever listed in it, however transactions are cut off.
-/

namespace WordGame

/-! ### The registry is tidy -/

/-- A part of a transaction that leaves a tidy registry tidy. -/
def Piece.Tidies (piece : Piece) : Prop :=
  ∀ transaction, transaction.server.registry.Tidy → (piece.act transaction).server.registry.Tidy

theorem Piece.Quiet.tidies {piece : Piece} (quiet : piece.Quiet) : piece.Tidies := by
  intro transaction tidy
  rw [quiet transaction]
  exact tidy

theorem Piece.register_tidies {registry : Registry} (tidy : registry.Tidy)
    (deliveries : List Delivery) : (Piece.register registry deliveries).Tidies :=
  fun _ _ => tidy

theorem Script.run_tidy {script : Script} (tidies : ∀ piece ∈ script, piece.Tidies)
    {transaction : Transaction} (tidy : transaction.server.registry.Tidy) :
    (run script transaction).server.registry.Tidy := by
  induction script generalizing transaction with
  | nil => exact tidy
  | cons piece rest ih =>
    rw [run_cons]
    exact ih (fun other member => tidies other (List.mem_cons_of_mem _ member))
      (tidies piece List.mem_cons_self transaction tidy)

namespace Server

variable {rules : Rules} {fragment : Nat → String} {server : Server} {connection : Connection}
  {room : RoomId} {objection : Option Refusal}

theorem joinScript_tidies (tidy : server.registry.Tidy) :
    ∀ piece ∈ server.joinScript rules objection connection room, piece.Tidies := by
  have idle (await : Await) : (Piece.idle await).Tidies := (Piece.quiet_idle await).tidies
  have inner (script : Script) (inner : ∀ piece ∈ script, piece.Inner) :
      ∀ piece ∈ script, piece.Tidies := fun piece member => (inner piece member).quiet.tidies
  unfold joinScript
  cases objection with
  | some refusal => exact List.forall_mem_singleton.mpr (idle .records)
  | none =>
    dsimp only
    cases registered : server.registry.register room connection with
    | error full =>
      rw [List.forall_mem_cons, List.forall_mem_cons, List.forall_mem_singleton]
      exact ⟨idle .records, idle .gate, idle .registration⟩
    | ok pair =>
      obtain ⟨registration, registry⟩ := pair
      dsimp only
      rw [List.forall_mem_cons, List.forall_mem_cons, List.forall_mem_cons, List.forall_mem_append]
      exact ⟨idle .records, idle .gate, Piece.register_tidies (tidy.register registered) _,
        inner _ (inner_enterScript _ _), inner _ (inner_announceScript registration)⟩

theorem leaveScript_tidies (tidy : server.registry.Tidy) :
    ∀ piece ∈ server.leaveScript rules fragment connection room, piece.Tidies := by
  have idle (await : Await) : (Piece.idle await).Tidies := (Piece.quiet_idle await).tidies
  cases server.leaveScript_leaves with
  | stays _ split =>
    rw [split, List.forall_mem_cons, List.forall_mem_singleton]
    exact ⟨idle .gate, idle .registration⟩
  | goes left registry rest unregistered split late =>
    rw [split, List.singleton_append, List.forall_mem_cons, List.forall_mem_cons]
    exact ⟨idle .gate, Piece.register_tidies (tidy.unregister unregistered) _,
      fun piece member => (quiet_of_late late piece member).tidies⟩

end Server

namespace Service

variable {service : Service}

theorem places_tidies (tidy : service.server.registry.Tidy) (setup : Setup) (session : Session) :
    ∀ piece ∈ service.places setup session, piece.Tidies := by
  unfold places
  cases session.errands with
  | nil => exact List.forall_mem_singleton.mpr (Piece.quiet_idle .client).tidies
  | cons errand rest =>
    cases errand with
    | join room => exact Server.joinScript_tidies tidy
    | leave room => exact Server.leaveScript_tidies tidy
    | answer room text =>
      exact fun piece member => (Server.quiet_answerScript _ _ piece member).tidies
    | relay room text => exact fun piece member => (Server.quiet_relayScript _ _ piece member).tidies
    | pong timestamp => exact List.forall_mem_nil _

theorem leave_tidy (setup : Setup) (service : Service) (connection : Connection) (room : RoomId)
    (tidy : service.server.registry.Tidy) :
    (service.leave setup connection room).server.registry.Tidy := by
  have later := Server.undergo_tidy setup.rules (service.supply setup) tidy
    (.leave connection room)
  dsimp only [Server.undergo] at later
  unfold leave
  cases departed : service.server.leave setup.rules (service.supply setup) connection room with
  | none => exact tidy
  | some transaction =>
    rw [departed] at later
    exact later

theorem run_tidy (setup : Setup) (service : Service) (session : Session) (errand : Errand)
    (tidy : service.server.registry.Tidy) :
    (service.run setup session errand).server.registry.Tidy := by
  cases errand with
  | answer room text =>
    exact Server.undergo_tidy setup.rules (service.supply setup) tidy
      (.answer room session.connection.identity.id text)
  | relay | pong => exact tidy
  | leave room => exact leave_tidy setup service session.connection room tidy
  | join room =>
    have later := Server.undergo_tidy setup.rules (service.supply setup) tidy
      (.join session.connection room (service.objection session.connection room))
    dsimp only [Server.undergo] at later
    cases admitted : service.request setup session.connection room with
    | error error =>
      rw [run_join_of_error admitted]
      exact tidy
    | ok admission =>
      unfold request at admitted
      rw [admitted] at later
      rw [run_join_of_ok admitted]
      exact later

theorem undergo_tidy (setup : Setup) (service : Service) (incident : Incident)
    (tidy : service.server.registry.Tidy) :
    (service.undergo setup incident).server.registry.Tidy := by
  have occurs := Server.undergo_tidy setup.rules (service.supply setup) tidy
  cases incident with
  | connect | amend => exact tidy
  | wait moment => exact occurs (.wait moment)
  | ring => exact occurs .ring
  | call index => exact occurs (.call index)
  | hear id message =>
    dsimp only [undergo]
    unfold hear
    split
    · split
      · exact tidy
      · exact tidy
    · exact tidy
  | advance id =>
    dsimp only [undergo]
    unfold advance
    split
    · split
      · refine run_tidy setup (service.put _) _ _ ?_
        exact tidy
      · exact tidy
    · exact tidy
  | cut id place =>
    dsimp only [undergo]
    unfold cut
    split
    · dsimp only
      split
      · rw [server_drop]
        refine Script.run_tidy ?_ tidy
        exact fun piece member => places_tidies tidy setup _ piece (List.mem_of_mem_take member)
      · exact tidy
    · exact tidy
  | depart index =>
    dsimp only [undergo]
    unfold departNth
    split
    · refine leave_tidy setup { service with departures := _ } _ _ ?_
      exact tidy
    · exact tidy

theorem runAll_tidy (setup : Setup) (service : Service) (incidents : List Incident)
    (tidy : service.server.registry.Tidy) :
    (service.runAll setup incidents).server.registry.Tidy := by
  induction incidents generalizing service with
  | nil => exact tidy
  | cons incident rest ih =>
    rw [runAll_cons]
    exact ih _ (undergo_tidy setup service incident tidy)

end Service

/-! ### Why a join is refused -/

namespace Server

variable {rules : Rules} {server : Server} {connection : Connection} {room : RoomId}
  {objection : Option Refusal}

/-- Why a connection is not let into a room: those who keep the records object, or else there is no
place for a newcomer. -/
inductive Refuses (objection : Option Refusal) (server : Server) (connection : Connection)
    (room : RoomId) : JoinError → Prop
  | refused (refusal : Refusal) (objected : objection = some refusal) :
      Refuses objection server connection room (.refused refusal)
  | full (allowed : objection = none)
      (new : server.registry.connection? room connection.identity.id = none)
      (taken : server.registry.capacity ≤ server.registry.count room) :
      Refuses objection server connection room (.full ⟨room, server.registry.capacity⟩)

theorem join_eq_error_iff {error : JoinError} :
    server.join rules objection connection room = .error error ↔
      server.Refuses objection connection room error := by
  unfold Server.join
  constructor
  · intro failed
    cases objection with
    | some refusal =>
      cases failed
      exact .refused refusal rfl
    | none =>
      dsimp only at failed
      unfold letIn at failed
      cases held : server.registry.connection? room connection.identity.id with
      | some previous =>
        obtain ⟨later, registered⟩ := Registry.register_of_present held
        rw [registered] at failed
        cases failed
      | none =>
        rcases Nat.lt_or_ge (server.registry.count room) server.registry.capacity with place | taken
        · obtain ⟨later, registered⟩ := Registry.register_of_place held place
          rw [registered] at failed
          cases failed
        · rw [Registry.register_of_full held taken] at failed
          cases failed
          exact .full rfl held taken
  · intro refuses
    cases refuses with
    | refused refusal objected => rw [objected]
    | full allowed new taken =>
      rw [allowed]
      dsimp only
      unfold letIn
      rw [Registry.register_of_full new taken]
      rfl

/-- In a tidy registry a join comes to the same step by step as at once. -/
theorem attempt_of_tidy (tidy : server.registry.Tidy) :
    server.attempt rules objection connection room =
      match server.join rules objection connection room with
      | .ok admission => (.ok admission.founded, admission.transaction)
      | .error error => (.error error, .begin server) := by
  unfold attempt Server.join
  cases objection with
  | some refusal => rfl
  | none =>
    dsimp only
    rw [tidy.letIn_eq]
    unfold letIn
    cases server.registry.register room connection with
    | error full => rfl
    | ok pair => rfl

end Server

namespace Session

variable {session : Session} {room old : RoomId}

theorem join_of_here (here : session.room = none ∨ session.room = some room) :
    session.join room = session.plan [.join room] := by
  unfold join
  rcases here with nowhere | same
  · have left : session.leave = session := by
      obtain ⟨connection, held, heartbeat, errands⟩ := session
      cases nowhere
      unfold leave plan
      rw [Option.map_none, Option.toList_none, List.append_nil]
    have elsewhere : session.room ≠ some room := by
      rw [nowhere]
      exact (Option.some_ne_none room).symm
    rw [if_neg elsewhere, left]
  · rw [if_pos same]

theorem join_of_elsewhere (inside : session.room = some old) (different : old ≠ room) :
    session.join room = session.leave.plan [.join room] := by
  unfold join
  rw [if_neg]
  rw [inside]
  exact fun same => different (Option.some.inj same)

end Session

namespace Service

variable {setup : Setup} {service : Service} {id : ConnectionId} {session : Session}
  {room old : RoomId} {error : JoinError} {incidents : List Incident}
  {lost : Connection → RoomId → Prop}

theorem attempt_of_tidy (tidy : service.server.registry.Tidy) (setup : Setup)
    (connection : Connection) (room : RoomId) :
    service.attempt setup connection room = service.join setup connection room := by
  unfold attempt Service.join request
  rw [Server.attempt_of_tidy tidy]
  cases service.server.join setup.rules (service.objection connection room) connection room with
  | error error => rfl
  | ok admission => rfl

theorem join_eq_error_iff {connection : Connection} :
    (service.join setup connection room).1 = .error error ↔
      service.request setup connection room = .error error := by
  unfold Service.join
  cases service.request setup connection room with
  | error other =>
    constructor
    · intro same
      cases same
      rfl
    · intro same
      cases same
      rfl
  | ok admission =>
    constructor
    · intro impossible
      cases impossible
    · intro impossible
      cases impossible

/-! ### A session that is refused -/

/-- What a run keeps in order: who sees to the connections that are listed, and the registry. -/
structure Orderly (service : Service) : Prop where
  accounted : ∃ lost, service.Accounted lost
  tidy : service.server.registry.Tidy

theorem initial_orderly (setup : Setup) : (initial setup).Orderly :=
  ⟨⟨fun _ _ => False, initial_accounted setup⟩, Registry.initial_tidy _⟩


namespace Orderly

theorem undergo (orderly : service.Orderly) (setup : Setup) (incident : Incident) :
    (service.undergo setup incident).Orderly := by
  obtain ⟨⟨lost, accounted⟩, tidy⟩ := orderly
  exact ⟨⟨_, accounted.undergo setup incident⟩, undergo_tidy setup service incident tidy⟩

theorem runAll (orderly : service.Orderly) (setup : Setup) (incidents : List Incident) :
    (service.runAll setup incidents).Orderly := by
  obtain ⟨⟨lost, accounted⟩, tidy⟩ := orderly
  exact ⟨⟨_, accounted.runAll setup incidents⟩, runAll_tidy setup service incidents tidy⟩

theorem numbered (orderly : service.Orderly) (live : service.sessions.get? id = some session) :
    session.connection.id = id := by
  obtain ⟨⟨lost, accounted⟩, _⟩ := orderly
  exact (accounted.session id session live).1

/-- A session that is to join a room, and is refused, ends up as it was before it was to do so. -/
theorem advance_refused (orderly : service.Orderly)
    (live : service.sessions.get? id = some session) (idle : session.errands = [])
    (aside : ∀ incident ∈ incidents, ¬incident.Concerns id)
    (refused : (((service.withSession id (session.plan [.join room])).runAll setup
      incidents).attempt setup session.connection room).1 = .error error) :
    ((service.withSession id (session.plan [.join room])).runAll setup incidents).advance setup id =
      service.runAll setup incidents := by
  have number := orderly.numbered live
  obtain ⟨⟨lost, accounted⟩, tidy⟩ := orderly
  have later := runAll_tidy setup (service.withSession id (session.plan [.join room])) incidents tidy
  obtain ⟨stays, same⟩ :=
    accounted.runAll_withSession live aside setup (session.plan [.join room])
  have planned : (session.plan [.join room]).errands = [.join room] := by
    unfold Session.plan
    rw [idle]
    rfl
  -- The join is all that the session has left, so without it the session is idle as before.
  have done : { session.plan [.join room] with errands := [] } = session := by
    obtain ⟨connection, held, heartbeat, errands⟩ := session
    cases idle
    rfl
  rw [attempt_of_tidy later, join_eq_error_iff, same] at refused
  rw [same, advance_of_errand setup (get?_withSession_self _ id _) planned, done,
    put_of_own _ _ session number, withSession_of_live stays]
  exact run_join_of_error refused

/-- A session that is to leave a room leaves it, whatever it is to do then. -/
theorem advance_leaving (orderly : service.Orderly)
    (live : service.sessions.get? id = some session)
    (aside : ∀ incident ∈ incidents, ¬incident.Concerns id) (setup : Setup) (held : Session)
    (number : held.connection.id = id) {rest : List Errand}
    (errands : held.errands = .leave old :: rest) :
    ((service.withSession id held).runAll setup incidents).advance setup id =
      ((service.runAll setup incidents).leave setup held.connection old).withSession id
        { held with errands := rest } := by
  obtain ⟨⟨lost, accounted⟩, _⟩ := orderly
  rw [(accounted.runAll_withSession live aside setup held).2,
    advance_of_errand setup (get?_withSession_self _ id held) errands,
    put_of_own _ held { held with errands := rest } number]
  exact leave_withSession setup _ id _ held.connection old

/-- A session that leaves a room is the same in the end, but for the join that it may have left. -/
theorem advance_elsewhere (orderly : service.Orderly)
    (live : service.sessions.get? id = some session) (idle : session.errands = [])
    (inside : session.room = some old) (different : old ≠ room)
    (aside : ∀ incident ∈ incidents, ¬incident.Concerns id) (setup : Setup) :
    let left := ((service.hear id .leave).runAll setup incidents).advance setup id
    left.sessions.get? id = some { session with room := none } ∧
      ((service.hear id (.join room)).runAll setup incidents).advance setup id =
        left.withSession id ({ session with room := none }.plan [.join room]) := by
  intro left
  have number := orderly.numbered live
  have leaving : session.leave.errands = [.leave old] := by
    unfold Session.leave Session.plan
    rw [idle, inside]
    rfl
  have moving : (session.leave.plan [.join room]).errands = [.leave old, .join room] := by
    unfold Session.plan
    rw [leaving]
    rfl
  have leaves := orderly.advance_leaving live aside setup session.leave number leaving
  have moves :=
    orderly.advance_leaving live aside setup (session.leave.plan [.join room]) number moving
  -- Once the room is left, the two sessions differ by the join that one of them has yet to run.
  have emptied : { session.leave with errands := [] } = { session with room := none } :=
    congrArg (fun errands => { session.leave with errands := errands }) idle.symm
  have planned : { session.leave.plan [.join room] with errands := [.join room] } =
      { session with room := none }.plan [.join room] :=
    congrArg (fun errands => { session.leave with errands := errands ++ [Errand.join room] })
      idle.symm
  have gone : left =
      ((service.runAll setup incidents).leave setup session.connection old).withSession id
        { session with room := none } := by
    change ((service.hear id .leave).runAll setup incidents).advance setup id = _
    rw [hear_of_idle live idle number, ← emptied]
    exact leaves
  rw [gone]
  refine ⟨get?_withSession_self _ id _, ?_⟩
  rw [hear_of_idle live idle number, Session.receive, Session.join_of_elsewhere inside different,
    withSession_withSession, ← planned]
  exact moves

end Orderly

/-- Whatever has happened to a service and wherever its sessions were cut off: a join fails just if
the keepers of the records object or there is no place for a newcomer, and then it has changed
nothing. A session that is refused by a room is what it was if it was in no room or in that one; and
if it was in another, it has left that, just as if it had been told to leave. What others do in
between goes on as it would have. -/
theorem refused_joins_leave_no_trace (setup : Setup) (incidents : List Incident) :
    let service := (initial setup).runAll setup incidents
    (∀ connection room error,
      ((service.attempt setup connection room).1 = .error error ↔
        service.server.Refuses (service.objection connection room) connection room error) ∧
      ((service.attempt setup connection room).1 = .error error →
        (service.attempt setup connection room).2 = service)) ∧
    ∀ id session room, service.sessions.get? id = some session → session.errands = [] →
      ∀ before, (∀ incident ∈ before, ¬incident.Concerns id) →
        let asked := (service.hear id (.join room)).runAll setup before
        let alone := (service.hear id .leave).runAll setup before
        ((session.room = none ∨ session.room = some room) → ∀ error,
          (asked.attempt setup session.connection room).1 = .error error →
            asked.advance setup id = service.runAll setup before) ∧
        ∀ old, session.room = some old → old ≠ room →
          ∀ after, (∀ incident ∈ after, ¬incident.Concerns id) →
            let moving := (asked.advance setup id).runAll setup after
            ∀ error, (moving.attempt setup session.connection room).1 = .error error →
              moving.advance setup id = (alone.advance setup id).runAll setup after := by
  intro service
  have orderly : service.Orderly := (initial_orderly setup).runAll setup incidents
  constructor
  · intro connection room error
    rw [attempt_of_tidy orderly.tidy, join_eq_error_iff]
    refine ⟨Server.join_eq_error_iff, ?_⟩
    intro refused
    unfold Service.join
    rw [refused]
  · intro id session room live idle before aside asked alone
    constructor
    · intro here error refused
      have number := orderly.numbered live
      have heard : service.hear id (.join room) =
          service.withSession id (session.plan [.join room]) := by
        rw [hear_of_idle live idle number, Session.receive, Session.join_of_here here]
      dsimp only [asked] at refused ⊢
      rw [heard] at refused ⊢
      exact orderly.advance_refused live idle aside refused
    · intro old inside different after later moving error refused
      obtain ⟨gone, same⟩ := orderly.advance_elsewhere live idle inside different aside setup
      have orderlyAlone : (alone.advance setup id).Orderly :=
        ((orderly.undergo setup (.hear id .leave)).runAll setup before).undergo setup (.advance id)
      dsimp only [moving, asked] at refused ⊢
      rw [same] at refused ⊢
      exact orderlyAlone.advance_refused gone idle later refused

/-- Rooms with one place, of which the first player has one and the second has another. The second
asks for the place of the first and loses the own one, while the first types and the second is
struck from the records. -/
theorem refused_joins_leave_no_trace_of_mover :
    let config : GameConfig := { maxRoomCapacity := 1 }
    let setup : Setup :=
      { rules := ⟨config, ⟨fun _ => false, fun _ _ => false⟩⟩
        membership := .everybody
        fragments := fun _ => "the" }
    let incidents : List Incident :=
      [.connect (some 1) (some "one") "", .connect (some 2) (some "two") "", .hear 0 (.join 42),
        .advance 0, .hear 1 (.join 7), .advance 1]
    let before : List Incident := [.hear 0 (.typing "other"), .advance 0]
    let after : List Incident := [.wait 1000, .amend (.except [42] [])]
    let mover : Connection := ⟨1, ⟨2, "two", false⟩⟩
    let service := (initial setup).runAll setup incidents
    let asked := (service.hear 1 (.join 42)).runAll setup before
    let moving := (asked.advance setup 1).runAll setup after
    let alone := (service.hear 1 .leave).runAll setup before
    service.sessions.get? 1 = some ⟨mover, some 7, setup.heartbeat 0, []⟩ ∧
      (service.attempt setup mover 42).1 = .error (.full ⟨42, 1⟩) ∧
      (service.attempt setup mover 42).2 = service ∧
      (moving.attempt setup mover 42).1 = .error (.refused (.notAllowed 42 "two")) ∧
      moving.advance setup 1 = (alone.advance setup 1).runAll setup after := by
  refine ⟨?live, ?full, And.right (And.left (refused_joins_leave_no_trace _ _) _ _ _) ?full,
    ?refused, And.right (And.right (refused_joins_leave_no_trace _ _) 1 _ 42 ?live rfl _ ?before) 7
      rfl ?other _ ?after _ ?refused⟩
  all_goals decide +kernel

end Service

end WordGame
