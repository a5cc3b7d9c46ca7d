import WordGame.Proofs.Connection.Ledger
import WordGame.Proofs.Service.Progress

/-!
What others do while a session waits. Nobody looks into a session but the session itself, so whatever
the others do, they do it whichever errands that session has left.
-/

namespace WordGame

namespace Table

variable {κ α : Type} [Ord κ] [Std.TransOrd κ] [Std.LawfulEqOrd κ] [DecidableEq κ]

theorem insert_comm (table : Table κ α) {first second : κ} (different : first ≠ second)
    (one other : α) :
    (table.insert first one).insert second other = (table.insert second other).insert first one := by
  refine ext_get? ?_
  intro query
  rw [get?_insert, get?_insert, get?_insert, get?_insert]
  by_cases here : query = first
  · rw [if_pos here, if_neg (here ▸ different), if_pos here]
  · rw [if_neg here, if_neg here]

theorem erase_insert_of_ne (table : Table κ α) {key other : κ} (different : key ≠ other)
    (value : α) : (table.insert key value).erase other = (table.erase other).insert key value := by
  refine ext_get? ?_
  intro query
  rw [get?_erase, get?_insert, get?_insert, get?_erase]
  by_cases here : query = key
  · rw [if_pos here, if_neg (here ▸ different), if_pos here]
  · rw [if_neg here, if_neg here]

end Table

/-- The session of a connection has a part in an incident. -/
def Incident.Concerns (id : ConnectionId) : Incident → Prop
  | .hear other _ | .advance other | .cut other _ => other = id
  | .connect .. | .depart _ | .amend _ | .wait _ | .ring | .call _ => False

instance (id : ConnectionId) (incident : Incident) : Decidable (incident.Concerns id) :=
  match incident with
  | .hear other _ | .advance other | .cut other _ => inferInstanceAs (Decidable (other = id))
  | .connect .. | .depart _ | .amend _ | .wait _ | .ring | .call _ =>
    inferInstanceAs (Decidable False)

namespace Service

/-- A service in which the session of a connection is another. -/
def withSession (service : Service) (id : ConnectionId) (session : Session) : Service :=
  { service with sessions := service.sessions.insert id session }

variable {setup : Setup} {service : Service} {id other : ConnectionId} {session held : Session}
  {lost : Connection → RoomId → Prop}

theorem get?_withSession_self (service : Service) (id : ConnectionId) (session : Session) :
    (service.withSession id session).sessions.get? id = some session :=
  Table.get?_insert_self _ _ _

theorem get?_withSession_of_ne (different : id ≠ other) :
    (service.withSession id session).sessions.get? other = service.sessions.get? other :=
  service.sessions.get?_insert_of_ne session different.symm

theorem withSession_of_live (live : service.sessions.get? id = some held) :
    service.withSession id held = service := by
  unfold withSession
  rw [Table.insert_of_get? live]

theorem withSession_withSession (service : Service) (id : ConnectionId) (before held : Session) :
    (service.withSession id before).withSession id held = service.withSession id held := by
  unfold withSession
  rw [Table.insert_insert]

theorem put_of_own (service : Service) (before held : Session) (number : held.connection.id = id) :
    (service.withSession id before).put held = service.withSession id held := by
  rw [← service.withSession_withSession id before held, ← number]
  rfl

theorem hear_of_idle (live : service.sessions.get? id = some session)
    (idle : session.errands = []) (number : session.connection.id = id) (message : ClientMessage) :
    service.hear id message = service.withSession id (session.receive message) := by
  unfold hear
  rw [live]
  dsimp only
  rw [if_pos idle]
  unfold put withSession
  rw [session.connection_receive, number]

theorem put_withSession (service : Service) (session held : Session)
    (different : id ≠ held.connection.id) :
    (service.withSession id session).put held = (service.put held).withSession id session := by
  unfold put withSession
  rw [service.sessions.insert_comm different]

theorem leave_withSession (setup : Setup) (service : Service) (id : ConnectionId) (session : Session)
    (connection : Connection) (room : RoomId) :
    (service.withSession id session).leave setup connection room =
      (service.leave setup connection room).withSession id session := by
  have same : (service.withSession id session).server.leave setup.rules
      ((service.withSession id session).supply setup) connection room =
        service.server.leave setup.rules (service.supply setup) connection room := rfl
  unfold leave
  rw [same]
  cases service.server.leave setup.rules (service.supply setup) connection room with
  | none => rfl
  | some transaction => rfl

theorem run_withSession (setup : Setup) (service : Service) (session held : Session)
    (different : id ≠ held.connection.id) (errand : Errand) :
    (service.withSession id session).run setup held errand =
      (service.run setup held errand).withSession id session := by
  cases errand with
  | answer | relay | pong => rfl
  | leave room => exact service.leave_withSession setup id session held.connection room
  | join room =>
    cases admitted : service.request setup held.connection room with
    | error error =>
      rw [run_join_of_error admitted]
      exact run_join_of_error admitted
    | ok admission =>
      have entered : (service.withSession id session).run setup held (.join room) =
          ((service.withSession id session).enact admission.transaction).put
            { held with room := some room } := run_join_of_ok admitted
      rw [run_join_of_ok admitted, entered]
      exact put_withSession (service.enact admission.transaction) session _ different

theorem drop_withSession (service : Service) (session : Session) (different : id ≠ other) :
    (service.withSession id session).drop other = (service.drop other).withSession id session := by
  unfold drop
  rw [get?_withSession_of_ne different]
  cases service.sessions.get? other with
  | none => rfl
  | some found =>
    unfold withSession
    dsimp only
    rw [service.sessions.erase_insert_of_ne different]
    rfl

theorem hear_withSession (numbered : ∀ found, service.sessions.get? other = some found →
    found.connection.id = other) (different : id ≠ other) (message : ClientMessage) :
    (service.withSession id session).hear other message =
      (service.hear other message).withSession id session := by
  unfold hear
  rw [get?_withSession_of_ne different]
  cases live : service.sessions.get? other with
  | none => rfl
  | some found =>
    dsimp only
    split
    · refine service.put_withSession session _ ?_
      rw [found.connection_receive, numbered found live]
      exact different
    · rfl

theorem advance_withSession (numbered : ∀ found, service.sessions.get? other = some found →
    found.connection.id = other) (different : id ≠ other) :
    (service.withSession id session).advance setup other =
      (service.advance setup other).withSession id session := by
  unfold advance
  rw [get?_withSession_of_ne different]
  cases live : service.sessions.get? other with
  | none => rfl
  | some found =>
    have own : id ≠ found.connection.id := by
      rw [numbered found live]
      exact different
    dsimp only
    cases found.errands with
    | nil => rfl
    | cons errand rest =>
      dsimp only
      rw [service.put_withSession session { found with errands := rest } own]
      exact run_withSession setup _ session { found with errands := rest } own errand

theorem cut_withSession (different : id ≠ other) (place : Nat) :
    (service.withSession id session).cut setup other place =
      (service.cut setup other place).withSession id session := by
  unfold cut
  rw [get?_withSession_of_ne different]
  cases service.sessions.get? other with
  | none => rfl
  | some found =>
    have same : (service.withSession id session).places setup found =
        service.places setup found := by
      unfold places
      cases found.errands with
      | nil => rfl
      | cons errand rest =>
        cases errand with
        | join | leave | answer | relay | pong => rfl
    dsimp only
    rw [same]
    split
    · exact drop_withSession (service.enact _) session different
    · rfl

theorem departNth_withSession (index : Nat) :
    (service.withSession id session).departNth setup index =
      (service.departNth setup index).withSession id session := by
  have same : (service.withSession id session).departures = service.departures := rfl
  unfold departNth
  rw [same]
  cases service.departures[index]? with
  | none => rfl
  | some departure =>
    obtain ⟨leaver, room⟩ := departure
    let rest : Service := { service with departures := service.departures.eraseIdx index }
    exact rest.leave_withSession setup id session leaver room

theorem connect_withSession (made : id < service.connections) (account : Option PlayerId)
    (name : Option String) (invented : String) :
    ((service.withSession id session).connect setup account name invented).2 =
      (service.connect setup account name invented).2.withSession id session := by
  unfold connect withSession
  dsimp only
  rw [service.sessions.insert_comm (Nat.ne_of_lt made)]
  rfl

/-- What others do goes on whatever a session has left to do. -/
theorem Accounted.undergo_withSession (accounted : service.Accounted lost)
    (live : service.sessions.get? id = some held) {incident : Incident}
    (aside : ¬incident.Concerns id) (setup : Setup) (session : Session) :
    (service.withSession id session).undergo setup incident =
      (service.undergo setup incident).withSession id session := by
  have numbered (other : ConnectionId) (found : Session)
      (live : service.sessions.get? other = some found) : found.connection.id = other :=
    (accounted.session other found live).1
  cases incident with
  | connect account name invented =>
    exact connect_withSession (accounted.session id held live).2.1 account name invented
  | hear other message => exact hear_withSession (numbered other) (Ne.symm aside) message
  | advance other => exact advance_withSession (numbered other) (Ne.symm aside)
  | cut other place => exact cut_withSession (Ne.symm aside) place
  | depart index => exact departNth_withSession index
  | amend | wait | ring | call => rfl

/-- Whatever others do, a session that waits stays as it is, and would stay so if it were another. -/
theorem Accounted.runAll_withSession {incidents : List Incident}
    (accounted : service.Accounted lost) (live : service.sessions.get? id = some held)
    (aside : ∀ incident ∈ incidents, ¬incident.Concerns id) (setup : Setup) (session : Session) :
    (service.runAll setup incidents).sessions.get? id = some held ∧
      (service.withSession id session).runAll setup incidents =
        (service.runAll setup incidents).withSession id session := by
  induction incidents generalizing service lost with
  | nil => exact ⟨live, rfl⟩
  | cons incident rest ih =>
    have here := aside incident List.mem_cons_self
    have stays : (service.undergo setup incident).sessions.get? id = some held := by
      have same := accounted.undergo_withSession live here setup held
      rw [withSession_of_live live] at same
      rw [same]
      exact get?_withSession_self _ id held
    rw [runAll_cons, runAll_cons, accounted.undergo_withSession live here setup session]
    exact ih (accounted.undergo setup incident) stays
      (fun other member => aside other (List.mem_cons_of_mem _ member))

end Service

end WordGame
