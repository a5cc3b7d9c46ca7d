import WordGame.Proofs.Service.Listing

/-!
How sessions go on. Whatever happens to a service, each of its sessions stays as it is, hears a
message, runs an errand or enters a room; and what it has yet to say goes to the room that it is in.
-/

namespace WordGame

namespace Session

variable {session : Session}

/-- The answers and the typing that are left go to the room that a session is in. -/
def Addressed (session : Session) : Prop :=
  ∀ room text, .answer room text ∈ session.errands ∨ .relay room text ∈ session.errands →
    session.room = some room

theorem addressed_of_idle (idle : session.errands = []) : session.Addressed := by
  intro room text left
  rw [idle] at left
  rcases left with answer | relay
  · cases answer
  · cases relay

theorem receive_addressed (message : ClientMessage) (idle : session.errands = []) :
    (session.receive message).Addressed := by
  obtain ⟨connection, held, heartbeat, errands⟩ := session
  dsimp only at idle
  subst idle
  intro room text left
  cases held with
  | none =>
    cases message with
    | join => simp [receive, join, leave, plan] at left
    | answer | leave | typing | ping | pong => simp [receive, leave, plan] at left
  | some here =>
    cases message with
    | join =>
      unfold receive join at left
      dsimp only at left
      split at left
      · simp [plan] at left
      · simp [leave, plan] at left
    | answer | typing =>
      simp only [receive, plan, Option.map_some, Option.toList_some, List.nil_append,
        List.mem_singleton, reduceCtorEq, or_false, false_or, Errand.answer.injEq,
        Errand.relay.injEq] at left
      rw [left.1]
      rfl
    | leave | ping | pong => simp [receive, leave, plan] at left

end Session

namespace Service

variable {setup : Setup} {service : Service} {incident : Incident} {id : ConnectionId}
  {session later : Session} {lost : Connection → RoomId → Prop}

/-- How a session goes on while something happens. -/
inductive Progresses (setup : Setup) (service : Service) (incident : Incident) (id : ConnectionId)
    (session : Session) : Session → Prop
  | stays : Progresses setup service incident id session session
  | hears (message : ClientMessage) (idle : session.errands = []) :
      Progresses setup service incident id session (session.receive message)
  | works (errand : Errand) (rest : List Errand) (errands : session.errands = errand :: rest) :
      Progresses setup service incident id session { session with errands := rest }
  | enters (room : RoomId) (rest : List Errand) (errands : session.errands = .join room :: rest)
      (entered : service.Enters setup incident id room) :
      Progresses setup service incident id session
        { session with errands := rest, room := some room }

theorem connections_run (setup : Setup) (service : Service) (session : Session) (errand : Errand) :
    (service.run setup session errand).connections = service.connections := by
  cases errand with
  | answer | relay | pong => rfl
  | leave room => exact (leave_same setup service session.connection room).connections
  | join room =>
    cases admitted : service.request setup session.connection room with
    | error error => rw [run_join_of_error admitted]
    | ok admission =>
      rw [run_join_of_ok admitted]
      rfl

theorem connections_drop (service : Service) (id : ConnectionId) :
    (service.drop id).connections = service.connections := by
  unfold drop
  split
  · rfl
  · rfl

theorem connections_le_undergo (setup : Setup) (service : Service) (incident : Incident) :
    service.connections ≤ (service.undergo setup incident).connections := by
  cases incident with
  | connect account name invented => exact Nat.le_succ _
  | hear id message =>
    dsimp only [undergo]
    unfold hear
    split
    · split
      · exact Nat.le_refl _
      · exact Nat.le_refl _
    · exact Nat.le_refl _
  | advance id =>
    dsimp only [undergo]
    unfold advance
    split
    · split
      · exact Nat.le_of_eq (connections_run setup (service.put _) _ _).symm
      · exact Nat.le_refl _
    · exact Nat.le_refl _
  | cut id place =>
    dsimp only [undergo]
    unfold cut
    split
    · dsimp only
      split
      · exact Nat.le_of_eq (connections_drop (service.enact _) id).symm
      · exact Nat.le_refl _
    · exact Nat.le_refl _
  | depart index =>
    dsimp only [undergo]
    unfold departNth
    split
    · let left := { service with departures := service.departures.eraseIdx index }
      exact Nat.le_of_eq (left.leave_same setup _ _).connections.symm
    · exact Nat.le_refl _
  | amend | wait | ring | call => exact Nat.le_refl _

theorem sessions_cut {place : Nat} {other : ConnectionId}
    (found : (service.cut setup other place).sessions.get? id = some later) :
    service.sessions.get? id = some later := by
  unfold cut at found
  cases live : service.sessions.get? other with
  | none =>
    rw [live] at found
    exact found
  | some session =>
    rw [live] at found
    dsimp only at found
    split at found
    · rw [get?_drop] at found
      split at found
      · cases found
      · exact found
    · exact found

namespace Accounted

/-- A session was put in the place of another of the same connection. -/
theorem progresses_of_put (accounted : service.Accounted lost) {other : ConnectionId}
    {before : Session} (after : Session) (live : service.sessions.get? other = some before)
    (own : after.connection = before.connection)
    (progresses : service.Progresses setup incident other before after)
    (found : (service.put after).sessions.get? id = some later) :
    ∃ session, service.sessions.get? id = some session ∧
      service.Progresses setup incident id session later := by
  obtain ⟨number, _⟩ := accounted.session other before live
  rw [get?_put, own, number] at found
  split at found
  · rename_i same
    cases found
    rw [same]
    exact ⟨before, live, progresses⟩
  · exact ⟨later, found, .stays⟩

theorem progresses_of_advance (accounted : service.Accounted lost) {other : ConnectionId}
    (found : (service.advance setup other).sessions.get? id = some later) :
    ∃ session, service.sessions.get? id = some session ∧
      service.Progresses setup (.advance other) id session later := by
  cases live : service.sessions.get? other with
  | none =>
    unfold Service.advance at found
    rw [live] at found
    exact ⟨later, found, .stays⟩
  | some before =>
    cases errands : before.errands with
    | nil =>
      unfold Service.advance at found
      rw [live] at found
      dsimp only at found
      rw [errands] at found
      exact ⟨later, found, .stays⟩
    | cons errand rest =>
      rw [advance_of_errand setup live errands] at found
      have works : service.Progresses setup (.advance other) other before
        { before with errands := rest } := .works errand rest errands
      let after : Session := { before with errands := rest }
      cases errand with
      | answer | relay | pong => exact accounted.progresses_of_put after live rfl works found
      | leave room =>
        dsimp only [run] at found
        rw [(leave_same setup _ _ room).sessions] at found
        exact accounted.progresses_of_put after live rfl works found
      | join room =>
        cases admitted : (service.put after).request setup before.connection room with
        | error error =>
          rw [@run_join_of_error _ (service.put after) after room error admitted] at found
          exact accounted.progresses_of_put after live rfl works found
        | ok admission =>
          have entered : service.Enters setup (.advance other) other room := by
            refine ⟨rfl, before, admission, live, ?_, admitted⟩
            rw [errands]
            rfl
          rw [@run_join_of_ok _ (service.put after) after room admission admitted] at found
          refine accounted.progresses_of_put { after with room := some room } live rfl
            (.enters room rest errands entered) ?_
          rw [get?_put] at found ⊢
          split at found
          · rename_i same
            rw [if_pos same]
            exact found
          · rename_i different
            rw [if_neg different]
            change (service.put _).sessions.get? id = _ at found
            rw [get?_put, if_neg different] at found
            exact found

/-- Every session is new, or goes on from what it was before. -/
theorem progresses (accounted : service.Accounted lost) (setup : Setup) (incident : Incident)
    (found : (service.undergo setup incident).sessions.get? id = some later) :
    (id = service.connections ∧ later.errands = []) ∨
      ∃ session, service.sessions.get? id = some session ∧
        service.Progresses setup incident id session later := by
  cases incident with
  | connect account name invented =>
    obtain ⟨fresh, inserted, idle⟩ : ∃ fresh : Session,
        (service.undergo setup (.connect account name invented)).sessions =
          service.sessions.insert service.connections fresh ∧ fresh.errands = [] := ⟨_, rfl, rfl⟩
    rw [inserted, Table.get?_insert] at found
    split at found
    · rename_i same
      cases found
      exact .inl ⟨same, idle⟩
    · exact .inr ⟨later, found, .stays⟩
  | hear other message =>
    change (service.hear other message).sessions.get? id = some later at found
    unfold Service.hear at found
    split at found
    · rename_i before live
      split at found
      · rename_i idle
        exact .inr (accounted.progresses_of_put _ live (before.connection_receive message)
          (.hears message idle) found)
      · exact .inr ⟨later, found, .stays⟩
    · exact .inr ⟨later, found, .stays⟩
  | advance other => exact .inr (accounted.progresses_of_advance found)
  | cut other place => exact .inr ⟨later, sessions_cut found, .stays⟩
  | depart index =>
    change (service.departNth setup index).sessions.get? id = some later at found
    unfold departNth at found
    split at found
    · rw [(leave_same setup _ _ _).sessions] at found
      exact .inr ⟨later, found, .stays⟩
    · exact .inr ⟨later, found, .stays⟩
  | amend membership | wait moment | ring | call index => exact .inr ⟨later, found, .stays⟩

end Accounted

def Addressed (service : Service) : Prop :=
  ∀ id session, service.sessions.get? id = some session → session.Addressed

theorem initial_addressed (setup : Setup) : (initial setup).Addressed := by
  intro _ _ impossible
  cases impossible

theorem Addressed.undergo (addressed : service.Addressed) (accounted : service.Accounted lost)
    (setup : Setup) (incident : Incident) : (service.undergo setup incident).Addressed := by
  intro id later found
  rcases accounted.progresses setup incident found with ⟨_, idle⟩ | ⟨session, live, progresses⟩
  · exact Session.addressed_of_idle idle
  · have before := addressed id session live
    cases progresses with
    | stays => exact before
    | hears message idle => exact Session.receive_addressed message idle
    | works errand rest errands =>
      intro room text left
      refine before room text ?_
      rw [errands]
      exact left.imp (List.mem_cons_of_mem _) (List.mem_cons_of_mem _)
    | enters room rest errands =>
      obtain ⟨_, _, fits⟩ := accounted.session id session live
      rw [errands] at fits
      exact Session.addressed_of_idle fits.2

theorem Addressed.runAll (addressed : service.Addressed) (accounted : service.Accounted lost)
    (setup : Setup) (incidents : List Incident) : (service.runAll setup incidents).Addressed := by
  induction incidents generalizing service lost with
  | nil => exact addressed
  | cons incident rest ih =>
    rw [runAll_cons]
    exact ih (addressed.undergo accounted setup incident) (accounted.undergo setup incident)

end Service

end WordGame
