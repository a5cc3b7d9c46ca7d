import WordGame.Proofs.Server.Audience
import WordGame.Proofs.Service.Progress

/-!
What a session can still do in a room that lists another connection for its player, or none. It
cannot leave for anybody there. But its answers and its typing are not held against the list of the
room: they count for as long as the session takes itself to be in.
-/

namespace WordGame

/-- Who is listed in two rooms is listed in one. -/
theorem Registry.Exclusive.room_eq {registry : Registry} (exclusive : registry.Exclusive)
    {room other : RoomId} {id : ConnectionId} (here : registry.Lists room id)
    (there : registry.Lists other id) : room = other := by
  obtain ⟨player, connection, listed, same⟩ := here
  obtain ⟨rival, holder, also, equal⟩ := there
  exact (exclusive room other player rival connection holder listed also (same.trans equal.symm)).1

namespace Service

variable {setup : Setup} {service later : Service} {incident : Incident} {id : ConnectionId}
  {session : Session} {connection : Connection} {room target : RoomId}
  {lost : Connection → RoomId → Prop}

/-- Nothing that concerns a room is different: neither what the server has on it, nor what has been
sent to those who are listed in it. -/
structure Spares (service : Service) (room : RoomId) (later : Service) : Prop where
  site : later.server.site room = service.server.site room
  queues : ∀ player holder, service.server.registry.connection? room player = some holder →
    later.queues.queue holder.id = service.queues.queue holder.id

theorem Spares.refl (service : Service) (room : RoomId) : service.Spares room service :=
  ⟨rfl, fun _ _ _ => rfl⟩

theorem Spares.of_put (spares : (service.put session).Spares room later) :
    service.Spares room later :=
  ⟨spares.site, spares.queues⟩

theorem enact_spares {transaction : Transaction}
    (site : transaction.server.site room = service.server.site room)
    (apart : ∀ delivery ∈ transaction.deliveries,
      ¬service.server.registry.Lists room delivery.receiver) :
    service.Spares room (service.enact transaction) := by
  refine ⟨site, ?_⟩
  intro player holder listed
  refine Queues.queue_deliverAll_of_ne ?_
  intro delivery member same
  exact apart delivery member ⟨player, holder, listed, same⟩

/-! ### Errands that are for other rooms -/

theorem leave_spares (exclusive : service.server.registry.Exclusive) (setup : Setup)
    (connection : Connection) (elsewhere : target ≠ room) :
    service.Spares room (service.leave setup connection target) := by
  unfold leave
  cases departed : service.server.leave setup.rules (service.supply setup) connection target with
  | none => exact .refl service room
  | some transaction =>
    have step := Server.leave_step departed
    have spares : service.Spares room (service.enact transaction) := by
      refine enact_spares (step.site_of_ne ?_) ?_
      · exact fun same => elsewhere (Option.some.inj same)
      · intro delivery member listed
        exact elsewhere (exclusive.room_eq (Server.lists_of_leave departed member) listed)
    exact ⟨spares.site, spares.queues⟩

theorem answer_spares (exclusive : service.server.registry.Exclusive) (setup : Setup)
    (player : PlayerId) (text : String) (elsewhere : target ≠ room) :
    service.Spares room (service.answer setup target player text) := by
  have step : service.server.Step setup.rules (service.supply setup) (.answer target player text)
      (service.server.answer setup.rules (service.supply setup) target player text).server :=
    service.server.answer_step target player text
  refine enact_spares (step.site_of_ne ?_) ?_
  · exact fun same => elsewhere (Option.some.inj same)
  · intro delivery member listed
    exact elsewhere (exclusive.room_eq (Server.lists_of_answer member) listed)

theorem relay_spares (exclusive : service.server.registry.Exclusive) (player : PlayerId)
    (text : String) (elsewhere : target ≠ room) :
    service.Spares room (service.relay target player text) := by
  refine @enact_spares service room ⟨service.server, _, 0⟩ rfl ?_
  intro delivery member listed
  exact elsewhere (exclusive.room_eq (Registry.lists_of_mem_broadcast member) listed)

theorem pong_spares (timestamp : Int64) (absent : ¬service.server.registry.Lists room id) :
    service.Spares room (service.deliver [⟨id, .message (.pong timestamp)⟩]) := by
  refine @enact_spares service room ⟨service.server, _, 0⟩ rfl ?_
  intro delivery member
  cases List.mem_singleton.mp member
  exact absent

theorem join_spares (exclusive : service.server.registry.Exclusive) (setup : Setup)
    (session : Session) (elsewhere : target ≠ room)
    (absent : ¬service.server.registry.Lists room session.connection.id) :
    service.Spares room (service.run setup session (.join target)) := by
  cases admitted : service.request setup session.connection target with
  | error error =>
    rw [run_join_of_error admitted]
    exact .refl service room
  | ok admission =>
    rw [run_join_of_ok admitted]
    have step : service.server.Step setup.rules (service.supply setup)
        (.join session.connection target (service.objection session.connection target))
        admission.transaction.server := Server.join_step admitted
    have spares : service.Spares room (service.enact admission.transaction) := by
      refine enact_spares (step.site_of_ne ?_) ?_
      · exact fun same => elsewhere (Option.some.inj same)
      · intro delivery member listed
        rcases Server.lists_of_join admitted member with other | own
        · exact elsewhere (exclusive.room_eq other listed)
        · rw [own] at listed
          exact absent listed
    exact ⟨spares.site, spares.queues⟩

/-! ### The room itself -/

theorem leave_of_unlisted (setup : Setup) (connection : Connection)
    (absent : ¬service.server.registry.Lists room connection.id) :
    service.leave setup connection room = service := by
  have stays : service.server.registry.unregister room connection.identity.id connection.id =
      none := by
    rw [← Option.not_isSome_iff_eq_none, Registry.unregister_isSome_iff]
    intro held
    obtain ⟨holder, listed, same⟩ := Option.map_eq_some_iff.mp held
    exact absent ⟨connection.identity.id, holder, listed, same⟩
  unfold leave Server.leave
  dsimp only
  rw [stays]

/-- A session that is listed for its player is the only way for its connection to be listed. -/
theorem Accounted.not_lists (accounted : service.Accounted lost)
    (live : service.sessions.get? id = some session)
    (unlisted : service.server.registry.connection? room session.connection.identity.id ≠
      some session.connection) :
    ¬service.server.registry.Lists room id := by
  rintro ⟨player, holder, listed, same⟩
  obtain ⟨own, known, _⟩ := accounted.own live listed same
  rw [← own, known] at unlisted
  exact unlisted (own ▸ listed)

theorem hear_spares (service : Service) (room : RoomId) (id : ConnectionId)
    (message : ClientMessage) : service.Spares room (service.hear id message) := by
  unfold hear
  split
  · split
    · exact .of_put (.refl _ room)
    · exact .refl service room
  · exact .refl service room

/-- What an errand does to a room that does not list the connection of its session. -/
theorem run_of_unlisted (exclusive : service.server.registry.Exclusive) (setup : Setup)
    (session : Session) (absent : ¬service.server.registry.Lists room session.connection.id)
    (errand : Errand) :
    service.Spares room (service.run setup session errand) ∨
      (errand = .join room ∧
        ∃ admission, service.request setup session.connection room = .ok admission) ∨
      ∃ text, errand = .answer room text ∨ errand = .relay room text := by
  cases errand with
  | pong timestamp => exact .inl (pong_spares timestamp absent)
  | leave target =>
    by_cases here : target = room
    · subst here
      have stays : service.run setup session (.leave target) = service :=
        leave_of_unlisted setup session.connection absent
      rw [stays]
      exact .inl (.refl service target)
    · exact .inl (leave_spares exclusive setup session.connection here)
  | answer target text =>
    by_cases here : target = room
    · exact .inr (.inr ⟨text, .inl (by rw [here])⟩)
    · exact .inl (answer_spares exclusive setup session.connection.identity.id text here)
  | relay target text =>
    by_cases here : target = room
    · exact .inr (.inr ⟨text, .inr (by rw [here])⟩)
    · exact .inl (relay_spares exclusive session.connection.identity.id text here)
  | join target =>
    by_cases here : target = room
    · subst here
      cases admitted : service.request setup session.connection target with
      | error error =>
        rw [run_join_of_error admitted]
        exact .inl (.refl service target)
      | ok admission => exact .inr (.inl ⟨rfl, admission, rfl⟩)
    · exact .inl (join_spares exclusive setup session here absent)

/-- A session has its say in a room, as if it were listed there. -/
inductive Speaks (setup : Setup) (service : Service) (session : Session) (room : RoomId) :
    Service → Prop
  | answer (text : String) (rest : List Errand)
      (errands : session.errands = .answer room text :: rest) :
      Speaks setup service session room
        ((service.put { session with errands := rest }).answer setup room
          session.connection.identity.id text)
  | relay (text : String) (rest : List Errand)
      (errands : session.errands = .relay room text :: rest) :
      Speaks setup service session room
        ((service.put { session with errands := rest }).relay room
          session.connection.identity.id text)

namespace Accounted

theorem advance_of_unlisted (accounted : service.Accounted lost)
    (exclusive : service.server.registry.Exclusive) (addressed : session.Addressed) (setup : Setup)
    (live : service.sessions.get? id = some session)
    (unlisted : service.server.registry.connection? room session.connection.identity.id ≠
      some session.connection) :
    service.Spares room (service.advance setup id) ∨ service.Enters setup (.advance id) id room ∨
      session.room = some room ∧ service.Speaks setup session room (service.advance setup id) := by
  obtain ⟨number, _⟩ := accounted.session id session live
  have absent := accounted.not_lists live unlisted
  rw [← number] at absent
  cases errands : session.errands with
  | nil =>
    unfold Service.advance
    rw [live]
    dsimp only
    rw [errands]
    exact .inl (.refl service room)
  | cons errand rest =>
    rw [advance_of_errand setup live errands]
    let after : Session := { session with errands := rest }
    have done := @run_of_unlisted (service.put after) room exclusive setup after absent errand
    rcases done with spares | ⟨rfl, admission, admitted⟩ | ⟨text, rfl | rfl⟩
    · exact .inl spares.of_put
    · refine .inr (.inl ⟨rfl, session, admission, live, ?_, admitted⟩)
      rw [errands]
      rfl
    · have inside := addressed room text (.inl (errands ▸ List.mem_cons_self))
      exact .inr (.inr ⟨inside, .answer text rest errands⟩)
    · have inside := addressed room text (.inr (errands ▸ List.mem_cons_self))
      exact .inr (.inr ⟨inside, .relay text rest errands⟩)

end Accounted

/-! ### The way back -/

/-- A session is let into a room in the course of a run. -/
def EntersDuring (setup : Setup) (service : Service) (id : ConnectionId) (room : RoomId) :
    List Incident → Prop
  | [] => False
  | incident :: rest =>
    service.Enters setup incident id room ∨
      (service.undergo setup incident).EntersDuring setup id room rest

/-- A connection is not listed in a room for its player, and its session, if it still runs, does not
take itself to be there unless it did so at first. -/
structure Outside (service : Service) (id : ConnectionId) (connection : Connection) (room : RoomId)
    (held : Prop) : Prop where
  made : id < service.connections
  session : ∀ session, service.sessions.get? id = some session →
    session.connection = connection ∧ (session.room = some room → held)
  unlisted : (service.sessions.get? id).isSome = true →
    service.server.registry.connection? room connection.identity.id ≠ some connection

theorem room_receive (session : Session) (message : ClientMessage) :
    (session.receive message).room = session.room ∨ (session.receive message).room = none := by
  cases message with
  | join target =>
    unfold Session.receive Session.join
    dsimp only
    split
    · exact .inl rfl
    · exact .inr rfl
  | leave => exact .inr rfl
  | answer | typing | ping | pong => exact .inl rfl

theorem cut_of_found {place : Nat}
    (found : ((service.cut setup id place).sessions.get? id).isSome = true) :
    service.cut setup id place = service := by
  unfold cut at found ⊢
  cases live : service.sessions.get? id with
  | none => rfl
  | some session =>
    rw [live] at found
    dsimp only at found ⊢
    split
    · rename_i within
      rw [if_pos within, get?_drop, if_pos rfl] at found
      cases found
    · rfl

namespace Outside

variable {held : Prop}

theorem progresses (outside : service.Outside id connection room held)
    (accounted : service.Accounted lost) {later : Session}
    (found : (service.undergo setup incident).sessions.get? id = some later) :
    ∃ session, service.sessions.get? id = some session ∧
      service.Progresses setup incident id session later := by
  refine (accounted.progresses setup incident found).resolve_left ?_
  rintro ⟨same, _⟩
  exact Nat.ne_of_lt outside.made same

theorem session_undergo (outside : service.Outside id connection room held)
    (accounted : service.Accounted lost) (refused : ¬service.Enters setup incident id room)
    {later : Session} (found : (service.undergo setup incident).sessions.get? id = some later) :
    later.connection = connection ∧ (later.room = some room → held) := by
  obtain ⟨session, live, progresses⟩ := outside.progresses accounted found
  obtain ⟨own, before⟩ := outside.session session live
  cases progresses with
  | stays => exact ⟨own, before⟩
  | hears message =>
    refine ⟨(session.connection_receive message).trans own, ?_⟩
    intro inside
    rcases room_receive session message with same | nowhere
    · exact before (same.symm.trans inside)
    · cases nowhere.symm.trans inside
  | works => exact ⟨own, before⟩
  | enters other rest errands entered =>
    refine ⟨own, ?_⟩
    intro inside
    cases inside
    exact absurd entered refused

theorem unlisted_undergo (outside : service.Outside id connection room held)
    (accounted : service.Accounted lost) (refused : ¬service.Enters setup incident id room)
    (found : ((service.undergo setup incident).sessions.get? id).isSome = true) :
    (service.undergo setup incident).server.registry.connection? room connection.identity.id ≠
      some connection := by
  obtain ⟨later, present⟩ := Option.isSome_iff_exists.mp found
  obtain ⟨session, live, _⟩ := outside.progresses accounted present
  have before := outside.unlisted (Option.isSome_of_eq_some live)
  cases service.undergo_shifts setup incident with
  | stays same =>
    rw [same]
    exact before
  | quits other elsewhere quits =>
    intro listed
    exact before ((quits room connection.identity.id connection).mp listed).1
  | registers other newcomer target there joining cause registers =>
    have listed := registers.connection? room connection.identity.id
    by_cases here : room = target ∧ connection.identity.id = newcomer.connection.identity.id
    · rw [if_pos here] at listed
      intro also
      have same := listed.symm.trans also
      -- The newcomer is this very session, so it was let in or was cut off.
      have known : newcomer.connection.id = other := (accounted.session other newcomer there).1
      have mine : newcomer.connection.id = id := by
        rw [Option.some.inj same, ← (outside.session session live).1]
        exact (accounted.session id session live).1
      have equal : other = id := known.symm.trans mine
      rw [equal, ← here.1] at cause
      rcases cause with entered | ⟨place, rfl⟩
      · exact absurd entered refused
      · rw [show service.undergo setup (.cut id place) = service from cut_of_found found] at also
        exact before also
    · rw [listed, if_neg here]
      exact before

theorem undergo (outside : service.Outside id connection room held)
    (accounted : service.Accounted lost) (refused : ¬service.Enters setup incident id room) :
    (service.undergo setup incident).Outside id connection room held where
  made := Nat.lt_of_lt_of_le outside.made (connections_le_undergo setup service incident)
  session _ found := outside.session_undergo accounted refused found
  unlisted found := outside.unlisted_undergo accounted refused found

theorem runAll {incidents : List Incident}
    (outside : service.Outside id connection room held) (accounted : service.Accounted lost)
    (refused : ¬service.EntersDuring setup id room incidents) :
    (service.runAll setup incidents).Outside id connection room held := by
  induction incidents generalizing service lost with
  | nil => exact outside
  | cons incident rest ih =>
    rw [runAll_cons]
    exact ih (outside.undergo accounted fun entered => refused (.inl entered))
      (accounted.undergo setup incident) fun entered => refused (.inr entered)

end Outside

/-- However sessions run and wherever they are cut off, take one whose room lists another connection
for its player, or none. Whatever it hears changes nothing there. When it goes on, nothing there is
different either, unless it is let into the room, or has its say in it and takes itself to be in.
And until it is let in it stays unlisted, and does not take itself to be in if it did not before. -/
theorem unlisted_sessions_speak_where_noted (setup : Setup) (incidents : List Incident)
    (id : ConnectionId) (session : Session) (room : RoomId)
    (live : ((initial setup).runAll setup incidents).sessions.get? id = some session)
    (unlisted : ((initial setup).runAll setup incidents).server.registry.connection? room
      session.connection.identity.id ≠ some session.connection) :
    let service := (initial setup).runAll setup incidents
    (∀ message, service.Spares room (service.hear id message)) ∧
      (service.Spares room (service.advance setup id) ∨
        service.Enters setup (.advance id) id room ∨
        session.room = some room ∧ service.Speaks setup session room (service.advance setup id)) ∧
      ∀ more, ¬service.EntersDuring setup id room more →
        let later := service.runAll setup more
        ∀ after, later.sessions.get? id = some after →
          after.connection = session.connection ∧
          later.server.registry.connection? room session.connection.identity.id ≠
            some session.connection ∧
          (after.room = some room → session.room = some room) := by
  intro service
  have nobody : (initial setup).Accounted fun _ _ => False := initial_accounted setup
  have accounted := nobody.runAll setup incidents
  have exclusive := nobody.exclusive_runAll (Registry.initial_exclusive _) setup incidents
  have addressed := (initial_addressed setup).runAll nobody setup incidents id session live
  refine ⟨hear_spares service room id, ?_, ?_⟩
  · exact accounted.advance_of_unlisted exclusive addressed setup live unlisted
  · intro more refused later after found
    have outside : service.Outside id session.connection room (session.room = some room) := by
      refine ⟨(accounted.session id session live).2.1, ?_, fun _ => unlisted⟩
      intro other present
      cases live.symm.trans present
      exact ⟨rfl, fun noted => noted⟩
    have still := outside.runAll accounted refused
    obtain ⟨own, noted⟩ := still.session after found
    exact ⟨own, still.unlisted (Option.isSome_of_eq_some found), noted⟩

/-- A player comes back with a second connection while the first one still runs, which then leaves.
-/
theorem unlisted_sessions_speak_where_noted_on_leaving :
    let setup : Setup :=
      ⟨⟨{}, ⟨fun _ => true, fun _ _ => true⟩⟩, .everybody, fun _ => "the", 30000, 10000, fun _ => 0⟩
    let one : Connection := ⟨0, ⟨1, "one", false⟩⟩
    let incidents : List Incident :=
      [.connect (some 1) (some "one") "", .connect (some 2) (some "two") "", .hear 0 (.join 42),
        .advance 0, .hear 1 (.join 42), .advance 1, .connect (some 1) (some "one") "",
        .hear 2 (.join 42), .advance 2, .hear 0 .leave]
    let service := (initial setup).runAll setup incidents
    service.sessions.get? 0 = some ⟨one, none, ⟨30000, 30000, .initial 10000⟩, [.leave 42]⟩ ∧
      service.server.registry.connection? 42 1 ≠ some one ∧
      (∀ message, service.Spares 42 (service.hear 0 message)) ∧
      service.Spares 42 (service.advance setup 0) := by
  refine ⟨?live, ?unlisted,
    And.left (unlisted_sessions_speak_where_noted _ _ 0 _ 42 ?live ?unlisted),
    Or.resolve_right (And.left (And.right
      (unlisted_sessions_speak_where_noted _ _ 0 _ 42 ?live ?unlisted))) ?silent⟩
  case silent =>
    rintro (⟨_, other, _, live, head, _⟩ | ⟨inside, _⟩)
    · have errands : some [Errand.leave 42] = some other.errands :=
        Eq.trans (by decide +kernel) (congrArg (Option.map Session.errands) live)
      rw [← Option.some.inj errands] at head
      cases head
    · cases inside
  all_goals decide +kernel

/-- A session whose place has been taken answers for its player and is heard typing, and is heard
still when the connection that took its place has left. -/
theorem replaced_sessions_keep_their_voice :
    let setup : Setup :=
      ⟨⟨{}, ⟨fun _ => true, fun _ _ => true⟩⟩, .everybody, fun _ => "the", 30000, 10000, fun _ => 0⟩
    let again : Connection := ⟨2, ⟨1, "one", false⟩⟩
    let replacing : List Incident :=
      [.connect (some 1) (some "one") "", .connect (some 2) (some "two") "", .hear 0 (.join 42),
        .advance 0, .hear 1 (.join 42), .advance 1, .wait 120000, .ring, .call 0,
        .connect (some 1) (some "one") "", .hear 2 (.join 42), .advance 2]
    let leaving : List Incident := replacing ++ [.hear 2 .leave, .advance 2]
    let typing : List Incident := [.hear 0 (.typing "oth"), .advance 0]
    let answering : List Incident := [.hear 0 (.answer "other"), .advance 0]
    let replaced := (initial setup).runAll setup replacing
    let left := (initial setup).runAll setup leaving
    let points (service : Service) := (service.server.store.get? 42).map (·.pointsOf 1)
    let current (service : Service) := (service.server.store.get? 42).bind Room.current?
    let waiting (service : Service) := (service.queues.queue 1).waiting
    (replaced.sessions.get? 0).map (·.connection.identity.id) = some 1 ∧
      replaced.server.registry.connection? 42 1 = some again ∧
      waiting (replaced.runAll setup typing) =
        waiting replaced ++ [.message (.typing 42 1 "oth")] ∧
      points replaced = some 0 ∧ points (replaced.runAll setup answering) = some 1 ∧
      current replaced = some 1 ∧ current (replaced.runAll setup answering) = some 2 ∧
      left.server.registry.connection? 42 1 = none ∧
      waiting (left.runAll setup typing) = waiting left ++ [.message (.typing 42 1 "oth")] := by
  decide +kernel

end Service

end WordGame
