import WordGame.Proofs.Game.Sequel
import WordGame.Proofs.Server.Records
import WordGame.Proofs.Server.Registration
import WordGame.Server.Run

/-!
What happens to a server, as a relation: every occurrence is one of a few kinds of steps, which say
what becomes of the store, the registry and the timers. Deliveries are left out.
-/

namespace WordGame

namespace Outcome

variable {outcome : Outcome} {timers : Timers Callback}

theorem follow_of_unreported (room : RoomId) (timers : Timers Callback)
    (unreported : outcome.gameOver = false) (ticketless : outcome.turn = none) :
    outcome.follow room timers = timers := by
  unfold follow
  rw [unreported, ticketless, if_neg Bool.false_ne_true]

/-- An outcome of which nothing is made known leaves the timers alone, too. -/
theorem follow_of_isEmpty {supply : Supply} {room : Room} {move : Move} {play : Play}
    (sequel : room.Sequel supply move play) (judged : move ≠ .check)
    (empty : play.outcome.isEmpty = true) (id : RoomId) (timers : Timers Callback) :
    play.outcome.follow id timers = timers := by
  unfold isEmpty at empty
  rw [Bool.and_eq_true, List.isEmpty_iff, Option.isNone_iff_eq_none] at empty
  cases sequel with
  | same _ _ _ _ ticketless unreported =>
    exact follow_of_unreported id timers unreported ticketless
  | ended _ _ _ _ told =>
    rcases told with checked | some
    · exact absurd checked judged
    · exact absurd empty.1 some
  | turn ticket _ _ _ issued =>
    rw [issued] at empty
    cases empty.2

end Outcome

namespace Transaction

theorem server_tell (transaction : Transaction) (room : RoomId) (messages : List ServerMessage) :
    (messages.foldl (fun told message => told.broadcast room message) transaction).server =
      transaction.server := by
  induction messages generalizing transaction with
  | nil => rfl
  | cons message rest ih =>
    rw [List.foldl_cons]
    exact ih (transaction.broadcast room message)

theorem server_settle (transaction : Transaction) (room : RoomId) (outcome : Outcome) :
    (transaction.settle room outcome).server =
      { transaction.server with timers := outcome.follow room transaction.server.timers } := by
  unfold settle time
  dsimp only
  rw [server_tell]

theorem server_settleUnlessEmpty {supply : Supply} {found : Room} {move : Move} {play : Play}
    (sequel : found.Sequel supply move play) (judged : move ≠ .check) (transaction : Transaction)
    (room : RoomId) :
    (transaction.settleUnlessEmpty room play.outcome).server =
      { transaction.server with
        timers := play.outcome.follow room transaction.server.timers } := by
  unfold settleUnlessEmpty
  cases empty : play.outcome.isEmpty with
  | true =>
    rw [if_pos rfl, Outcome.follow_of_isEmpty sequel judged empty]
  | false =>
    rw [if_neg Bool.false_ne_true]
    exact server_settle transaction room play.outcome

end Transaction

namespace Server

def callbacks (server : Server) : List Callback := server.timers.calls ++ server.handed

theorem mem_callbacks_of_handed {server : Server} {index : Nat} {callback : Callback}
    (handed : server.handed[index]? = some callback) : callback ∈ server.callbacks :=
  List.mem_append_right _ (List.mem_of_getElem? handed)

/-- The server when a move was made in a room that it found, and the timers were told. -/
def played (server : Server) (rules : Rules) (fragment : Nat → String) (room : RoomId)
    (found : Room) (move : Move) : Server :=
  let play := found.perform rules ⟨server.turns + 1, fragment⟩ move
  { server with
    store := server.store.put room play.room
    turns := play.outcome.turnsAfter server.turns
    timers := play.outcome.follow room server.timers }

inductive Step (rules : Rules) (fragment : Nat → String) (server : Server) :
    Occurrence → Server → Prop
  /-- Nothing but the clock changes, and what has rung. -/
  | idle {occurrence : Occurrence} {later : Server} (store : later.store = server.store)
      (registry : later.registry = server.registry) (turns : later.turns = server.turns)
      (recorded : later.timers.recorded = server.timers.recorded)
      (callbacks : later.callbacks.Subperm server.callbacks) :
      Step rules fragment server occurrence later
  | founded {connection : Connection} {room : RoomId} {registry : Registry}
      (registers : server.registry.Registers room connection registry)
      (absent : server.store.get? room = none) :
      Step rules fragment server (.join connection room none)
        { server with
          registry := registry
          store := (server.store.create room connection.identity.id rules.config.initialLives).2
          timers := server.timers.startCountdown room rules.config.countdown
            (.start room server.store.epochs) }
  | entered {connection : Connection} {room : RoomId} {registry : Registry} {found : Room}
      (registers : server.registry.Registers room connection registry)
      (present : server.store.get? room = some found) :
      Step rules fragment server (.join connection room none)
        { server with
          registry := registry
          store := server.store.put room
            (found.addPlayer connection.identity.id rules.config.initialLives).1 }
  | emptied {connection : Connection} {room : RoomId} {registry : Registry}
      (unregisters : server.registry.Unregisters room connection 0 registry) :
      Step rules fragment server (.leave connection room)
        { server with
          registry := registry
          store := server.store.remove room
          timers := server.timers.cancelRoom room }
  | parted {connection : Connection} {room : RoomId} {registry : Registry} {found : Room}
      {left : Nat} (unregisters : server.registry.Unregisters room connection (left + 1) registry)
      (present : server.store.get? room = some found) :
      Step rules fragment server (.leave connection room)
        ({ server with registry := registry }.played rules fragment room found
          (.remove connection.identity.id))
  /-- The others are in a room that does not exist. -/
  | strayed {connection : Connection} {room : RoomId} {registry : Registry} {left : Nat}
      (unregisters : server.registry.Unregisters room connection (left + 1) registry)
      (absent : server.store.get? room = none) :
      Step rules fragment server (.leave connection room) { server with registry := registry }
  | answered {room : RoomId} {player : PlayerId} {text : String} {found : Room}
      (present : server.store.get? room = some found) :
      Step rules fragment server (.answer room player text)
        (server.played rules fragment room found (.answer player text))
  | started {index : Nat} {room : RoomId} {found : Room}
      (handed : server.handed[index]? = some (.start room found.epoch))
      (present : server.store.get? room = some found) :
      Step rules fragment server (.call index)
        ({ server with
            handed := server.handed.eraseIdx index
            timers := server.timers.clearCountdown room }.played rules fragment room found .start)
  | expired {index : Nat} {room : RoomId} {ticket : Ticket} {found : Room}
      (handed : server.handed[index]? = some (.expire room ticket))
      (present : server.store.get? room = some found) :
      Step rules fragment server (.call index)
        ({ server with
            handed := server.handed.eraseIdx index
            timers := server.timers.clearTurn room ticket.number }.played rules fragment room found
          (.expire ticket))
  /-- The room has gone since the timer rang. -/
  | outlived {index : Nat} {room : RoomId} {ticket : Ticket}
      (handed : server.handed[index]? = some (.expire room ticket))
      (absent : server.store.get? room = none) :
      Step rules fragment server (.call index)
        { server with
          handed := server.handed.eraseIdx index
          timers := server.timers.clearTurn room ticket.number }

variable {rules : Rules} {fragment : Nat → String} {server : Server}

theorem Step.refl {occurrence : Occurrence} : server.Step rules fragment occurrence server :=
  .idle rfl rfl rfl rfl (List.Subperm.refl _)

theorem move_of_present (server : Server) {room : RoomId} {found : Room} (move : Move)
    (present : server.store.get? room = some found) :
    server.move rules fragment room move =
      let play := found.perform rules ⟨server.turns + 1, fragment⟩ move
      some (play.outcome,
        { server with
          store := server.store.put room play.room
          turns := play.outcome.turnsAfter server.turns }) := by
  unfold Server.move
  rw [present]

theorem move_of_absent (server : Server) {room : RoomId} (move : Move)
    (absent : server.store.get? room = none) :
    server.move rules fragment room move = none := by
  unfold Server.move
  rw [absent]

theorem server_announce (transaction : Transaction) (connection : Connection) (room : RoomId)
    (registration : Registration) :
    (announce transaction connection room registration).server = transaction.server := by
  cases registration with
  | added => rfl
  | replaced previous => rfl

theorem server_greet_of_present (transaction : Transaction) (connection : Connection)
    (room : RoomId) {arrival : Arrival} (present : arrival = .added ∨ arrival = .alreadyPresent) :
    (greet rules transaction connection room arrival).server = transaction.server := by
  rcases present with rfl | rfl
  · unfold greet
    dsimp only
    split
    · rfl
    · rfl
  · unfold greet
    dsimp only
    split
    · rfl
    · rfl

theorem letIn_step {connection : Connection} {room : RoomId} {admission : Admission}
    (admitted : server.letIn rules connection room = .ok admission) :
    server.Step rules fragment (.join connection room none) admission.transaction.server := by
  unfold letIn at admitted
  cases registered : server.registry.register room connection with
  | error full =>
    rw [registered] at admitted
    cases admitted
  | ok pair =>
    obtain ⟨registration, registry⟩ := pair
    have registers := Registry.registers_of_ok registered
    rw [registered] at admitted
    unfold RoomStore.join at admitted
    cases listed : server.store.get? room with
    | none =>
      simp only [listed, Except.ok.injEq] at admitted
      subst admitted
      dsimp only
      rw [server_announce]
      exact .founded registers listed
    | some found =>
      simp only [listed, RoomStore.add, Except.ok.injEq] at admitted
      subst admitted
      dsimp only
      rw [server_announce, server_greet_of_present]
      · exact .entered registers listed
      · split
        · exact .inl rfl
        · exact .inr rfl

theorem join_step {objection : Option Refusal} {connection : Connection} {room : RoomId}
    {admission : Admission}
    (admitted : server.join rules objection connection room = .ok admission) :
    server.Step rules fragment (.join connection room objection) admission.transaction.server := by
  unfold Server.join at admitted
  cases objection with
  | some refusal => cases admitted
  | none =>
    dsimp only at admitted
    cases entered : server.letIn rules connection room with
    | error full =>
      rw [entered] at admitted
      cases admitted
    | ok other =>
      rw [entered] at admitted
      cases admitted
      exact letIn_step entered

theorem leave_step {connection : Connection} {room : RoomId} {transaction : Transaction}
    (departed : server.leave rules fragment connection room = some transaction) :
    server.Step rules fragment (.leave connection room) transaction.server := by
  unfold leave at departed
  dsimp only at departed
  cases unregistered : server.registry.unregister room connection.identity.id connection.id with
  | none =>
    rw [unregistered] at departed
    cases departed
  | some pair =>
    obtain ⟨left, registry⟩ := pair
    have unregisters := Registry.unregisters_of_some unregistered
    rw [unregistered] at departed
    cases left with
    | zero =>
      simp only [Option.some.injEq] at departed
      subst departed
      exact .emptied unregisters
    | succ left =>
      dsimp only at departed
      cases listed : server.store.get? room with
      | none =>
        rw [move_of_absent { server with registry := registry } _ listed] at departed
        simp only [Option.some.injEq] at departed
        subst departed
        exact .strayed unregisters listed
      | some found =>
        rw [move_of_present { server with registry := registry } _ listed] at departed
        simp only [Option.some.injEq] at departed
        subst departed
        rw [Transaction.server_settle]
        exact .parted unregisters listed

theorem answer_step (room : RoomId) (player : PlayerId) (text : String) :
    server.Step rules fragment (.answer room player text)
      (server.answer rules fragment room player text).server := by
  unfold Server.answer
  cases listed : server.store.get? room with
  | none =>
    rw [server.move_of_absent _ listed]
    exact .refl
  | some found =>
    have sequel := found.perform_sequel rules ⟨server.turns + 1, fragment⟩ (.answer player text)
    rw [server.move_of_present _ listed]
    dsimp only
    rw [Transaction.server_settleUnlessEmpty sequel (fun other => nomatch other)]
    exact .answered listed

theorem callbacks_eraseIdx (server : Server) (index : Nat) :
    { server with handed := server.handed.eraseIdx index }.callbacks.Sublist server.callbacks :=
  (List.Sublist.refl server.timers.calls).append (List.eraseIdx_sublist server.handed index)

theorem startGame_step {index : Nat} {room : RoomId} {epoch : Epoch}
    (handed : server.handed[index]? = some (.start room epoch)) :
    server.Step rules fragment (.call index)
      ({ server with handed := server.handed.eraseIdx index }.startGame rules fragment room
        epoch).server := by
  unfold startGame
  by_cases stands : (server.store.get? room).map Room.epoch = some epoch
  · obtain ⟨found, listed, same⟩ := Option.map_eq_some_iff.mp stands
    subst same
    rw [if_pos stands,
      move_of_present { server with handed := server.handed.eraseIdx index } _ listed]
    dsimp only
    rw [Transaction.server_settle]
    exact .started handed listed
  · rw [if_neg stands]
    exact .idle rfl rfl rfl rfl (server.callbacks_eraseIdx index).subperm

theorem endTurn_step {index : Nat} {room : RoomId} {ticket : Ticket}
    (handed : server.handed[index]? = some (.expire room ticket)) :
    server.Step rules fragment (.call index)
      ({ server with handed := server.handed.eraseIdx index }.endTurn rules fragment room
        ticket).server := by
  unfold endTurn
  let cleared : Server :=
    { server with
      handed := server.handed.eraseIdx index
      timers := server.timers.clearTurn room ticket.number }
  cases listed : server.store.get? room with
  | none =>
    dsimp only
    rw [move_of_absent cleared _ listed]
    exact .outlived handed listed
  | some found =>
    have sequel := found.perform_sequel rules ⟨cleared.turns + 1, fragment⟩ (.expire ticket)
    dsimp only
    rw [move_of_present cleared _ listed]
    dsimp only
    rw [Transaction.server_settleUnlessEmpty sequel (fun other => nomatch other)]
    exact .expired handed listed

theorem callNth_step (index : Nat) :
    server.Step rules fragment (.call index) (server.callNth rules fragment index).server := by
  unfold callNth
  cases found : server.handed[index]? with
  | none => exact .refl
  | some callback =>
    cases callback with
    | start room epoch => exact startGame_step found
    | expire room ticket => exact endTurn_step found

theorem ring_callbacks (server : Server) {alarm : Alarm Callback}
    (next : server.timers.next? = some alarm) :
    (server.ring alarm).callbacks.Subperm server.callbacks := by
  have rung := server.timers.calls_ring (Timers.mem_pending_of_next? next)
  have moved : (server.ring alarm).callbacks.Perm
      ((server.timers.ring alarm).calls ++ [alarm.call] ++ server.handed) := by
    rw [List.append_assoc]
    exact List.perm_append_comm.append_left (server.timers.ring alarm).calls
  exact moved.subperm.trans (rung.append (List.Subperm.refl server.handed))

theorem ringDue_step : server.Step rules fragment .ring server.ringDue := by
  unfold ringDue
  cases next : server.timers.next? with
  | none => exact .refl
  | some alarm =>
    dsimp only
    split
    · exact .idle rfl rfl rfl rfl (server.ring_callbacks next)
    · exact .refl

theorem undergo_step (server : Server) (rules : Rules) (fragment : Nat → String)
    (occurrence : Occurrence) :
    server.Step rules fragment occurrence (server.undergo rules fragment occurrence).server := by
  cases occurrence with
  | join connection room objection =>
    dsimp only [undergo]
    cases admitted : server.join rules objection connection room with
    | error refusal => exact .refl
    | ok admission => exact join_step admitted
  | leave connection room =>
    dsimp only [undergo]
    cases departed : server.leave rules fragment connection room with
    | none => exact .refl
    | some transaction => exact leave_step departed
  | answer room player text => exact answer_step room player text
  | relay => exact .refl
  | wait moment => exact .idle rfl rfl rfl rfl (List.Subperm.refl _)
  | ring => exact ringDue_step
  | call index => exact callNth_step index

end Server

namespace Chronicle

theorem run_preserves (rules : Rules) (P : Chronicle → Prop)
    (preserved : ∀ chronicle fragment occurrence, P chronicle →
      P (chronicle.step rules (occurrence, fragment)))
    (chronicle : Chronicle) (occurrences : List (Occurrence × (Nat → String)))
    (initially : P chronicle) : P (chronicle.run rules occurrences) := by
  induction occurrences generalizing chronicle with
  | nil => exact initially
  | cons occurrence rest ih =>
    rw [run_cons]
    exact ih _ (preserved chronicle occurrence.2 occurrence.1 initially)

theorem run_preserves_server (rules : Rules) (P : Server → Prop)
    (preserved : ∀ server later fragment occurrence,
      Server.Step rules fragment server occurrence later → P server → P later)
    (chronicle : Chronicle) (occurrences : List (Occurrence × (Nat → String)))
    (initially : P chronicle.server) :
    P (chronicle.run rules occurrences).server := by
  refine run_preserves rules (fun chronicle => P chronicle.server) ?_ _ _ initially
  intro chronicle fragment occurrence holds
  have step := chronicle.server.undergo_step rules fragment occurrence
  exact preserved _ _ fragment occurrence step holds

/-- What becomes of a server does not depend on what it has delivered before. -/
theorem server_run_begin (rules : Rules) (chronicle : Chronicle)
    (occurrences : List (Occurrence × (Nat → String))) :
    ((begin chronicle.server).run rules occurrences).server =
      (chronicle.run rules occurrences).server := by
  have same : ∀ one other : Chronicle, one.server = other.server →
      (one.run rules occurrences).server = (other.run rules occurrences).server := by
    induction occurrences with
    | nil => exact fun _ _ equal => equal
    | cons occurrence rest ih =>
      intro one other equal
      refine ih _ _ ?_
      unfold step
      rw [equal]
  exact same _ _ rfl

end Chronicle

end WordGame
