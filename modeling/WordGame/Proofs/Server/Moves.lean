import WordGame.Proofs.Server.Deliveries
import WordGame.Proofs.Server.Script

/-!
The transactions of the server as equations. Whatever players do in a room, and whatever timers call
for, comes down to one move in that room, of which its members are told.
-/

namespace WordGame

theorem Room.drawn_of_isEmpty (room : Room) (rules : Rules) (supply : Supply) (move : Move)
    (empty : (room.perform rules supply move).outcome.isEmpty = true) :
    (room.perform rules supply move).outcome.drawn = 0 := by
  have step := room.perform_step rules supply move
  generalize room.perform rules supply move = play at step empty ⊢
  unfold Outcome.isEmpty at empty
  rw [Bool.and_eq_true, List.isEmpty_iff] at empty
  cases step with
  | ignored | reported | enrolled | revived | withdrawn | left => rfl
  | opened _ opens =>
    cases opens with
    | ended => exact absurd empty.1 (Play.messages_finish_ne_nil _ _)
    | on => cases empty.2
  | passed _ passes | expired _ passes | accepted _ _ passes | failed _ _ _ _ passes
  | resigned _ _ passes => exact absurd empty.1 passes.told
  | lost | abandoned | decided => exact absurd empty.1 (Play.messages_finish_ne_nil _ _)
  | erred => cases empty.1

namespace Transaction

theorem settle_eq (transaction : Transaction) (room : RoomId) (outcome : Outcome) :
    transaction.settle room outcome =
      { server :=
          { transaction.server with timers := outcome.follow room transaction.server.timers }
        deliveries := transaction.deliveries ++
          outcome.messages.flatMap (transaction.server.registry.broadcast room)
        drawn := transaction.drawn + outcome.drawn } := by
  have server := transaction.server_settle room outcome
  have deliveries := transaction.deliveries_settle room outcome
  have drawn : (transaction.settle room outcome).drawn = transaction.drawn + outcome.drawn :=
    congrArg (· + outcome.drawn) (transaction.drawn_tell room outcome.messages)
  generalize transaction.settle room outcome = settled at *
  obtain ⟨_, _, _⟩ := settled
  cases server
  cases deliveries
  cases drawn
  rfl

/-- An outcome of which nothing is made known might as well be made known. -/
theorem settleUnlessEmpty_eq (found : Room) (rules : Rules) (supply : Supply) {move : Move}
    (judged : move ≠ .check) (transaction : Transaction) (room : RoomId) :
    transaction.settleUnlessEmpty room (found.perform rules supply move).outcome =
      transaction.settle room (found.perform rules supply move).outcome := by
  have sequel := found.perform_sequel rules supply move
  have undrawn := found.drawn_of_isEmpty rules supply move
  generalize found.perform rules supply move = play at *
  unfold settleUnlessEmpty
  cases empty : play.outcome.isEmpty with
  | false => exact if_neg Bool.false_ne_true
  | true =>
    have silent : play.outcome.messages = [] := by
      unfold Outcome.isEmpty at empty
      rw [Bool.and_eq_true, List.isEmpty_iff] at empty
      exact empty.1
    rw [if_pos rfl, settle_eq, Outcome.follow_of_isEmpty sequel judged empty, silent,
      undrawn empty, List.flatMap_nil, List.append_nil]
    rfl

end Transaction

namespace Server

/-- Makes a move in a room, if the room exists, after some other news for its members. -/
def makeMove (rules : Rules) (fragment : Nat → String) (server : Server) (room : RoomId)
    (move : Move) (news : List Delivery) : Transaction :=
  match server.store.get? room with
  | some found =>
    let outcome := (found.perform rules ⟨server.turns + 1, fragment⟩ move).outcome
    { server := server.played rules fragment room found move
      deliveries := news ++ outcome.messages.flatMap (server.registry.broadcast room)
      drawn := outcome.drawn }
  | none => ⟨server, news, 0⟩

def welcome (rules : Rules) (server : Server) (connection : Connection) (room : RoomId)
    (registration : Registration) (registry : Registry) : Transaction where
  server :=
    match server.store.get? room with
    | none =>
      { server with
        registry := registry
        store := (server.store.create room connection.identity.id rules.config.initialLives).2
        timers := server.timers.startCountdown room rules.config.countdown
          (.start room server.store.epochs) }
    | some found =>
      { server with
        registry := registry
        store := server.store.put room
          (found.addPlayer connection.identity.id rules.config.initialLives).1 }
  deliveries :=
    registration.closing connection ++ countdownNews rules server registry connection room ++
      arrivalNews registry connection room registration
  drawn := 0

variable {rules : Rules} {fragment : Nat → String} {server : Server} {connection : Connection}
  {room : RoomId}

theorem announce_eq (transaction : Transaction) (connection : Connection) (room : RoomId)
    (registration : Registration) :
    announce transaction connection room registration =
      { transaction with
        deliveries := transaction.deliveries ++
          arrivalNews transaction.server.registry connection room registration } := by
  cases registration with
  | added => rfl
  | replaced previous =>
    dsimp only [arrivalNews]
    rw [List.append_nil]
    rfl

theorem greet_of_present (transaction : Transaction) {arrival : Arrival}
    (present : arrival = .added ∨ arrival = .alreadyPresent) :
    greet rules transaction connection room arrival =
      { transaction with
        deliveries := transaction.deliveries ++
          remainingNews transaction.server.timers connection room } := by
  unfold remainingNews
  dsimp only
  rcases present with rfl | rfl
  all_goals
    unfold greet
    dsimp only
    split
    · rfl
    · rw [List.append_nil]

/-- What is delivered when a connection is let in: orders to close another, and news of the room. -/
theorem item_of_mem_welcome {registration : Registration} {registry : Registry}
    {delivery : Delivery}
    (member : delivery ∈ (server.welcome rules connection room registration registry).deliveries) :
    delivery.item = .close ∨ (∃ seconds, delivery.item = .message (.timerStarted room seconds)) ∨
      delivery.item =
        .message (.userJoined room connection.identity.id connection.identity.name) := by
  rcases List.mem_append.mp member with member | arrival
  · rcases List.mem_append.mp member with closing | news
    · refine .inl ?_
      unfold Registration.closing at closing
      split at closing
      · cases closing
      · split at closing
        · cases closing
        · rw [List.mem_singleton.mp closing]
    · refine .inr (.inl ?_)
      unfold countdownNews remainingNews at news
      dsimp only at news
      split at news
      · exact ⟨_, Registry.item_of_mem_broadcast news⟩
      · split at news
        · rw [List.mem_singleton.mp news]
          exact ⟨_, rfl⟩
        · cases news
  · refine .inr (.inr ?_)
    cases registration with
    | added => exact Registry.item_of_mem_broadcast arrival
    | replaced previous => cases arrival

theorem letIn_eq (rules : Rules) (server : Server) (connection : Connection) (room : RoomId) :
    server.letIn rules connection room =
      (server.registry.register room connection).map fun registered =>
        ⟨(server.store.get? room).isNone,
          server.welcome rules connection room registered.1 registered.2⟩ := by
  unfold letIn
  cases server.registry.register room connection with
  | error full => rfl
  | ok pair =>
    obtain ⟨registration, registry⟩ := pair
    unfold RoomStore.join Except.map welcome countdownNews
    cases listed : server.store.get? room with
    | none =>
      dsimp only
      rw [announce_eq]
      rfl
    | some found =>
      simp only [RoomStore.add, listed]
      let player := connection.identity.id
      by_cases new : (found.addPlayer player rules.config.initialLives).2 = true
      · rw [if_pos new, announce_eq, greet_of_present _ (.inl rfl)]
        rfl
      · rw [if_neg new, announce_eq, greet_of_present _ (.inr rfl)]
        rfl

theorem undergo_join (rules : Rules) (fragment : Nat → String) (server : Server)
    (connection : Connection) (room : RoomId) (objection : Option Refusal) :
    server.undergo rules fragment (.join connection room objection) =
      match objection, server.registry.register room connection with
      | none, .ok registered => server.welcome rules connection room registered.1 registered.2
      | _, _ => .begin server := by
  dsimp only [undergo]
  unfold Server.join
  rw [letIn_eq]
  cases objection with
  | some refusal => rfl
  | none =>
    cases server.registry.register room connection with
    | error full => rfl
    | ok registered => rfl

theorem answer_eq (rules : Rules) (fragment : Nat → String) (server : Server) (room : RoomId)
    (player : PlayerId) (text : String) :
    server.answer rules fragment room player text =
      server.makeMove rules fragment room (.answer player text) [] := by
  unfold Server.answer makeMove
  cases listed : server.store.get? room with
  | none => rw [server.move_of_absent _ listed]; rfl
  | some found =>
    have judged : Move.answer player text ≠ .check := fun other => nomatch other
    rw [server.move_of_present _ listed]
    dsimp only
    rw [Transaction.settleUnlessEmpty_eq found rules _ judged, Transaction.settle_eq]
    dsimp only [Transaction.begin]
    rw [Nat.zero_add]
    rfl

theorem leave_eq (rules : Rules) (fragment : Nat → String) (server : Server)
    (connection : Connection) (room : RoomId) :
    server.leave rules fragment connection room =
      (server.registry.unregister room connection.identity.id connection.id).map
        fun unregistered =>
          if unregistered.1 = 0 then
            .begin
              { server with
                registry := unregistered.2
                store := server.store.remove room
                timers := server.timers.cancelRoom room }
          else
            { server with registry := unregistered.2 }.makeMove rules fragment room
              (.remove connection.identity.id)
              (unregistered.2.broadcast room
                (.userLeft room connection.identity.id connection.identity.name)) := by
  unfold leave
  dsimp only
  cases server.registry.unregister room connection.identity.id connection.id with
  | none => rfl
  | some pair =>
    obtain ⟨left, registry⟩ := pair
    cases left with
    | zero => rfl
    | succ left =>
      dsimp only [Option.map_some]
      rw [if_neg (Nat.succ_ne_zero left)]
      unfold makeMove
      cases listed : server.store.get? room with
      | none => rw [move_of_absent { server with registry := registry } _ listed]; rfl
      | some found =>
        rw [move_of_present { server with registry := registry } _ listed]
        dsimp only
        rw [Transaction.settle_eq]
        dsimp only [Transaction.begin, Transaction.broadcast]
        rw [Nat.zero_add]
        rfl

theorem startGame_eq (rules : Rules) (fragment : Nat → String) (server : Server) (room : RoomId)
    (epoch : Epoch) :
    server.startGame rules fragment room epoch =
      if (server.store.get? room).map Room.epoch = some epoch then
        { server with timers := server.timers.clearCountdown room }.makeMove rules fragment room
          .start []
      else .begin server := by
  unfold startGame
  split
  · rename_i stands
    obtain ⟨found, listed, _⟩ := Option.map_eq_some_iff.mp stands
    unfold makeMove
    rw [server.move_of_present _ listed]
    dsimp only
    rw [Transaction.settle_eq, listed]
    dsimp only [Transaction.begin, Transaction.time]
    rw [Nat.zero_add]
    rfl
  · rfl

theorem endTurn_eq (rules : Rules) (fragment : Nat → String) (server : Server) (room : RoomId)
    (ticket : Ticket) :
    server.endTurn rules fragment room ticket =
      { server with timers := server.timers.clearTurn room ticket.number }.makeMove rules fragment
        room (.expire ticket) [] := by
  let cleared : Server :=
    { server with timers := server.timers.clearTurn room ticket.number }
  unfold endTurn makeMove
  cases listed : server.store.get? room with
  | none =>
    dsimp only
    rw [move_of_absent cleared _ listed]
    rfl
  | some found =>
    have judged : Move.expire ticket ≠ .check := fun other => nomatch other
    dsimp only
    rw [move_of_present cleared _ listed]
    dsimp only
    rw [Transaction.settleUnlessEmpty_eq found rules _ judged, Transaction.settle_eq]
    dsimp only [Transaction.begin]
    rw [Nat.zero_add]
    rfl

theorem callNth_start (rules : Rules) (fragment : Nat → String) {index : Nat} {epoch : Epoch}
    (handed : server.handed[index]? = some (.start room epoch)) :
    server.callNth rules fragment index =
      if (server.store.get? room).map Room.epoch = some epoch then
        { server with
          handed := server.handed.eraseIdx index
          timers := server.timers.clearCountdown room }.makeMove rules fragment room .start []
      else .begin { server with handed := server.handed.eraseIdx index } := by
  unfold callNth
  rw [handed]
  exact startGame_eq rules fragment { server with handed := server.handed.eraseIdx index } room epoch

theorem callNth_expire (rules : Rules) (fragment : Nat → String) {index : Nat} {ticket : Ticket}
    (handed : server.handed[index]? = some (.expire room ticket)) :
    server.callNth rules fragment index =
      { server with
        handed := server.handed.eraseIdx index
        timers := server.timers.clearTurn room ticket.number }.makeMove rules fragment room
          (.expire ticket) [] := by
  unfold callNth
  rw [handed]
  exact endTurn_eq rules fragment { server with handed := server.handed.eraseIdx index } room ticket

theorem makeMove_of_present {found : Room} (present : server.store.get? room = some found)
    (rules : Rules) (fragment : Nat → String) (move : Move) (news : List Delivery) :
    server.makeMove rules fragment room move news =
      { server := server.played rules fragment room found move
        deliveries := news ++
          (found.perform rules ⟨server.turns + 1, fragment⟩ move).outcome.messages.flatMap
            (server.registry.broadcast room)
        drawn := (found.perform rules ⟨server.turns + 1, fragment⟩ move).outcome.drawn } := by
  unfold makeMove
  rw [present]

theorem makeMove_of_absent (absent : server.store.get? room = none) (rules : Rules)
    (fragment : Nat → String) (move : Move) (news : List Delivery) :
    server.makeMove rules fragment room move news = ⟨server, news, 0⟩ := by
  unfold makeMove
  rw [absent]

/-- What is delivered of a move is what was to be told before it, then the report of the game. -/
theorem item_of_mem_makeMove {move : Move} {news : List Delivery} {delivery : Delivery}
    (member : delivery ∈ (server.makeMove rules fragment room move news).deliveries) :
    delivery ∈ news ∨ ∃ found message, server.store.get? room = some found ∧
      message.OfGame found.id ∧ delivery.item = .message message := by
  cases present : server.store.get? room with
  | none =>
    rw [makeMove_of_absent present] at member
    exact .inl member
  | some found =>
    rw [makeMove_of_present present] at member
    refine (List.mem_append.mp member).imp_right ?_
    intro moved
    obtain ⟨message, said, sent⟩ := List.mem_flatMap.mp moved
    exact ⟨found, message, rfl, Room.perform_ofGame rules _ move said,
      Registry.item_of_mem_broadcast sent⟩

theorem get?_played (server : Server) (rules : Rules) (fragment : Nat → String) (room : RoomId)
    (found : Room) (move : Move) :
    (server.played rules fragment room found move).store.get? room =
      some (found.perform rules ⟨server.turns + 1, fragment⟩ move).room := by
  unfold played
  dsimp only
  rw [RoomStore.get?_put, if_pos rfl]

theorem get?_played_of_ne (server : Server) (rules : Rules) (fragment : Nat → String)
    {room id : RoomId} (found : Room) (move : Move) (other : id ≠ room) :
    (server.played rules fragment room found move).store.get? id = server.store.get? id := by
  unfold played
  dsimp only
  rw [RoomStore.get?_put, if_neg other]

end Server

end WordGame
