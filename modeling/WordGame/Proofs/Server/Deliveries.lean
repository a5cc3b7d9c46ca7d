import WordGame.Proofs.Game.Report
import WordGame.Proofs.Server.Agreement

/-!
What a server delivers. A transaction tells the members of one room what has happened there, message
by message, and all that it says is about that room.
-/

namespace WordGame

def ServerMessage.room? : ServerMessage → Option RoomId
  | userJoined room .. | userLeft room .. | timerStarted room .. | startGame room ..
  | nextTurn room .. | answer room .. | turnEnded room .. | gameOver room .. | typing room .. =>
    some room
  | ping .. | pong .. => none

def Outbound.room? : Outbound → Option RoomId
  | .message said => said.room?
  | .close => none

/-- The messages that report the game in a room. -/
inductive ServerMessage.OfGame (room : RoomId) : ServerMessage → Prop
  | startGame (fragment : String) (round timeLimit : UInt32) :
      OfGame room (.startGame room fragment round timeLimit)
  | nextTurn (player : PlayerId) (fragment : String) (timeLimit round lives : UInt32) :
      OfGame room (.nextTurn room player fragment timeLimit round lives)
  | answer (player : PlayerId) (correct : Bool) (word : String) (fragment : Option String)
      (score lives : UInt32) : OfGame room (.answer room player correct word fragment score lives)
  | turnEnded (player : PlayerId) (reason : TurnEnd) (livesLeft round score : UInt32) :
      OfGame room (.turnEnded room player reason livesLeft round score)
  | gameOver (winner : PlayerId) (scores : Table String FinalScore) :
      OfGame room (.gameOver room winner scores)

theorem ServerMessage.OfGame.room? {room : RoomId} {message : ServerMessage}
    (ofGame : message.OfGame room) : message.room? = some room := by
  cases ofGame with
  | startGame | nextTurn | answer | turnEnded | gameOver => rfl

namespace Room

variable {room : Room} {play : Play} {move : Move} {messages : List ServerMessage}
  {message : ServerMessage}

theorem GoesOn.ofGame (goesOn : room.GoesOn message) : message.OfGame room.id := by
  cases goesOn with
  | turn => exact .nextTurn _ _ _ _ _
  | ended => exact .gameOver _ _

theorem Reports.ofGame (reports : room.Reports play move messages) (same : play.room.id = room.id)
    (member : message ∈ messages) : message.OfGame room.id := by
  have closing : ∀ last, play.room.GoesOn last → last.OfGame room.id := by
    intro last goesOn
    rw [← same]
    exact goesOn.ofGame
  cases reports with
  | quiet => cases member
  | opened _ _ goesOn =>
    rcases List.mem_pair.mp member with rfl | rfl
    · exact .startGame _ _ _
    · exact closing _ goesOn
  | passed _ _ goesOn =>
    cases List.mem_singleton.mp member
    exact closing _ goesOn
  | expired _ _ goesOn =>
    rcases List.mem_pair.mp member with rfl | rfl
    · exact .turnEnded _ _ _ _ _
    · exact closing _ goesOn
  | accepted _ _ goesOn | failed _ _ goesOn =>
    rcases List.mem_cons.mp member with rfl | member
    · exact .answer _ _ _ _ _ _
    · rcases List.mem_pair.mp member with rfl | rfl
      · exact .turnEnded _ _ _ _ _
      · exact closing _ goesOn
  | erred =>
    rcases List.mem_pair.mp member with rfl | rfl
    · exact .answer _ _ _ _ _ _
    · exact .turnEnded _ _ _ _ _

theorem perform_ofGame (rules : Rules) (supply : Supply) (move : Move)
    (member : message ∈ (room.perform rules supply move).outcome.messages) :
    message.OfGame room.id := by
  have same := room.id_perform rules supply move
  have step := room.perform_step rules supply move
  cases move with
  | add => cases member
  | remove | start | advance | check | answer | expire =>
    exact (step.reports fun _ _ other => nomatch other).ofGame same member

end Room

theorem Registry.item_of_mem_broadcast {registry : Registry} {room : RoomId}
    {message : ServerMessage} {delivery : Delivery}
    (member : delivery ∈ registry.broadcast room message) : delivery.item = .message message := by
  obtain ⟨holder, _, rfl⟩ := List.mem_map.mp member
  rfl

namespace Transaction

theorem deliveries_tell (transaction : Transaction) (room : RoomId)
    (messages : List ServerMessage) :
    (messages.foldl (fun told message => told.broadcast room message) transaction).deliveries =
      transaction.deliveries ++ messages.flatMap (transaction.server.registry.broadcast room) := by
  induction messages generalizing transaction with
  | nil => exact (List.append_nil _).symm
  | cons message rest ih =>
    rw [List.foldl_cons, ih, List.flatMap_cons, ← List.append_assoc]
    rfl

theorem deliveries_settle (transaction : Transaction) (room : RoomId) (outcome : Outcome) :
    (transaction.settle room outcome).deliveries =
      transaction.deliveries ++
        outcome.messages.flatMap (transaction.server.registry.broadcast room) :=
  transaction.deliveries_tell room outcome.messages

theorem deliveries_settleUnlessEmpty (transaction : Transaction) (room : RoomId)
    (outcome : Outcome) :
    (transaction.settleUnlessEmpty room outcome).deliveries =
      transaction.deliveries ++
        outcome.messages.flatMap (transaction.server.registry.broadcast room) := by
  unfold settleUnlessEmpty
  cases empty : outcome.isEmpty with
  | true =>
    unfold Outcome.isEmpty at empty
    rw [Bool.and_eq_true, List.isEmpty_iff] at empty
    rw [empty.1, if_pos rfl]
    exact (List.append_nil _).symm
  | false =>
    rw [if_neg Bool.false_ne_true]
    exact transaction.deliveries_settle room outcome

end Transaction

namespace Server

def said (server : Server) (rules : Rules) (fragment : Nat → String) (room : RoomId)
    (move : Move) : List ServerMessage :=
  match server.store.get? room with
  | some found => (found.perform rules ⟨server.turns + 1, fragment⟩ move).outcome.messages
  | none => []

/-- What a connection is told of a countdown that is running. -/
def remainingNews (timers : Timers Callback) (connection : Connection) (room : RoomId) :
    List Delivery :=
  let left := timers.remaining room
  if 0 < left then [⟨connection.id, .message (.timerStarted room (UInt64.ofNat left))⟩] else []

/-- Those who come to a room are told of its countdown: all of them when it begins, and later each
of them what is left of it. -/
def countdownNews (rules : Rules) (server : Server) (registry : Registry) (connection : Connection)
    (room : RoomId) : List Delivery :=
  match server.store.get? room with
  | none => registry.broadcast room (.timerStarted room rules.config.countdownSecs)
  | some _ => remainingNews server.timers connection room

def arrivalNews (registry : Registry) (connection : Connection) (room : RoomId) :
    Registration → List Delivery
  | .added =>
    registry.broadcast room (.userJoined room connection.identity.id connection.identity.name)
  | .replaced _ => []

variable {rules : Rules} {fragment : Nat → String} {server : Server}
  {connection : Connection} {room : RoomId} {objection : Option Refusal}

theorem said_of_present {found : Room} (present : server.store.get? room = some found)
    (move : Move) :
    server.said rules fragment room move =
      (found.perform rules ⟨server.turns + 1, fragment⟩ move).outcome.messages := by
  unfold said
  rw [present]

theorem said_of_absent (absent : server.store.get? room = none) (move : Move) :
    server.said rules fragment room move = [] := by
  unfold said
  rw [absent]

theorem deliveries_announce (transaction : Transaction) (registration : Registration) :
    (announce transaction connection room registration).deliveries =
      transaction.deliveries ++
        arrivalNews transaction.server.registry connection room registration := by
  cases registration with
  | added => rfl
  | replaced previous => exact (List.append_nil _).symm

theorem deliveries_greet_of_present (transaction : Transaction) {arrival : Arrival}
    (present : arrival = .added ∨ arrival = .alreadyPresent) :
    (greet rules transaction connection room arrival).deliveries =
      transaction.deliveries ++ remainingNews transaction.server.timers connection room := by
  have greeted : greet rules transaction connection room arrival =
      let left := transaction.server.timers.remaining room
      if 0 < left then transaction.send connection.id (.timerStarted room (UInt64.ofNat left))
      else transaction := by
    rcases present with rfl | rfl
    · rfl
    · rfl
  rw [greeted]
  unfold remainingNews
  dsimp only
  split
  · rfl
  · exact (List.append_nil _).symm

/-- Whoever is let into a room: the connection that is displaced is closed, and then the news are
told. -/
theorem deliveries_letIn {admission : Admission}
    (admitted : server.letIn rules connection room = .ok admission) :
    ∃ registration registry,
      server.registry.register room connection = .ok (registration, registry) ∧
        admission.transaction.server.registry = registry ∧
        admission.transaction.deliveries =
          registration.closing connection ++ countdownNews rules server registry connection room ++
            arrivalNews registry connection room registration := by
  unfold letIn at admitted
  cases registered : server.registry.register room connection with
  | error full =>
    rw [registered] at admitted
    cases admitted
  | ok pair =>
    obtain ⟨registration, registry⟩ := pair
    rw [registered] at admitted
    refine ⟨registration, registry, rfl, ?_⟩
    unfold RoomStore.join at admitted
    unfold countdownNews
    cases listed : server.store.get? room with
    | none =>
      simp only [listed, Except.ok.injEq] at admitted
      subst admitted
      dsimp only
      rw [server_announce, deliveries_announce]
      exact ⟨rfl, rfl⟩
    | some found =>
      simp only [listed, RoomStore.add, Except.ok.injEq] at admitted
      subst admitted
      dsimp only
      let player := connection.identity.id
      generalize arrived : (if (found.addPlayer player rules.config.initialLives).2 = true
        then Arrival.added else Arrival.alreadyPresent) = arrival
      have present : arrival = .added ∨ arrival = .alreadyPresent := by
        rw [← arrived]
        split
        · exact .inl rfl
        · exact .inr rfl
      rw [server_announce, deliveries_announce, server_greet_of_present _ _ _ present,
        deliveries_greet_of_present _ present]
      exact ⟨rfl, rfl⟩

theorem deliveries_join {admission : Admission}
    (admitted : server.join rules objection connection room = .ok admission) :
    ∃ registration registry,
      server.registry.register room connection = .ok (registration, registry) ∧
        admission.transaction.server.registry = registry ∧
        admission.transaction.deliveries =
          registration.closing connection ++ countdownNews rules server registry connection room ++
            arrivalNews registry connection room registration := by
  unfold Server.join at admitted
  cases objection with
  | some refusal => cases admitted
  | none =>
    dsimp only at admitted
    cases entered : server.letIn rules connection room with
    | error full =>
      rw [entered] at admitted
      cases admitted
    | ok other =>
      rw [entered] at admitted
      cases admitted
      exact deliveries_letIn entered

theorem deliveries_leave {transaction : Transaction}
    (departed : server.leave rules fragment connection room = some transaction) :
    ∃ left registry,
      server.registry.unregister room connection.identity.id connection.id = some (left, registry) ∧
        transaction.server.registry = registry ∧
        transaction.deliveries =
          if left = 0 then []
          else
            registry.broadcast room
                (.userLeft room connection.identity.id connection.identity.name) ++
              (server.said rules fragment room (.remove connection.identity.id)).flatMap
                (registry.broadcast room) := by
  unfold leave at departed
  dsimp only at departed
  cases unregistered : server.registry.unregister room connection.identity.id connection.id with
  | none =>
    rw [unregistered] at departed
    cases departed
  | some pair =>
    obtain ⟨left, registry⟩ := pair
    refine ⟨left, registry, rfl, ?_⟩
    rw [unregistered] at departed
    cases left with
    | zero =>
      simp only [Option.some.injEq] at departed
      subst departed
      exact ⟨rfl, rfl⟩
    | succ left =>
      rw [if_neg (Nat.succ_ne_zero left)]
      dsimp only at departed
      cases listed : server.store.get? room with
      | none =>
        rw [move_of_absent { server with registry := registry } _ listed] at departed
        simp only [Option.some.injEq] at departed
        subst departed
        rw [said_of_absent listed]
        exact ⟨rfl, (List.append_nil _).symm⟩
      | some found =>
        rw [move_of_present { server with registry := registry } _ listed] at departed
        simp only [Option.some.injEq] at departed
        subst departed
        rw [said_of_present listed, Transaction.server_settle, Transaction.deliveries_settle]
        exact ⟨rfl, rfl⟩

theorem deliveries_answer (server : Server) (room : RoomId) (player : PlayerId) (text : String) :
    (server.answer rules fragment room player text).deliveries =
      (server.said rules fragment room (.answer player text)).flatMap
        (server.registry.broadcast room) := by
  unfold Server.answer
  cases listed : server.store.get? room with
  | none =>
    rw [server.move_of_absent _ listed, said_of_absent listed]
    rfl
  | some found =>
    rw [server.move_of_present _ listed, said_of_present listed]
    exact Transaction.deliveries_settleUnlessEmpty _ room _

theorem deliveries_startGame (server : Server) (room : RoomId) (epoch : Epoch) :
    (server.startGame rules fragment room epoch).deliveries =
      if (server.store.get? room).map Room.epoch = some epoch then
        (server.said rules fragment room .start).flatMap (server.registry.broadcast room)
      else [] := by
  unfold startGame
  split
  · rename_i stands
    obtain ⟨found, listed, _⟩ := Option.map_eq_some_iff.mp stands
    rw [server.move_of_present _ listed, said_of_present listed]
    exact Transaction.deliveries_settle _ room _
  · rfl

theorem deliveries_endTurn (server : Server) (room : RoomId) (ticket : Ticket) :
    (server.endTurn rules fragment room ticket).deliveries =
      (server.said rules fragment room (.expire ticket)).flatMap
        (server.registry.broadcast room) := by
  let cleared : Server :=
    { server with timers := server.timers.clearTurn room ticket.number }
  unfold endTurn
  cases listed : server.store.get? room with
  | none =>
    dsimp only
    rw [move_of_absent cleared _ listed, said_of_absent listed]
    rfl
  | some found =>
    dsimp only
    rw [move_of_present cleared _ listed, said_of_present listed]
    exact Transaction.deliveries_settleUnlessEmpty _ room _

/-! ### Rooms -/

/-- Where a room comes from that exists after a step. -/
inductive Origin (rules : Rules) (server : Server) (id : RoomId) (room : Room) : Prop
  | same (present : server.store.get? id = some room)
  | founded (founder : PlayerId) (absent : server.store.get? id = none)
      (new : room = Room.new id server.store.epochs founder rules.config.initialLives)
  | moved (found : Room) (supply : Supply) (move : Move)
      (present : server.store.get? id = some found)
      (after : room = (found.perform rules supply move).room)

variable {later : Server}

theorem origin_of_put {id : RoomId} {found here : Room} (supply : Supply) (move : Move)
    (present : server.store.get? room = some found)
    (stored : (server.store.put room (found.perform rules supply move).room).get? id = some here) :
    server.Origin rules id here := by
  rw [RoomStore.get?_put] at stored
  split at stored
  · rename_i same
    subst same
    cases stored
    exact .moved found supply move present rfl
  · exact .same stored

theorem Step.origin {occurrence : Occurrence} (step : server.Step rules fragment occurrence later)
    {id : RoomId} {here : Room} (stored : later.store.get? id = some here) :
    server.Origin rules id here := by
  cases step with
  | idle store =>
    rw [store] at stored
    exact .same stored
  | @founded connection room _ _ absent =>
    change (server.store.create _ _ _).2.get? id = _ at stored
    rw [RoomStore.get?_create] at stored
    split at stored
    · rename_i same
      subst same
      cases stored
      exact .founded _ absent rfl
    · exact .same stored
  | @entered connection _ _ _ _ present =>
    exact origin_of_put ⟨0, fun _ => ""⟩ (.add connection.identity.id rules.config.initialLives)
      present stored
  | @emptied _ room =>
    change (server.store.remove room).get? id = _ at stored
    rw [RoomStore.get?_remove] at stored
    split at stored
    · cases stored
    · exact .same stored
  | parted _ present | answered present | started _ present | expired _ present =>
    exact origin_of_put _ _ present stored
  | strayed | outlived => exact .same stored

/-- Rooms are listed by their own numbers. -/
def Filed (server : Server) : Prop :=
  ∀ id room, server.store.get? id = some room → room.id = id

theorem Step.filed {occurrence : Occurrence} (step : server.Step rules fragment occurrence later)
    (filed : server.Filed) : later.Filed := by
  intro id here stored
  cases step.origin stored with
  | same present => exact filed id here present
  | founded founder _ new =>
    rw [new]
    rfl
  | moved found supply move present after =>
    rw [after, found.id_perform]
    exact filed id found present

theorem said_ofGame (filed : server.Filed) {move : Move}
    {message : ServerMessage} (member : message ∈ server.said rules fragment room move) :
    message.OfGame room := by
  cases listed : server.store.get? room with
  | none =>
    rw [said_of_absent listed] at member
    cases member
  | some found =>
    rw [said_of_present listed] at member
    have ofGame := Room.perform_ofGame rules _ move member
    rw [filed room found listed] at ofGame
    exact ofGame

end Server

theorem Chronicle.run_filed (rules : Rules) (occurrences : List (Occurrence × (Nat → String))) :
    ((begin (.initial rules.config)).run rules occurrences).server.Filed :=
  run_preserves_server rules Server.Filed (fun _ _ _ _ step => step.filed) _ _
    (fun _ _ present => nomatch present)

end WordGame
