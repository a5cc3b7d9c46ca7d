import WordGame.Proofs.Server.Countdowns
import WordGame.Proofs.Server.Moves

/-!
The openings of games. Nothing but the end of its countdown opens the game of a room, and then
everybody there is told so.
-/

namespace WordGame

def ServerMessage.opens (room : RoomId) : ServerMessage → Bool
  | startGame about .. => about = room
  | _ => false

def Delivery.opens (room : RoomId) (delivery : Delivery) : Bool :=
  match delivery.item with
  | .message said => said.opens room
  | .close => false

theorem ServerMessage.OfGame.opens_of_ne {room id : RoomId} {message : ServerMessage}
    (ofGame : message.OfGame room) (other : room ≠ id) : message.opens id = false := by
  cases ofGame with
  | startGame => exact decide_eq_false other
  | nextTurn | answer | turnEnded | gameOver => rfl

theorem Delivery.filter_opens_eq_nil {room : RoomId} {deliveries : List Delivery}
    (silent : ∀ delivery ∈ deliveries, delivery.opens room = false) :
    deliveries.filter (Delivery.opens room) = [] := by
  rw [List.filter_eq_nil_iff]
  intro delivery member
  rw [silent delivery member]
  exact Bool.false_ne_true

namespace Room

variable {room : Room} {message : ServerMessage}

theorem GoesOn.opens (goesOn : room.GoesOn message) (id : RoomId) : message.opens id = false := by
  cases goesOn with
  | turn | ended => rfl

theorem GoesOn.phase (goesOn : room.GoesOn message) : room.phase ≠ .waiting := by
  intro waiting
  cases goesOn with
  | turn current => cases (running_of_current? current).symm.trans waiting
  | ended finished => cases finished.symm.trans waiting

/-- A move opens the game, or it says nothing of the kind and leaves the countdown to itself. -/
theorem perform_opens (rules : Rules) (supply : Supply) (move : Move) (rostered : room.Rostered) :
    (move = .start ∧ room.phase = .waiting ∧
        (room.perform rules supply move).room.phase ≠ .waiting ∧
        ∃ fragment round limit,
          (room.perform rules supply move).outcome.messages.filter (·.opens room.id) =
            [.startGame room.id fragment round limit]) ∨
      (∀ id, (room.perform rules supply move).outcome.messages.filter (·.opens id) = []) ∧
        ((room.perform rules supply move).room.phase = .waiting ↔ room.phase = .waiting) := by
  have reports := perform_reports rules supply move rostered
  have sequel := room.perform_sequel rules supply move
  generalize room.perform rules supply move = play at *
  generalize play.outcome.messages = messages at reports ⊢
  have begun : room.phase ≠ .waiting → (play.room.phase = .waiting ↔ room.phase = .waiting) :=
    fun begun => iff_of_false (fun waiting => begun (sequel.waiting waiting)) begun
  have unread {last : ServerMessage} (goesOn : play.room.GoesOn last) (id : RoomId) :
      [last].filter (·.opens id) = [] :=
    List.filter_cons_of_neg (by rw [goesOn.opens]; exact Bool.false_ne_true)
  have running {player : PlayerId} (current : room.current? = some player) :
      room.phase ≠ .waiting := by
    rw [running_of_current? current]
    decide
  cases reports with
  | quiet _ phase => exact .inr ⟨fun _ => rfl, by rw [phase]⟩
  | @opened fragment round limit last waiting _ goesOn =>
    refine .inl ⟨rfl, waiting, goesOn.phase, fragment, round, limit, ?_⟩
    rw [List.filter_cons_of_pos (by exact decide_eq_true rfl), unread goesOn]
  | passed inProgress _ goesOn =>
    refine .inr ⟨unread goesOn, begun ?_⟩
    rw [inProgress]
    decide
  | expired current _ goesOn => exact .inr ⟨unread goesOn, begun (running current)⟩
  | accepted current _ goesOn | failed current _ goesOn =>
    exact .inr ⟨unread goesOn, begun (running current)⟩
  | erred current => exact .inr ⟨fun _ => rfl, begun (running current)⟩

end Room

namespace Registry

theorem filter_broadcast (registry : Registry) (room id : RoomId) (message : ServerMessage) :
    (registry.broadcast room message).filter (Delivery.opens id) =
      if message.opens id then registry.broadcast room message else [] := by
  unfold broadcast
  rw [List.filter_map]
  change List.map _ ((registry.members room).values.filter fun _ => message.opens id) = _
  cases message.opens id with
  | true => simp
  | false => simp

theorem filter_flatMap_broadcast (registry : Registry) (room id : RoomId)
    (messages : List ServerMessage) :
    (messages.flatMap (registry.broadcast room)).filter (Delivery.opens id) =
      (messages.filter (·.opens id)).flatMap (registry.broadcast room) := by
  induction messages with
  | nil => rfl
  | cons message rest ih =>
    rw [List.flatMap_cons, List.filter_append, filter_broadcast, ih]
    cases opens : message.opens id with
    | true => rw [List.filter_cons_of_pos opens, if_pos rfl, List.flatMap_cons]
    | false =>
      rw [List.filter_cons_of_neg (by rw [opens]; exact Bool.false_ne_true),
        if_neg Bool.false_ne_true]
      rfl

end Registry

namespace Server

/-- What a transaction does about the opening of the game in a room: nothing, or, where it is called
for, the game is opened and the members of the room are told. -/
inductive Opening (registry : Registry) (called : Prop) (id : RoomId) (found : Room)
    (transaction : Transaction) : Prop
  | quiet (silent : transaction.deliveries.filter (Delivery.opens id) = [])
      (same : ∀ later, transaction.server.store.get? id = some later →
        (later.phase = .waiting ↔ found.phase = .waiting)) :
      Opening registry called id found transaction
  | opened (fragment : String) (round limit : UInt32) (isCalled : called)
      (waiting : found.phase = .waiting)
      (begun : ∀ later, transaction.server.store.get? id = some later → later.phase ≠ .waiting)
      (told : transaction.deliveries.filter (Delivery.opens id) =
        registry.broadcast id (.startGame id fragment round limit)) :
      Opening registry called id found transaction

variable {rules : Rules} {fragment : Nat → String} {server : Server}
  {room id : RoomId} {found : Room}

theorem opening_of_same {registry : Registry} {called : Prop} {transaction : Transaction}
    (present : server.store.get? id = some found)
    (store : transaction.server.store.get? id = server.store.get? id)
    (silent : transaction.deliveries.filter (Delivery.opens id) = []) :
    Opening registry called id found transaction := by
  refine .quiet silent ?_
  intro later stored
  rw [store, present] at stored
  cases stored
  exact Iff.rfl

theorem makeMove_opening {called : Prop} (move : Move) {news : List Delivery}
    (filed : server.Filed)
    (rostered : ∀ id room, server.store.get? id = some room → room.Rostered)
    (present : server.store.get? id = some found)
    (silent : news.filter (Delivery.opens id) = [])
    (calls : room = id → move = .start → called) :
    Opening server.registry called id found
      (server.makeMove rules fragment room move news) := by
  unfold makeMove
  cases listed : server.store.get? room with
  | none => exact opening_of_same present rfl silent
  | some here =>
    have told : (news ++ (here.perform rules ⟨server.turns + 1, fragment⟩
          move).outcome.messages.flatMap (server.registry.broadcast room)).filter
            (Delivery.opens id) =
        ((here.perform rules ⟨server.turns + 1, fragment⟩ move).outcome.messages.filter
          (·.opens id)).flatMap (server.registry.broadcast room) := by
      rw [List.filter_append, silent, Registry.filter_flatMap_broadcast]
      rfl
    by_cases same : room = id
    · subst same
      cases present.symm.trans listed
      have stored := server.get?_played rules fragment room found move
      rcases found.perform_opens rules ⟨server.turns + 1, fragment⟩ move
          (rostered room found present) with ⟨start, waiting, begun, text, round, limit, opens⟩ |
          ⟨unread, phase⟩
      · refine .opened text round limit (calls rfl start) waiting ?_ ?_
        · intro later after
          cases stored.symm.trans after
          exact begun
        · rw [filed room found present] at opens
          dsimp only
          rw [told, opens, List.flatMap_singleton]
      · refine .quiet ?_ ?_
        · dsimp only
          rw [told, unread]
          rfl
        · intro later after
          cases stored.symm.trans after
          exact phase
    · refine opening_of_same present ?_ ?_
      · exact server.get?_played_of_ne rules fragment here move (Ne.symm same)
      · have unread : (here.perform rules ⟨server.turns + 1, fragment⟩
            move).outcome.messages.filter (·.opens id) = [] := by
          rw [List.filter_eq_nil_iff]
          intro message member
          have ofGame := Room.perform_ofGame rules _ move member
          rw [filed room here listed] at ofGame
          rw [ofGame.opens_of_ne same]
          exact Bool.false_ne_true
        dsimp only
        rw [told, unread]
        rfl

theorem Opening.of_uncalled {registry other : Registry} {called : Prop} {transaction : Transaction}
    (opening : Opening registry False id found transaction) :
    Opening other called id found transaction := by
  cases opening with
  | quiet silent same => exact .quiet silent same
  | opened _ _ _ isCalled => exact isCalled.elim

theorem welcome_opening {called : Prop} {registry other : Registry} {connection : Connection}
    {registration : Registration} (present : server.store.get? id = some found) :
    Opening other called id found
      (server.welcome rules connection room registration registry) := by
  have silent : (server.welcome rules connection room registration registry).deliveries.filter
      (Delivery.opens id) = [] := by
    apply Delivery.filter_opens_eq_nil
    intro delivery member
    unfold Delivery.opens
    rcases item_of_mem_welcome member with close | ⟨seconds, timer⟩ | joined
    · rw [close]
    · rw [timer]
      rfl
    · rw [joined]
      rfl
  unfold welcome at silent ⊢
  cases listed : server.store.get? room with
  | none =>
    have other : id ≠ room := by
      rintro rfl
      cases listed.symm.trans present
    refine opening_of_same present ?_ silent
    dsimp only
    rw [RoomStore.get?_create, if_neg other]
  | some here =>
    by_cases same : id = room
    · subst same
      cases listed.symm.trans present
      refine .quiet silent ?_
      intro later stored
      dsimp only at stored
      rw [RoomStore.get?_put, if_pos rfl] at stored
      cases stored
      rw [Room.addPlayer_phase]
    · refine opening_of_same present ?_ silent
      dsimp only
      rw [RoomStore.get?_put, if_neg same]

/-- The game of a room is opened when the end of its countdown is called for, and by nothing else. -/
theorem undergo_opening (server : Server) (occurrence : Occurrence) (filed : server.Filed)
    (rostered : ∀ id room, server.store.get? id = some room → room.Rostered)
    (present : server.store.get? id = some found) :
    Opening server.registry (.start id found.epoch ∈ server.handed) id found
      (server.undergo rules fragment occurrence) := by
  cases occurrence with
  | join connection room objection =>
    rw [undergo_join]
    split
    · exact welcome_opening present
    · exact opening_of_same present rfl rfl
  | leave connection room =>
    dsimp only [undergo]
    rw [leave_eq]
    cases server.registry.unregister room connection.identity.id connection.id with
    | none => exact opening_of_same present rfl rfl
    | some pair =>
      obtain ⟨left, registry⟩ := pair
      dsimp only [Option.map_some, Option.getD_some]
      split
      · refine .quiet rfl ?_
        intro later stored
        change (server.store.remove room).get? id = _ at stored
        rw [RoomStore.get?_remove] at stored
        split at stored
        · cases stored
        · cases present.symm.trans stored
          exact Iff.rfl
      · have silent := registry.filter_broadcast room id
          (.userLeft room connection.identity.id connection.identity.name)
        exact (@makeMove_opening rules fragment { server with registry := registry } room id found
          False (.remove connection.identity.id) _ filed rostered present silent
          (fun _ other => nomatch other)).of_uncalled
  | answer room player text =>
    dsimp only [undergo]
    rw [answer_eq]
    exact makeMove_opening _ filed rostered present rfl (fun _ other => nomatch other)
  | relay room player text =>
    exact opening_of_same present rfl (server.registry.filter_broadcast room id _)
  | wait moment => exact opening_of_same present rfl rfl
  | ring =>
    refine opening_of_same present ?_ rfl
    dsimp only [undergo, Transaction.begin]
    unfold ringDue
    split
    · split
      · rfl
      · rfl
    · rfl
  | call index =>
    dsimp only [undergo]
    cases handed : server.handed[index]? with
    | none =>
      unfold callNth
      rw [handed]
      exact opening_of_same present rfl rfl
    | some callback =>
      cases callback with
      | start room epoch =>
        rw [callNth_start rules fragment handed]
        split
        · rename_i stands
          refine @makeMove_opening rules fragment
            { server with
              handed := server.handed.eraseIdx index
              timers := server.timers.clearCountdown room } room id found _ .start [] filed rostered
            present rfl ?_
          rintro rfl _
          rw [present] at stands
          rw [Option.some.inj stands]
          exact List.mem_of_getElem? handed
        · exact opening_of_same present rfl rfl
      | expire room ticket =>
        rw [callNth_expire rules fragment handed]
        exact @makeMove_opening rules fragment
          { server with
            handed := server.handed.eraseIdx index
            timers := server.timers.clearTurn room ticket.number } room id found _
            (.expire ticket) [] filed rostered present rfl (fun _ other => nomatch other)

theorem broadcast_ne_nil (agrees : (server.site id).Agrees)
    (present : server.store.get? id = some found) (message : ServerMessage) :
    server.registry.broadcast id message ≠ [] := by
  have some : 0 < (server.registry.members id).size :=
    agrees.occupied.mp (Option.isSome_of_eq_some present)
  have length : (server.registry.broadcast id message).length =
      (server.registry.members id).size := by
    unfold Registry.broadcast Table.values
    rw [List.length_map, List.length_map]
    rfl
  rw [← List.length_pos_iff, length]
  exact some

end Server

namespace Chronicle

/-- The openings of games in a room among what happens to a server: the server at each of them, and
what is delivered to open the game. -/
def openings (rules : Rules) (id : RoomId) (server : Server) :
    List (Occurrence × (Nat → String)) → List (Server × List Delivery)
  | [] => []
  | occurrence :: rest =>
    let transaction := server.undergo rules occurrence.2 occurrence.1
    let told := transaction.deliveries.filter (Delivery.opens id)
    (if told.isEmpty then [] else [(server, told)]) ++ openings rules id transaction.server rest

theorem openings_append (rules : Rules) (id : RoomId) (server : Server)
    (first second : List (Occurrence × (Nat → String))) :
    openings rules id server (first ++ second) =
      openings rules id server first ++
        openings rules id ((begin server).run rules first).server second := by
  induction first generalizing server with
  | nil => rfl
  | cons occurrence rest ih =>
    rw [List.cons_append, openings, openings, ih, List.append_assoc, run_cons,
      ← server_run_begin rules ((begin server).step rules occurrence) rest]
    rfl

theorem openings_concat (rules : Rules) (id : RoomId) (server : Server)
    (occurrences : List (Occurrence × (Nat → String))) (occurrence : Occurrence × (Nat → String)) :
    openings rules id server (occurrences ++ [occurrence]) =
      openings rules id server occurrences ++
        let last := ((begin server).run rules occurrences).server
        let told := (last.undergo rules occurrence.2 occurrence.1).deliveries.filter
          (Delivery.opens id)
        if told.isEmpty then [] else [(last, told)] := by
  rw [openings_append, openings, openings, List.append_nil]

end Chronicle

end WordGame
