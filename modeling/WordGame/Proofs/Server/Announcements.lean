import Mathlib.Data.Finset.Dedup
import Mathlib.Data.Finset.Erase
import Mathlib.Data.Finset.Insert
import WordGame.Proofs.Server.Cut
import WordGame.Proofs.Server.Deliveries

/-!
Who is said to be in a room. Whoever stays in a room hears of everybody who comes and goes there, so
what they hear adds up to who is there; and nothing that they hear is out of place.
-/

namespace WordGame

/-- What a message says of who is in a room. -/
inductive Notice where
  | joined (player : PlayerId)
  | left (player : PlayerId)
  deriving DecidableEq

namespace Notice

/-- Who is there after a notice, unless it is out of place: that somebody comes who is there, or
goes who is not. -/
def update? (present : Finset PlayerId) : Notice → Option (Finset PlayerId)
  | joined player => if player ∈ present then none else some (insert player present)
  | left player => if player ∈ present then some (present.erase player) else none

/-- Who is there after a few notices, all of them in their place. -/
def updateAll? (present : Finset PlayerId) (notices : List Notice) : Option (Finset PlayerId) :=
  notices.foldlM update? present

theorem updateAll?_singleton (present : Finset PlayerId) (notice : Notice) :
    updateAll? present [notice] = notice.update? present := by
  rw [updateAll?, List.foldlM_cons]
  exact bind_pure (notice.update? present)

theorem updateAll?_append (present : Finset PlayerId) (first second : List Notice) :
    updateAll? present (first ++ second) =
      (updateAll? present first).bind fun later => updateAll? later second :=
  List.foldlM_append

end Notice

def ServerMessage.notice? (room : RoomId) : ServerMessage → Option Notice
  | userJoined about player _ => if about = room then some (.joined player) else none
  | userLeft about player _ => if about = room then some (.left player) else none
  | _ => none

def Outbound.notice? (room : RoomId) : Outbound → Option Notice
  | .message said => said.notice? room
  | .close => none

def noticesTo (id : ConnectionId) (room : RoomId) (deliveries : List Delivery) : List Notice :=
  deliveries.filterMap fun delivery =>
    if delivery.receiver = id then delivery.item.notice? room else none

def Registry.players (registry : Registry) (room : RoomId) : Finset PlayerId :=
  (registry.members room).keys.toFinset

theorem noticesTo_append (id : ConnectionId) (room : RoomId) (first second : List Delivery) :
    noticesTo id room (first ++ second) = noticesTo id room first ++ noticesTo id room second :=
  List.filterMap_append

theorem noticesTo_eq_nil {id : ConnectionId} {room : RoomId} {deliveries : List Delivery}
    (silent : ∀ delivery ∈ deliveries, delivery.item.notice? room = none) :
    noticesTo id room deliveries = [] := by
  unfold noticesTo
  rw [List.filterMap_eq_nil_iff]
  intro delivery member
  rw [silent delivery member]
  split
  · rfl
  · rfl

theorem noticesTo_closing (id : ConnectionId) (room : RoomId) (registration : Registration)
    (connection : Connection) : noticesTo id room (registration.closing connection) = [] := by
  apply noticesTo_eq_nil
  intro delivery member
  cases registration with
  | added => cases member
  | replaced previous =>
    unfold Registration.closing at member
    dsimp only at member
    split at member
    · cases member
    · cases List.mem_singleton.mp member
      rfl

theorem ServerMessage.OfGame.notice? {room : RoomId} {message : ServerMessage}
    (ofGame : message.OfGame room) (query : RoomId) : message.notice? query = none := by
  cases ofGame with
  | startGame | nextTurn | answer | turnEnded | gameOver => rfl

namespace Registry

variable {registry later : Registry} {room query : RoomId} {connection : Connection}

theorem mem_players (registry : Registry) (room : RoomId) (player : PlayerId) :
    player ∈ registry.players room ↔ (registry.connection? room player).isSome = true := by
  unfold players
  rw [List.mem_toFinset, Table.mem_keys]
  rfl

theorem mem_players_of_connection? {player : PlayerId}
    (registered : registry.connection? room player = some connection) :
    player ∈ registry.players room := by
  rw [mem_players, registered]
  rfl

theorem players_of_members (same : later.members room = registry.members room) :
    later.players room = registry.players room := by
  unfold players
  rw [same]

theorem Registers.players (registers : registry.Registers room connection later) :
    later.players room = insert connection.identity.id (registry.players room) := by
  ext player
  rw [Finset.mem_insert, mem_players, mem_players, registers.connection?]
  by_cases newcomer : player = connection.identity.id
  · rw [if_pos ⟨rfl, newcomer⟩]
    exact iff_of_true rfl (.inl newcomer)
  · rw [if_neg (fun both => newcomer both.2)]
    exact (or_iff_right newcomer).symm

theorem Unregisters.players {left : Nat}
    (unregisters : registry.Unregisters room connection left later) :
    later.players room = (registry.players room).erase connection.identity.id := by
  ext player
  rw [Finset.mem_erase, mem_players, mem_players, unregisters.connection?]
  by_cases leaver : player = connection.identity.id
  · rw [if_pos ⟨rfl, leaver⟩]
    exact iff_of_false Bool.false_ne_true (fun both => both.1 leaver)
  · rw [if_neg (fun both => leaver both.2)]
    exact (and_iff_right leaver).symm

/-- No other connection that is registered goes by the number of this one. -/
def Distinct (registry : Registry) (connection : Connection) : Prop :=
  ∀ room player holder, registry.connection? room player = some holder →
    holder.id = connection.id → holder = connection ∧ player = connection.identity.id

/-- Whoever is registered in a room is sent what is told there once. -/
theorem noticesTo_broadcast (distinct : registry.Distinct connection)
    (registered : registry.connection? room connection.identity.id = some connection)
    (message : ServerMessage) :
    noticesTo connection.id query (registry.broadcast room message) =
      (message.notice? query).toList := by
  let own (entry : PlayerId × Connection) : Bool := entry.2.id = connection.id
  let entries := (registry.members room).entries
  have listed : entries.filter own = [(connection.identity.id, connection)] := by
    have nodup : entries.Nodup := (registry.members room).nodup_keys.of_map Prod.fst
    apply List.perm_singleton.mp
    apply (List.perm_ext_iff_of_nodup (nodup.filter own) (List.nodup_singleton _)).mpr
    rintro ⟨player, holder⟩
    rw [List.mem_filter, decide_eq_true_eq, List.mem_singleton, Prod.mk.injEq, Table.mem_entries]
    constructor
    · rintro ⟨held, same⟩
      exact (distinct room player holder held same).symm
    · rintro ⟨rfl, rfl⟩
      exact ⟨registered, rfl⟩
  have heard : noticesTo connection.id query (registry.broadcast room message) =
      (entries.filter own).filterMap fun _ => message.notice? query := by
    unfold noticesTo broadcast Table.values
    rw [List.filterMap_map, List.filterMap_map, List.filterMap_filter]
    refine List.filterMap_congr (fun entry _ => ?_)
    simp [own, Outbound.notice?]
  rw [heard, listed]
  cases message.notice? query with
  | none => rfl
  | some notice => rfl

theorem registered_of_ok {registration : Registration}
    (registered : registry.register room connection = .ok (registration, later)) :
    match registration with
    | .added => connection.identity.id ∉ registry.players room
    | .replaced _ => connection.identity.id ∈ registry.players room := by
  unfold register at registered
  dsimp only at registered
  cases held : (registry.members room).get? connection.identity.id with
  | some previous =>
    rw [held] at registered
    cases registered
    exact mem_players_of_connection? held
  | none =>
    rw [held] at registered
    dsimp only at registered
    split at registered
    · cases registered
    · cases registered
      change connection.identity.id ∉ registry.players room
      rw [mem_players]
      unfold connection?
      rw [held]
      exact Bool.false_ne_true

theorem noticesTo_broadcast_of_silent {message : ServerMessage} (id : ConnectionId)
    (silent : message.notice? query = none) :
    noticesTo id query (registry.broadcast room message) = [] := by
  apply noticesTo_eq_nil
  intro delivery member
  rw [item_of_mem_broadcast member]
  exact silent

theorem noticesTo_flatMap_broadcast {messages : List ServerMessage} (id : ConnectionId)
    (silent : ∀ message ∈ messages, message.notice? query = none) :
    noticesTo id query (messages.flatMap (registry.broadcast room)) = [] := by
  apply noticesTo_eq_nil
  intro delivery member
  obtain ⟨message, told, member⟩ := List.mem_flatMap.mp member
  rw [item_of_mem_broadcast member]
  exact silent message told

end Registry

namespace Server

variable {rules : Rules} {fragment : Nat → String} {server : Server}
  {room query : RoomId} {connection observer : Connection}

theorem noticesTo_countdownNews (id : ConnectionId) (registry : Registry) :
    noticesTo id query (countdownNews rules server registry connection room) = [] := by
  unfold countdownNews
  cases server.store.get? room with
  | none => exact Registry.noticesTo_broadcast_of_silent id rfl
  | some found =>
    apply noticesTo_eq_nil
    intro delivery member
    unfold remainingNews at member
    dsimp only at member
    split at member
    · cases List.mem_singleton.mp member
      rfl
    · cases member

theorem noticesTo_said (id : ConnectionId) (registry : Registry) {move : Move}
    (filed : server.Filed) :
    noticesTo id query
      ((server.said rules fragment room move).flatMap (registry.broadcast room)) = [] :=
  Registry.noticesTo_flatMap_broadcast id
    (fun _ member => (said_ofGame filed member).notice? query)

/-- What an observer is told of a transaction adds up to who is there after it. -/
def Informs (server : Server) (observer : Connection) (room : RoomId)
    (transaction : Transaction) : Prop :=
  Notice.updateAll? (server.registry.players room)
      (noticesTo observer.id room transaction.deliveries) =
    some (transaction.server.registry.players room)

theorem informs_of_silent {transaction : Transaction}
    (same : transaction.server.registry.players room = server.registry.players room)
    (silent : noticesTo observer.id room transaction.deliveries = []) :
    server.Informs observer room transaction := by
  unfold Informs
  rw [silent, same]
  rfl

theorem join_informs {objection : Option Refusal} {admission : Admission}
    (admitted : server.join rules objection connection query = .ok admission)
    (distinct : admission.transaction.server.registry.Distinct observer)
    (stays : admission.transaction.server.registry.connection? room observer.identity.id =
      some observer) :
    server.Informs observer room admission.transaction := by
  obtain ⟨registration, registry, registered, later, told⟩ := deliveries_join admitted
  have registers := Registry.registers_of_ok registered
  have known := Registry.registered_of_ok registered
  have notices : noticesTo observer.id room admission.transaction.deliveries =
      noticesTo observer.id room (arrivalNews registry connection query registration) := by
    rw [told, noticesTo_append, noticesTo_append, noticesTo_closing, noticesTo_countdownNews]
    rfl
  rw [later] at distinct stays
  by_cases here : query = room
  · subst here
    cases registration with
    | added =>
      have heard : noticesTo observer.id query (arrivalNews registry connection query .added) =
          [.joined connection.identity.id] := by
        rw [arrivalNews, Registry.noticesTo_broadcast distinct stays, ServerMessage.notice?,
          if_pos rfl]
        rfl
      unfold Informs
      rw [notices, heard, later, registers.players, Notice.updateAll?_singleton]
      exact if_neg known
    | replaced previous =>
      refine informs_of_silent ?_ notices
      rw [later, registers.players]
      exact Finset.insert_eq_self.mpr known
  · refine informs_of_silent ?_ ?_
    · rw [later]
      apply Registry.players_of_members
      rw [registers.members, if_neg (Ne.symm here)]
    · rw [notices]
      cases registration with
      | added => exact Registry.noticesTo_broadcast_of_silent _ (if_neg here)
      | replaced previous => rfl

/-- The observer stays, so the room goes on after whoever leaves it. -/
theorem leave_informs {transaction : Transaction} (filed : server.Filed)
    (departed : server.leave rules fragment connection query = some transaction)
    (distinct : transaction.server.registry.Distinct observer)
    (stays : transaction.server.registry.connection? room observer.identity.id = some observer) :
    server.Informs observer room transaction := by
  obtain ⟨left, registry, unregistered, later, told⟩ := deliveries_leave departed
  have unregisters := Registry.unregisters_of_some unregistered
  rw [later] at distinct stays
  by_cases here : query = room
  · subst here
    have others : left ≠ 0 := by
      have some : 0 < registry.count query :=
        ((registry.members query).size_pos_iff).mpr
          ⟨observer.identity.id, Option.isSome_of_eq_some stays⟩
      rw [unregisters.left]
      exact Nat.ne_of_gt some
    have heard : noticesTo observer.id query transaction.deliveries =
        [.left connection.identity.id] := by
      rw [told, if_neg others, noticesTo_append, noticesTo_said observer.id registry filed,
        Registry.noticesTo_broadcast distinct stays, ServerMessage.notice?, if_pos rfl]
      rfl
    have known : connection.identity.id ∈ server.registry.players query := by
      have held := (server.registry.unregister_isSome_iff query connection).mp
        (Option.isSome_of_eq_some unregistered)
      obtain ⟨holder, listed, _⟩ := Option.map_eq_some_iff.mp held
      exact Registry.mem_players_of_connection? listed
    unfold Informs
    rw [heard, later, unregisters.players, Notice.updateAll?_singleton]
    exact if_pos known
  · refine informs_of_silent ?_ ?_
    · rw [later]
      apply Registry.players_of_members
      rw [unregisters.members, if_neg (Ne.symm here)]
    · have elsewhere : (ServerMessage.userLeft query connection.identity.id
          connection.identity.name).notice? room = none := if_neg here
      rw [told]
      split
      · rfl
      · rw [noticesTo_append, noticesTo_said observer.id registry filed,
          Registry.noticesTo_broadcast_of_silent _ elsewhere]
        rfl

theorem callNth_informs (server : Server) (observer : Connection) (room : RoomId) (index : Nat)
    (filed : server.Filed) :
    server.Informs observer room (server.callNth rules fragment index) := by
  refine informs_of_silent (congrArg (Registry.players · room)
    (server.registry_callNth rules fragment index)) ?_
  unfold callNth
  cases server.handed[index]? with
  | none => rfl
  | some callback =>
    cases callback with
    | start query epoch =>
      dsimp only [call]
      rw [deliveries_startGame]
      split
      · exact noticesTo_said observer.id server.registry filed
      · rfl
    | expire query ticket =>
      dsimp only [call]
      rw [deliveries_endTurn]
      exact noticesTo_said observer.id server.registry filed

/-- What an observer hears of whatever happens adds up to who is there after it. -/
theorem undergo_informs (server : Server) (occurrence : Occurrence) (filed : server.Filed)
    (distinct : (server.undergo rules fragment occurrence).server.registry.Distinct observer)
    (stays : (server.undergo rules fragment occurrence).server.registry.connection? room
      observer.identity.id = some observer) :
    server.Informs observer room (server.undergo rules fragment occurrence) := by
  cases occurrence with
  | join connection query objection =>
    dsimp only [undergo] at distinct stays ⊢
    cases admitted : server.join rules objection connection query with
    | error refusal => exact informs_of_silent rfl rfl
    | ok admission =>
      rw [admitted] at distinct stays
      exact join_informs admitted distinct stays
  | leave connection query =>
    dsimp only [undergo] at distinct stays ⊢
    cases departed : server.leave rules fragment connection query with
    | none => exact informs_of_silent rfl rfl
    | some transaction =>
      rw [departed] at distinct stays
      exact leave_informs filed departed distinct stays
  | answer query player text =>
    refine informs_of_silent (congrArg (Registry.players · room)
      (server.registry_answer rules fragment query player text)) ?_
    dsimp only [undergo]
    rw [deliveries_answer]
    exact noticesTo_said observer.id server.registry filed
  | relay query player text =>
    exact informs_of_silent rfl (Registry.noticesTo_broadcast_of_silent _ rfl)
  | wait moment => exact informs_of_silent rfl rfl
  | ring =>
    exact informs_of_silent (congrArg (Registry.players · room) server.registry_ringDue) rfl
  | call index => exact server.callNth_informs observer room index filed

/-- Whoever is registered has joined, or was registered before. -/
theorem Step.registered {occurrence : Occurrence} {later : Server}
    (step : server.Step rules fragment occurrence later) {player : PlayerId} {holder : Connection}
    (registered : later.registry.connection? room player = some holder) :
    server.registry.connection? room player = some holder ∨
      (∃ objection, occurrence = .join holder room objection) ∧ player = holder.identity.id := by
  have joined {connection : Connection} {query : RoomId} {registry : Registry}
      (registers : server.registry.Registers query connection registry)
      (registered : registry.connection? room player = some holder) :
      server.registry.connection? room player = some holder ∨
        (∃ objection, Occurrence.join connection query none = .join holder room objection) ∧
          player = holder.identity.id := by
    rw [registers.connection?] at registered
    split at registered
    · rename_i own
      obtain ⟨rfl, same⟩ := own
      cases registered
      exact .inr ⟨⟨none, rfl⟩, same⟩
    · exact .inl registered
  have left {connection : Connection} {query : RoomId} {registry : Registry} {left : Nat}
      (unregisters : server.registry.Unregisters query connection left registry)
      (registered : registry.connection? room player = some holder) :
      server.registry.connection? room player = some holder := by
    rw [unregisters.connection?] at registered
    split at registered
    · cases registered
    · exact registered
  cases step with
  | idle _ registry =>
    rw [registry] at registered
    exact .inl registered
  | founded registers | entered registers => exact joined registers registered
  | emptied unregisters | parted unregisters | strayed unregisters =>
    exact .inl (left unregisters registered)
  | answered | started | expired | outlived => exact .inl registered

end Server

namespace Chronicle

/-- The connections with which somebody has tried to join a room. -/
def attendees (occurrences : List (Occurrence × (Nat → String))) : List Connection :=
  occurrences.filterMap fun occurrence =>
    match occurrence.1 with
    | .join connection _ _ => some connection
    | _ => none

theorem mem_attendees_of_join {occurrences : List (Occurrence × (Nat → String))}
    {connection : Connection} {room : RoomId} {objection : Option Refusal} {fragment : Nat → String}
    (joined : (.join connection room objection, fragment) ∈ occurrences) :
    connection ∈ attendees occurrences :=
  List.mem_filterMap.mpr ⟨_, joined, rfl⟩

theorem run_registered (rules : Rules) (occurrences : List (Occurrence × (Nat → String)))
    {room : RoomId} {player : PlayerId} {holder : Connection}
    (registered : ((begin (.initial rules.config)).run rules
      occurrences).server.registry.connection? room player = some holder) :
    holder ∈ attendees occurrences ∧ player = holder.identity.id := by
  induction occurrences using List.reverseRecOn with
  | nil => cases registered
  | append_singleton seen occurrence ih =>
    rw [run_append] at registered
    obtain ⟨occurrence, fragment⟩ := occurrence
    let earlier := (begin (.initial rules.config)).run rules seen
    have step := earlier.server.undergo_step rules fragment occurrence
    rw [attendees, List.filterMap_append, List.mem_append]
    rcases step.registered registered with before | ⟨⟨objection, rfl⟩, own⟩
    · exact ⟨.inl (ih before).1, (ih before).2⟩
    · exact ⟨.inr (List.mem_singleton.mpr rfl), own⟩

/-- Whoever stays in a room after joining it hears of every player who comes and of every player who
goes, and of nobody else: by what they have heard, they know who is there, at any time. -/
theorem presence_is_announced (rules : Rules) (before after : List (Occurrence × (Nat → String)))
    (observer : Connection) (room : RoomId) (objection : Option Refusal) (fragment : Nat → String)
    (distinct : ∀ one ∈ attendees (before ++ (.join observer room objection, fragment) :: after),
      ∀ other ∈ attendees (before ++ (.join observer room objection, fragment) :: after),
        one.id = other.id → one = other) :
    let joined := ((begin (.initial rules.config)).run rules
      (before ++ [(.join observer room objection, fragment)])).server
    (∀ seen, seen <+: after →
      ((begin joined).run rules seen).server.registry.connection? room
        observer.identity.id = some observer) →
      ∀ seen, seen <+: after →
        let later := (begin joined).run rules seen
        Notice.updateAll? (joined.registry.players room)
            (noticesTo observer.id room later.deliveries) =
          some (later.server.registry.players room) := by
  intro joined stays seen
  have whole (seen : List (Occurrence × (Nat → String))) :
      ((begin joined).run rules seen).server =
        ((begin (.initial rules.config)).run rules
          (before ++ [(.join observer room objection, fragment)] ++ seen)).server := by
    rw [run_append, server_run_begin]
  have unique (seen : List (Occurrence × (Nat → String))) (early : seen <+: after) :
      ((begin joined).run rules seen).server.registry.Distinct observer := by
    intro query player holder registered same
    rw [whole] at registered
    obtain ⟨attends, own⟩ := run_registered rules _ registered
    have part : before ++ [(.join observer room objection, fragment)] ++ seen <+:
        before ++ (.join observer room objection, fragment) :: after := by
      rw [List.append_assoc, List.prefix_append_right_inj]
      exact (List.prefix_append_right_inj [(.join observer room objection, fragment)]).mpr early
    have own_join : observer ∈
        attendees (before ++ (.join observer room objection, fragment) :: after) :=
      mem_attendees_of_join (List.mem_append_right before List.mem_cons_self)
    cases distinct holder ((part.sublist.filterMap _).subset attends) observer own_join same
    exact ⟨rfl, own⟩
  -- Induction on what has happened so far: each step adds what it tells to what was heard before.
  induction seen using List.reverseRecOn with
  | nil => exact fun _ => rfl
  | append_singleton seen occurrence ih =>
    intro early
    have earlier : seen <+: after := (List.prefix_append seen [occurrence]).trans early
    obtain ⟨occurrence, fragment⟩ := occurrence
    let server := ((begin joined).run rules seen).server
    have filed : server.Filed := by
      dsimp only [server]
      rw [whole]
      exact run_filed rules _
    have distinct := unique _ early
    have stays := stays _ early
    rw [run_append] at distinct stays ⊢
    have informs := server.undergo_informs occurrence filed distinct stays
    intro later
    have heard : noticesTo observer.id room later.deliveries =
        noticesTo observer.id room ((begin joined).run rules seen).deliveries ++
          noticesTo observer.id room (server.undergo rules fragment occurrence).deliveries :=
      noticesTo_append _ _ _ _
    rw [heard, Notice.updateAll?_append, ih earlier]
    exact informs

/-- A game is running in a room of three when one of them comes back on another connection, the old
one is taken out late, and the new one leaves and comes again. -/
theorem presence_is_announced_of_returns :
    let rules : Rules := ⟨{}, ⟨fun _ => false, fun _ _ => false⟩⟩
    let observer : Connection := ⟨1, ⟨10, "one", false⟩⟩
    let two : Connection := ⟨2, ⟨20, "two", false⟩⟩
    let three : Connection := ⟨3, ⟨30, "three", false⟩⟩
    let moves : List Occurrence :=
      [.join two 7 none, .wait 120000, .ring, .call 0, .join three 7 none,
        .join { two with id := 4 } 7 none, .leave two 7, .leave { two with id := 4 } 7,
        .join { two with id := 5 } 7 none]
    let occurrences := moves.map fun move => (move, fun _ => "the")
    let earlier : List (Occurrence × (Nat → String)) := [(.join two 8 none, fun _ => "the")]
    let joined := ((begin (.initial rules.config)).run rules
      (earlier ++ [(.join observer 7 none, fun _ => "the")])).server
    let later := (begin joined).run rules occurrences
    joined.registry.players 7 = {10} ∧
      noticesTo observer.id 7 later.deliveries = [.joined 20, .joined 30, .left 20, .joined 20] ∧
      later.server.registry.players 7 = {10, 20, 30} ∧
      Notice.updateAll? (joined.registry.players 7) (noticesTo observer.id 7 later.deliveries) =
        some (later.server.registry.players 7) := by
  intro rules observer two three moves occurrences earlier
  refine ⟨by decide +kernel, by decide +kernel, by decide +kernel, ?_⟩
  apply presence_is_announced rules earlier occurrences observer 7 none (fun _ => "the")
    (by decide +kernel)
  · intro seen early
    rw [List.prefix_iff_eq_take.mp early]
    have short := early.length_le
    generalize seen.length = count at short ⊢
    revert count
    decide +kernel
  · exact List.prefix_refl occurrences

end Chronicle

end WordGame
