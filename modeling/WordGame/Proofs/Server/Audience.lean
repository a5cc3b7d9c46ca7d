import WordGame.Proofs.Server.Cut
import WordGame.Proofs.Server.Elsewhere

/-!
Whom a transaction concerns. It leaves the sites of all rooms but its own alone, and delivers to
those who are listed in its own room, or to the connection that it lets in.
-/

namespace WordGame

theorem Queues.queue_deliverAll_of_ne {queues : Queues} {deliveries : List Delivery}
    {id : ConnectionId} (others : ∀ delivery ∈ deliveries, id ≠ delivery.receiver) :
    (queues.deliverAll deliveries).queue id = queues.queue id := by
  unfold deliverAll
  induction deliveries generalizing queues with
  | nil => rfl
  | cons delivery rest ih =>
    rw [List.foldl_cons, ih (fun other member => others other (List.mem_cons_of_mem _ member)),
      queue_deliver, if_neg (others delivery List.mem_cons_self)]

namespace Registry

variable {registry later : Registry} {room query : RoomId} {connection : Connection}
  {id : ConnectionId}

def Lists (registry : Registry) (room : RoomId) (id : ConnectionId) : Prop :=
  ∃ player holder, registry.connection? room player = some holder ∧ holder.id = id

theorem lists_of_mem_broadcast {message : ServerMessage} {delivery : Delivery}
    (member : delivery ∈ registry.broadcast room message) :
    registry.Lists room delivery.receiver := by
  obtain ⟨holder, listed, rfl⟩ := List.mem_map.mp member
  obtain ⟨⟨player, other⟩, entry, rfl⟩ := List.mem_map.mp listed
  exact ⟨player, other, ((registry.members room).mem_entries player other).mp entry, rfl⟩

theorem lists_of_mem_flatMap_broadcast {messages : List ServerMessage} {delivery : Delivery}
    (member : delivery ∈ messages.flatMap (registry.broadcast room)) :
    registry.Lists room delivery.receiver := by
  obtain ⟨message, _, told⟩ := List.mem_flatMap.mp member
  exact lists_of_mem_broadcast told

theorem Quits.lists (quits : registry.Quits room connection later) (listed : later.Lists query id) :
    registry.Lists query id := by
  obtain ⟨player, holder, found, same⟩ := listed
  exact ⟨player, holder, ((quits query player holder).mp found).1, same⟩

theorem Registers.lists (registers : registry.Registers room connection later)
    (listed : later.Lists query id) : registry.Lists query id ∨ id = connection.id := by
  obtain ⟨player, holder, found, same⟩ := listed
  rw [registers.connection?] at found
  split at found
  · cases found
    exact .inr same.symm
  · exact .inl ⟨player, holder, found, same⟩

/-- Whoever is displaced by a connection was listed in the room. -/
theorem lists_of_mem_closing {registration : Registration} {delivery : Delivery}
    (registered : registry.register room connection = .ok (registration, later))
    (member : delivery ∈ registration.closing connection) :
    registry.Lists room delivery.receiver := by
  unfold register at registered
  dsimp only at registered
  cases held : (registry.members room).get? connection.identity.id with
  | some previous =>
    rw [held] at registered
    cases registered
    unfold Registration.closing at member
    dsimp only at member
    split at member
    · cases member
    · cases List.mem_singleton.mp member
      exact ⟨connection.identity.id, previous, held, rfl⟩
  | none =>
    rw [held] at registered
    dsimp only at registered
    split at registered
    · cases registered
    · cases registered
      cases member

end Registry

namespace Server

variable {rules : Rules} {fragment : Nat → String} {server later : Server}
  {connection : Connection} {room : RoomId} {delivery : Delivery}

theorem lists_of_leave {transaction : Transaction}
    (departed : server.leave rules fragment connection room = some transaction)
    (member : delivery ∈ transaction.deliveries) :
    server.registry.Lists room delivery.receiver := by
  obtain ⟨left, registry, unregistered, _, told⟩ := deliveries_leave departed
  have quits := Registry.quits_of_unregister_eq_some unregistered
  rw [told] at member
  split at member
  · cases member
  · rcases List.mem_append.mp member with farewell | report
    · exact quits.lists (Registry.lists_of_mem_broadcast farewell)
    · exact quits.lists (Registry.lists_of_mem_flatMap_broadcast report)

theorem lists_of_answer {player : PlayerId} {text : String}
    (member : delivery ∈ (server.answer rules fragment room player text).deliveries) :
    server.registry.Lists room delivery.receiver := by
  rw [deliveries_answer] at member
  exact Registry.lists_of_mem_flatMap_broadcast member

theorem lists_of_join {objection : Option Refusal} {admission : Admission}
    (admitted : server.join rules objection connection room = .ok admission)
    (member : delivery ∈ admission.transaction.deliveries) :
    server.registry.Lists room delivery.receiver ∨ delivery.receiver = connection.id := by
  obtain ⟨registration, registry, registered, _, told⟩ := deliveries_join admitted
  have registers := Registry.registers_of_ok registered
  rw [told, List.mem_append, List.mem_append] at member
  rcases member with (closing | countdown) | arrival
  · exact .inl (Registry.lists_of_mem_closing registered closing)
  · unfold countdownNews at countdown
    split at countdown
    · exact registers.lists (Registry.lists_of_mem_broadcast countdown)
    · unfold remainingNews at countdown
      dsimp only at countdown
      split at countdown
      · cases List.mem_singleton.mp countdown
        exact .inr rfl
      · cases countdown
  · cases registration with
    | added => exact registers.lists (Registry.lists_of_mem_broadcast arrival)
    | replaced => cases arrival

/-- A step leaves every site alone but that of its own room. -/
theorem Step.site_of_ne {occurrence : Occurrence} {id : RoomId}
    (step : server.Step rules fragment occurrence later)
    (elsewhere : server.room? occurrence ≠ some id) : later.site id = server.site id := by
  have away {room : RoomId} (here : server.room? occurrence = some room) : id ≠ room := by
    intro same
    rw [same] at elsewhere
    exact elsewhere here
  cases step with
  | idle store registry _ recorded =>
    refine site_of_same ?_ ?_ (entry_of_recorded recorded id)
    · rw [store]
    · rw [registry]
  | founded registers =>
    have other := away rfl
    refine site_of_same ?_ ((registers.members id).trans (if_neg other)) ?_
    · dsimp only
      rw [RoomStore.get?_create, if_neg other]
    · dsimp only
      rw [Timers.entry_startCountdown, if_neg other]
  | entered registers =>
    have other := away rfl
    refine site_of_same ?_ ((registers.members id).trans (if_neg other)) rfl
    dsimp only
    rw [RoomStore.get?_put, if_neg other]
  | emptied unregisters =>
    have other := away rfl
    refine site_of_same ?_ ((unregisters.members id).trans (if_neg other)) ?_
    · dsimp only
      rw [RoomStore.get?_remove, if_neg other]
    · dsimp only
      rw [Timers.entry_cancelRoom, if_neg other]
  | parted unregisters =>
    have other := away rfl
    rw [site_played_of_ne _ rules fragment _ _ other]
    exact site_of_same rfl ((unregisters.members id).trans (if_neg other)) rfl
  | strayed unregisters =>
    exact site_of_same rfl ((unregisters.members id).trans (if_neg (away rfl))) rfl
  | answered => exact site_played_of_ne server rules fragment _ _ (away rfl)
  | @started index room found handed =>
    have other : id ≠ room := away (congrArg (Option.map Callback.room) handed)
    rw [site_played_of_ne _ rules fragment _ _ other]
    refine site_of_same rfl rfl ?_
    dsimp only
    rw [Timers.entry_clearCountdown, if_neg other]
  | @expired index room ticket found handed =>
    have other : id ≠ room := away (congrArg (Option.map Callback.room) handed)
    rw [site_played_of_ne _ rules fragment _ _ other]
    refine site_of_same rfl rfl ?_
    dsimp only
    rw [Timers.entry_clearTurn, if_neg other]
  | @outlived index room ticket handed =>
    have other : id ≠ room := away (congrArg (Option.map Callback.room) handed)
    refine site_of_same rfl rfl ?_
    dsimp only
    rw [Timers.entry_clearTurn, if_neg other]

end Server

end WordGame
