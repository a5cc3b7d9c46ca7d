import WordGame.Proofs.Server.Cut
import WordGame.Proofs.Server.News
import WordGame.Proofs.Server.Plan
import WordGame.Server.Traffic

/-!
What can become of the traffic at an event, and what holds of all traffic: no two parcels of whoever
holds the gate go to one receiver. With nobody in between, transactions do what they do at once.
-/

namespace WordGame

def Event.joiner? : Event → Option Connection
  | .occur (.join connection _ _) _ => some connection
  | _ => none

def joiners (events : List Event) : List Connection := events.filterMap Event.joiner?

/-- No two connections go by one number. -/
def OwnIds (connections : List Connection) : Prop :=
  ∀ one ∈ connections, ∀ other ∈ connections, one.id = other.id → one = other

theorem joins_of_cons {event : Event} {events : List Event} {known : List Connection}
    (joins : ∀ connection ∈ joiners (event :: events), connection ∈ known) :
    (∀ connection, event.joiner? = some connection → connection ∈ known) ∧
      ∀ connection ∈ joiners events, connection ∈ known := by
  constructor
  · intro connection joining
    exact joins connection (List.mem_filterMap.mpr ⟨event, List.mem_cons_self, joining⟩)
  · intro connection member
    exact joins connection (((List.sublist_cons_self event events).filterMap _).subset member)

namespace Registry

variable {registry : Registry} {known : List Connection} {broadcast : Broadcast} {parcel : Parcel}

theorem mem_parcels :
    parcel ∈ registry.parcels broadcast ↔ parcel.broadcast = broadcast ∧
      ∃ player holder, registry.connection? broadcast.room player = some holder ∧
        holder.id = parcel.receiver := by
  obtain ⟨about, receiver⟩ := parcel
  unfold parcels Registry.broadcast Table.values
  simp only [List.map_map, List.mem_map, Function.comp_apply, Prod.exists, Table.mem_entries,
    Parcel.mk.injEq]
  constructor
  · rintro ⟨player, holder, registered, same, own⟩
    exact ⟨same.symm, player, holder, registered, own⟩
  · rintro ⟨same, player, holder, registered, own⟩
    exact ⟨player, holder, registered, same.symm, own⟩

/-- No two parcels of a broadcast go to one receiver. -/
theorem nodup_receivers (within : registry.Within known)
    (unique : OwnIds known) :
    ((registry.parcels broadcast).map Parcel.receiver).Nodup := by
  let entries := (registry.members broadcast.room).entries
  have receivers : (registry.parcels broadcast).map Parcel.receiver =
      entries.map fun entry => entry.2.id := by
    unfold parcels Registry.broadcast Table.values
    rw [List.map_map, List.map_map, List.map_map]
    rfl
  have nodup : entries.Nodup := (registry.members broadcast.room).nodup_keys.of_map Prod.fst
  rw [receivers]
  apply nodup.map_on
  rintro ⟨onePlayer, one⟩ oneListed ⟨otherPlayer, other⟩ otherListed same
  obtain ⟨oneKnown, rfl⟩ :=
    within broadcast.room onePlayer one ((Table.mem_entries _ _ _).mp oneListed)
  obtain ⟨otherKnown, rfl⟩ :=
    within broadcast.room otherPlayer other ((Table.mem_entries _ _ _).mp otherListed)
  cases unique one oneKnown other otherKnown same
  rfl

end Registry

namespace Traffic

inductive Reacts (rules : Rules) (traffic : Traffic) : Event → Traffic → List Note → Prop
  /-- At most time goes by. -/
  | elapsed {event : Event} (server : Server)
      (registry : server.registry = traffic.server.registry) :
      Reacts rules traffic event { traffic with server := server } []
  | entered {occurrence : Occurrence} {fragment : Nat → String} {server : Server} {plan : Plan}
      (free : traffic.gate = none)
      (planned : traffic.server.plan? rules fragment occurrence = some (server, plan)) :
      Reacts rules traffic (.occur occurrence fragment)
        { traffic with server := server, gate := some plan } []
  | finished (held : traffic.gate = some .done) :
      Reacts rules traffic .proceed { traffic with gate := none } []
  | stepped {act : Server → Server} {next : Server → Plan}
      (held : traffic.gate = some (.step act next)) :
      Reacts rules traffic .proceed
        { traffic with server := act traffic.server, gate := some (next traffic.server) } []
  | changed {room : RoomId} {act : Server → Change} {next : Server → Plan}
      (held : traffic.gate = some (.change room act next)) :
      Reacts rules traffic .proceed
        { traffic with server := (act traffic.server).server, gate := some (next traffic.server) }
        [.changed room (act traffic.server).news]
  | sent {delivery : Delivery} {next : Plan} (held : traffic.gate = some (.send delivery next)) :
      Reacts rules traffic .proceed
        { traffic with gate := some next, queues := traffic.queues.deliver delivery }
        (traffic.noted delivery (.posted delivery))
  | told {room : RoomId} {message : ServerMessage} {next : Plan} {broadcast : Broadcast}
      (held : traffic.gate = some (.tell room message next)) (quiet : traffic.isTelling = false)
      (new : broadcast = ⟨traffic.broadcasts, room, message, true⟩) :
      Reacts rules traffic .proceed
        { traffic with
          gate := some next
          parcels := traffic.parcels ++ traffic.server.registry.parcels broadcast
          broadcasts := traffic.broadcasts + 1 }
        [.told broadcast]
  | relayed {room : RoomId} {player : PlayerId} {text : String} {fragment : Nat → String}
      {broadcast : Broadcast}
      (new : broadcast = ⟨traffic.broadcasts, room, .typing room player text, false⟩) :
      Reacts rules traffic (.occur (.relay room player text) fragment)
        { traffic with
          parcels := traffic.parcels ++ traffic.server.registry.parcels broadcast
          broadcasts := traffic.broadcasts + 1 }
        [.told broadcast]
  | cut {plan : Plan} (held : traffic.gate = some plan) :
      Reacts rules traffic .cut { traffic with gate := none } [.cut]
  | passed {index : Nat} {parcel : Parcel} (listed : traffic.parcels[index]? = some parcel) :
      Reacts rules traffic (.pass index)
        { traffic with
          parcels := traffic.parcels.eraseIdx index
          queues := traffic.queues.deliver parcel.delivery }
        (traffic.noted parcel.delivery (.put parcel))
  | posted {delivery : Delivery} :
      Reacts rules traffic (.send delivery)
        { traffic with queues := traffic.queues.deliver delivery }
        (traffic.noted delivery (.posted delivery))
  | connected {id : ConnectionId} (absent : traffic.queues.contains id = false) :
      Reacts rules traffic (.connect id)
        { traffic with queues := traffic.queues.insert id .fresh } []
  | received {id : ConnectionId} {item : Outbound} {queue : Queue}
      (took : (traffic.queues.queue id).receive true = (.item item, queue)) :
      Reacts rules traffic (.receive id)
        { traffic with queues := traffic.queues.insert id queue } [.taken id item]
  | deserted {id : ConnectionId} :
      Reacts rules traffic (.desert id)
        { traffic with queues := traffic.queues.insert id (traffic.queues.queue id).desert } []

variable {rules : Rules} {traffic next : Traffic} {event : Event}
  {notes : List Note} {known : List Connection}

theorem proceed_reacts {plan : Plan} (held : traffic.gate = some plan)
    (quiet : traffic.isTelling = false) :
    Reacts rules traffic .proceed (traffic.proceed plan).1 (traffic.proceed plan).2 := by
  cases plan with
  | done => exact .finished held
  | step act next => exact .stepped held
  | change room act next => exact .changed held
  | send delivery next => exact .sent held
  | tell room message next => exact .told held quiet rfl

theorem occur_reacts (traffic : Traffic) (occurrence : Occurrence) (fragment : Nat → String) :
    Reacts rules traffic (.occur occurrence fragment)
      (traffic.occur rules fragment occurrence).1
      (traffic.occur rules fragment occurrence).2 := by
  cases occurrence with
  | relay room player text => exact .relayed rfl
  | wait moment => exact .elapsed _ rfl
  | ring => exact .elapsed _ traffic.server.registry_ringDue
  | join | leave | answer | call =>
    unfold occur
    dsimp only
    split
    · rename_i free planned
      exact .entered free planned
    · exact .elapsed traffic.server rfl

theorem react_reacts (rules : Rules) (traffic : Traffic) (event : Event) :
    Reacts rules traffic event (traffic.react rules event).1
      (traffic.react rules event).2 := by
  have idle (event : Event) : Reacts rules traffic event traffic [] :=
    .elapsed traffic.server rfl
  cases event with
  | occur occurrence fragment => exact traffic.occur_reacts occurrence fragment
  | proceed =>
    unfold react
    dsimp only
    split
    · rename_i plan held
      split
      · exact idle .proceed
      · rename_i quiet
        exact proceed_reacts held (Bool.not_eq_true _ ▸ quiet)
    · exact idle .proceed
  | cut =>
    unfold react
    dsimp only
    split
    · rename_i plan held
      split
      · exact idle .cut
      · exact .cut held
    · exact idle .cut
  | pass index =>
    unfold react
    dsimp only
    split
    · rename_i parcel listed
      exact .passed listed
    · exact idle (.pass index)
  | send delivery => exact .posted
  | connect id =>
    unfold react
    dsimp only
    split
    · exact idle (.connect id)
    · rename_i absent
      exact .connected (Bool.not_eq_true _ ▸ absent)
  | receive id =>
    unfold react
    dsimp only
    split
    · rename_i item queue took
      exact .received took
    · exact idle (.receive id)
  | desert id => exact .deserted

/-- What holds of traffic in which nobody joins but the connections that are known. -/
structure Sound (known : List Connection) (traffic : Traffic) : Prop where
  within : traffic.server.registry.Within known
  admits : ∀ plan, traffic.gate = some plan → plan.Admits known
  /-- No two parcels of whoever holds the gate go to one receiver. -/
  receivers : ((traffic.parcels.filter (·.broadcast.gated)).map Parcel.receiver).Nodup

theorem sound_initial (known : List Connection) (config : GameConfig) :
    (initial config).Sound known where
  within := fun _ _ _ registered => nomatch registered
  admits := fun _ held => nomatch held
  receivers := List.nodup_nil

theorem filter_gated_of_quiet (quiet : traffic.isTelling = false) :
    traffic.parcels.filter (·.broadcast.gated) = [] := by
  rw [List.filter_eq_nil_iff]
  exact List.any_eq_false.mp quiet

/-- The parcels of a broadcast are those of whoever holds the gate, or none of them is. -/
theorem filter_gated_parcels (registry : Registry) (broadcast : Broadcast) :
    (registry.parcels broadcast).filter (·.broadcast.gated) =
      if broadcast.gated then registry.parcels broadcast else [] := by
  split
  · rename_i gated
    rw [List.filter_eq_self]
    intro parcel member
    rw [(Registry.mem_parcels.mp member).1]
    exact gated
  · rename_i free
    rw [List.filter_eq_nil_iff]
    intro parcel member
    rw [(Registry.mem_parcels.mp member).1]
    exact free

theorem Reacts.sound (reacts : Reacts rules traffic event next notes) (sound : traffic.Sound known)
    (unique : OwnIds known)
    (joins : ∀ connection, event.joiner? = some connection → connection ∈ known) :
    next.Sound known := by
  obtain ⟨within, admits, receivers⟩ := sound
  cases reacts with
  | elapsed server registry => exact ⟨registry ▸ within, admits, receivers⟩
  | entered free planned =>
    refine ⟨?_, ?_, receivers⟩
    · rw [Server.registry_of_plan planned]
      exact within
    · rintro _ ⟨⟩
      exact Server.admits_plan planned fun connection room same => joins connection (same ▸ rfl)
  | finished held | cut held => exact ⟨within, (fun _ free => nomatch free), receivers⟩
  | stepped held =>
    cases admits _ held with
    | step keeps rest =>
      refine ⟨keeps _ within, ?_, receivers⟩
      rintro _ ⟨⟩
      exact rest _
  | changed held =>
    cases admits _ held with
    | change keeps rest =>
      refine ⟨?_, ?_, receivers⟩
      · rw [keeps]
        exact within
      · rintro _ ⟨⟩
        exact rest _
  | sent held =>
    cases admits _ held with
    | send rest =>
      refine ⟨within, ?_, receivers⟩
      rintro _ ⟨⟩
      exact rest
  | @told _ _ _ broadcast held quiet new =>
    cases admits _ held with
    | tell rest =>
      refine ⟨within, ?_, ?_⟩
      · rintro _ ⟨⟩
        exact rest
      · rw [List.filter_append, filter_gated_of_quiet quiet, List.nil_append,
          filter_gated_parcels _ broadcast, if_pos (new ▸ rfl)]
        exact Registry.nodup_receivers within unique
  | @relayed _ _ _ _ broadcast new =>
    refine ⟨within, admits, ?_⟩
    rw [List.filter_append, filter_gated_parcels _ broadcast, if_neg (by simp [new]),
      List.append_nil]
    exact receivers
  | passed listed =>
    refine ⟨within, admits, ?_⟩
    exact receivers.sublist (((List.eraseIdx_sublist _ _).filter _).map _)
  | posted | connected | received | deserted => exact ⟨within, admits, receivers⟩

theorem after_sound {events : List Event} (sound : traffic.Sound known)
    (unique : OwnIds known)
    (joins : ∀ connection ∈ joiners events, connection ∈ known) :
    (traffic.after rules events).Sound known := by
  induction events generalizing traffic with
  | nil => exact sound
  | cons event rest ih =>
    have now := joins_of_cons joins
    exact ih ((traffic.react_reacts rules event).sound sound unique now.1) now.2

/-! ### Transactions with nobody in between -/

theorem after_passes (parcels : List Parcel) (listed : traffic.parcels = parcels) :
    traffic.after rules (List.replicate parcels.length (.pass 0)) =
      { traffic with
        parcels := []
        queues := traffic.queues.deliverAll (parcels.map Parcel.delivery) } := by
  induction parcels generalizing traffic with
  | nil =>
    obtain ⟨server, queues, gate, _, broadcasts⟩ := traffic
    cases listed
    rfl
  | cons parcel rest ih =>
    obtain ⟨server, queues, gate, _, broadcasts⟩ := traffic
    cases listed
    exact ih rfl

theorem map_delivery_parcels (registry : Registry) (broadcast : Broadcast) :
    (registry.parcels broadcast).map Parcel.delivery =
      registry.broadcast broadcast.room broadcast.message := by
  unfold Registry.parcels
  rw [List.map_map]
  refine (List.map_congr_left fun delivery member => ?_).trans (List.map_id _)
  obtain ⟨receiver, item⟩ := delivery
  cases Registry.item_of_mem_broadcast member
  rfl

/-- The gate can become free with a server and with deliveries that are all made by then. -/
def Completes (rules : Rules) (traffic : Traffic) (server : Server)
    (deliveries : List Delivery) : Prop :=
  ∃ events,
    let later := traffic.after rules events
    later.server = server ∧ later.queues = traffic.queues.deliverAll deliveries ∧
      later.gate = none ∧ later.parcels = []

theorem Completes.later {server : Server} {late : List Delivery}
    (completes : next.Completes rules server late) {events : List Event}
    (begun : traffic.after rules events = next) (early : List Delivery)
    (delivered : next.queues = traffic.queues.deliverAll early) :
    traffic.Completes rules server (early ++ late) := by
  obtain ⟨rest, sameServer, queues, free, clear⟩ := completes
  refine ⟨events ++ rest, ?_⟩
  rw [after_append, begun]
  refine ⟨sameServer, ?_, free, clear⟩
  rw [queues, delivered]
  exact List.foldl_append.symm

theorem after_proceed {plan : Plan} (held : traffic.gate = some plan)
    (clear : traffic.parcels = []) :
    traffic.after rules [.proceed] = (traffic.proceed plan).1 := by
  have quiet : traffic.isTelling = false := by
    unfold isTelling
    rw [clear]
    rfl
  simp [react, held, quiet]

/-- A plan can be done with nobody in between. Then it does what its run does. -/
theorem completes_of_plan (plan : Plan) (held : traffic.gate = some plan)
    (clear : traffic.parcels = []) :
    traffic.Completes rules (plan.run traffic.server).1 (plan.run traffic.server).2 := by
  induction plan generalizing traffic with
  | done =>
    refine ⟨[.proceed], ?_⟩
    rw [after_proceed held clear]
    exact ⟨rfl, rfl, rfl, clear⟩
  | step act next ih =>
    let later := (traffic.proceed (.step act next)).1
    have rest : later.Completes rules _ _ := ih traffic.server rfl clear
    exact rest.later (after_proceed held clear) [] rfl
  | change room act next ih =>
    let later := (traffic.proceed (.change room act next)).1
    have rest : later.Completes rules _ _ := ih traffic.server rfl clear
    exact rest.later (after_proceed held clear) [] rfl
  | send delivery next ih =>
    let later := (traffic.proceed (.send delivery next)).1
    have rest : later.Completes rules _ _ := ih rfl clear
    exact rest.later (after_proceed held clear) [delivery] rfl
  | tell room message next ih =>
    let broadcast : Broadcast := ⟨traffic.broadcasts, room, message, true⟩
    let parcels := traffic.server.registry.parcels broadcast
    let told := (traffic.proceed (.tell room message next)).1
    have listed : told.parcels = parcels := by
      change traffic.parcels ++ parcels = parcels
      rw [clear, List.nil_append]
    let passed : Traffic := { told with
      parcels := [], queues := told.queues.deliverAll (parcels.map Parcel.delivery) }
    have begun : traffic.after rules
        ([.proceed] ++ List.replicate parcels.length (.pass 0)) = passed := by
      rw [after_append, after_proceed held clear]
      exact after_passes parcels listed
    have delivered :
        passed.queues = traffic.queues.deliverAll (traffic.server.registry.broadcast room message) :=
      congrArg traffic.queues.deliverAll (map_delivery_parcels traffic.server.registry broadcast)
    have rest : passed.Completes rules _ _ := ih rfl rfl
    exact rest.later begun _ delivered

/-- A transaction can be done with nobody in between, and then does to the server and to the queues
what happens at its occurrence. -/
theorem completes_of_occurrence {occurrence : Occurrence} {fragment : Nat → String}
    {start : Server} {plan : Plan}
    (planned : traffic.server.plan? rules fragment occurrence = some (start, plan))
    (free : traffic.gate = none) (clear : traffic.parcels = []) :
    let transaction := traffic.server.undergo rules fragment occurrence
    traffic.Completes rules transaction.server transaction.deliveries := by
  have entered : traffic.after rules [.occur occurrence fragment] =
      { traffic with server := start, gate := some plan } := by
    rw [after_cons, after_nil]
    cases occurrence with
    | join | leave | answer | call => simp [react, occur, free, planned]
    | relay | wait | ring => cases planned
  let later : Traffic := { traffic with server := start, gate := some plan }
  have rest : later.Completes rules (plan.run start).1 (plan.run start).2 :=
    completes_of_plan plan rfl clear
  rw [Server.run_plan planned] at rest
  exact rest.later entered [] rfl

end Traffic

end WordGame
