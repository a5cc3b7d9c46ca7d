import WordGame.Proofs.Server.Amends
import WordGame.Proofs.Server.Moves

/-!
What happens in one room does not show in any other, and nobody else is told of it.
-/

namespace WordGame

/-! ### Lists with an element taken out -/

theorem split_at {α : Type} {items : List α} {index : Nat} {item : α}
    (found : items[index]? = some item) :
    items = items.take index ++ item :: items.drop (index + 1) := by
  obtain ⟨within, same⟩ := List.getElem?_eq_some_iff.mp found
  rw [← same, ← List.drop_eq_getElem_cons within, List.take_append_drop]

theorem eraseIdx_filter_of_neg {α : Type} {items : List α} {index : Nat} {item : α}
    (found : items[index]? = some item) {keep : α → Bool} (dropped : keep item = false) :
    (items.eraseIdx index).filter keep = items.filter keep := by
  conv_rhs => rw [split_at found]
  rw [List.eraseIdx_eq_take_drop_succ, List.filter_append, List.filter_append,
    List.filter_cons_of_neg (Bool.eq_false_iff.mp dropped)]

/-! ### Moves -/

theorem Outcome.follow_amends (outcome : Outcome) (room : RoomId) (timers : Timers Callback) :
    ∃ taken added record, timers.Amends room taken added record (outcome.follow room timers) := by
  unfold follow
  split
  · exact ⟨_, _, _, timers.stopTurn_amends room⟩
  · split
    · rename_i ticket _
      cases newer : (timers.entry room).isOutdated ticket.number with
      | false => exact ⟨_, _, _, timers.scheduleTurn_amends room _ _ rfl newer⟩
      | true =>
        have idle : timers.scheduleTurn room ticket.number ticket.duration (.expire room ticket) =
            timers := if_pos newer
        rw [idle]
        exact ⟨_, _, _, .refl timers room⟩
    · exact ⟨_, _, _, .refl timers room⟩

def Delivery.isAbout (id : RoomId) (delivery : Delivery) : Bool := delivery.item.room? = some id

theorem Delivery.isAbout_iff {id : RoomId} {delivery : Delivery} :
    delivery.isAbout id = true ↔ delivery.item.room? = some id :=
  decide_eq_true_iff

namespace Server

/-- Something happens in one room: the alarms are in order, and nothing of it shows in another. -/
structure Confined (server : Server) (room : RoomId) (later : Server) : Prop where
  orderly : later.timers.Orderly
  alarms : server.timers.count ≤ later.timers.count
  view : ∀ id, id ≠ room → ∀ since, later.view id since = server.view id since

variable {server middle later : Server} {room : RoomId} {rules : Rules} {fragment : Nat → String}

theorem view_of_same {id : RoomId} {since : Epoch} (site : later.site id = server.site id)
    (now : later.timers.now = server.timers.now)
    (alarms : later.timers.alarms id since = server.timers.alarms id since)
    (handed : later.handed.filter (Callback.concerns id since) =
      server.handed.filter (Callback.concerns id since)) :
    later.view id since = server.view id since := by
  unfold view
  rw [site, now, alarms, handed]

theorem Confined.refl (orderly : server.timers.Orderly) (room : RoomId) :
    server.Confined room server :=
  ⟨orderly, Nat.le_refl _, fun _ _ _ => rfl⟩

theorem Confined.trans (first : server.Confined room middle)
    (second : middle.Confined room later) : server.Confined room later where
  orderly := second.orderly
  alarms := Nat.le_trans first.alarms second.alarms
  view id other since := (second.view id other since).trans (first.view id other since)

theorem confined_of_amends {taken : List Armed} {added : List (Alarm Callback)}
    {record : RoomTimers} (orderly : server.timers.Orderly)
    (amends : server.timers.Amends room taken added record later.timers)
    (store : ∀ id, id ≠ room → later.store.get? id = server.store.get? id)
    (members : ∀ id, id ≠ room → later.registry.members id = server.registry.members id)
    (handed : ∀ id, id ≠ room → ∀ since, later.handed.filter (Callback.concerns id since) =
      server.handed.filter (Callback.concerns id since)) : server.Confined room later := by
  refine ⟨amends.orderly orderly, amends.count_le, ?_⟩
  intro id other since
  refine view_of_same (site_of_same (store id other) (members id other) ?_) amends.now
    (amends.alarms_of_ne orderly other since) (handed id other since)
  rw [amends.entry, if_neg other]

theorem registry_confined {registry : Registry} (orderly : server.timers.Orderly)
    (members : ∀ id, id ≠ room → registry.members id = server.registry.members id) :
    server.Confined room { server with registry := registry } :=
  confined_of_amends orderly (.refl _ room) (fun _ _ => rfl) members (fun _ _ _ => rfl)

theorem handed_of_ne {index : Nat} {callback : Callback}
    (handed : server.handed[index]? = some callback) {id : RoomId} (other : id ≠ callback.room)
    (since : Epoch) :
    (server.handed.eraseIdx index).filter (Callback.concerns id since) =
      server.handed.filter (Callback.concerns id since) := by
  refine eraseIdx_filter_of_neg handed ?_
  rw [Bool.eq_false_iff]
  exact fun concerned => other (Callback.concerns_iff.mp concerned).1.symm

theorem played_confined (orderly : server.timers.Orderly) (rules : Rules)
    (fragment : Nat → String) (room : RoomId) (found : Room) (move : Move) :
    server.Confined room (server.played rules fragment room found move) := by
  obtain ⟨taken, added, record, amends⟩ :=
    (found.perform rules ⟨server.turns + 1, fragment⟩ move).outcome.follow_amends room server.timers
  exact confined_of_amends orderly amends
    (fun _ other => server.get?_played_of_ne rules fragment found move other) (fun _ _ => rfl)
    (fun _ _ _ => rfl)

theorem makeMove_confined (orderly : server.timers.Orderly) (rules : Rules)
    (fragment : Nat → String) (room : RoomId) (move : Move) (news : List Delivery) :
    server.Confined room (server.makeMove rules fragment room move news).server := by
  cases present : server.store.get? room with
  | none =>
    rw [makeMove_of_absent present]
    exact .refl orderly room
  | some found =>
    rw [makeMove_of_present present]
    exact played_confined orderly rules fragment room found move

theorem welcome_confined (orderly : server.timers.Orderly) (rules : Rules)
    {connection : Connection} {registration : Registration} {registry : Registry}
    (registers : server.registry.Registers room connection registry) :
    server.Confined room (server.welcome rules connection room registration registry).server := by
  have members : ∀ id, id ≠ room → registry.members id = server.registry.members id := by
    intro id other
    rw [registers.members, if_neg other]
  unfold welcome
  cases listed : server.store.get? room with
  | none =>
    refine confined_of_amends orderly
      (server.timers.startCountdown_amends room rules.config.countdown _ rfl) ?_ members
      (fun _ _ _ => rfl)
    intro id other
    exact (server.store.get?_create room id _ _).trans (if_neg other)
  | some found =>
    refine confined_of_amends orderly (.refl _ room) ?_ members (fun _ _ _ => rfl)
    intro id other
    exact (server.store.get?_put room id _).trans (if_neg other)

theorem removed_confined (orderly : server.timers.Orderly) {connection : Connection} {left : Nat}
    {registry : Registry}
    (unregisters : server.registry.Unregisters room connection left registry) :
    server.Confined room
      { server with
        registry := registry
        store := server.store.remove room
        timers := server.timers.cancelRoom room } := by
  refine confined_of_amends orderly (server.timers.cancelRoom_amends room) ?_ ?_ (fun _ _ _ => rfl)
  · intro id other
    exact (server.store.get?_remove room id).trans (if_neg other)
  · intro id other
    exact (unregisters.members id).trans (if_neg other)

theorem leave_confined (orderly : server.timers.Orderly) (rules : Rules)
    (fragment : Nat → String) (connection : Connection) (room : RoomId) :
    server.Confined room
      ((server.leave rules fragment connection room).getD (.begin server)).server := by
  rw [leave_eq]
  cases unregistered : server.registry.unregister room connection.identity.id connection.id with
  | none => exact .refl orderly room
  | some pair =>
    obtain ⟨left, registry⟩ := pair
    have unregisters := Registry.unregisters_of_some unregistered
    dsimp only [Option.map_some, Option.getD_some]
    split
    · exact removed_confined orderly unregisters
    · have parted : server.Confined room { server with registry := registry } :=
        registry_confined orderly fun id other => (unregisters.members id).trans (if_neg other)
      exact parted.trans (makeMove_confined parted.orderly rules fragment room _ _)

theorem callNth_confined (orderly : server.timers.Orderly) (rules : Rules)
    (fragment : Nat → String) {index : Nat} {callback : Callback}
    (handed : server.handed[index]? = some callback) :
    server.Confined callback.room (server.callNth rules fragment index).server := by
  cases callback with
  | start room epoch =>
    rw [callNth_start rules fragment handed]
    split
    · let cleared : Server :=
        { server with
          handed := server.handed.eraseIdx index
          timers := server.timers.clearCountdown room }
      have taken : server.Confined room cleared :=
        confined_of_amends orderly (server.timers.clearCountdown_amends room) (fun _ _ => rfl)
          (fun _ _ => rfl) (fun _ other since => handed_of_ne handed other since)
      exact taken.trans (makeMove_confined taken.orderly rules fragment room .start [])
    · exact confined_of_amends orderly (.refl _ room) (fun _ _ => rfl) (fun _ _ => rfl)
        (fun _ other since => handed_of_ne handed other since)
  | expire room ticket =>
    rw [callNth_expire rules fragment handed]
    let cleared : Server :=
      { server with
        handed := server.handed.eraseIdx index
        timers := server.timers.clearTurn room ticket.number }
    have taken : server.Confined room cleared :=
      confined_of_amends orderly (server.timers.clearTurn_amends room ticket.number)
        (fun _ _ => rfl) (fun _ _ => rfl) (fun _ other since => handed_of_ne handed other since)
    exact taken.trans (makeMove_confined taken.orderly rules fragment room _ [])

/-- The room that an occurrence is in. Waiting and ringing are in none. -/
def room? (server : Server) : Occurrence → Option RoomId
  | .join _ room _ => some room
  | .leave _ room => some room
  | .answer room _ _ => some room
  | .relay room _ _ => some room
  | .wait _ => none
  | .ring => none
  | .call index => server.handed[index]?.map Callback.room

theorem undergo_confined (orderly : server.timers.Orderly) (rules : Rules)
    (fragment : Nat → String) {occurrence : Occurrence}
    (here : server.room? occurrence = some room) :
    server.Confined room (server.undergo rules fragment occurrence).server := by
  cases occurrence with
  | join connection other objection =>
    cases here
    rw [undergo_join]
    split
    · rename_i registered _ admitted
      exact welcome_confined orderly rules (Registry.registers_of_ok admitted)
    · exact .refl orderly room
  | leave connection other =>
    cases here
    exact leave_confined orderly rules fragment connection room
  | answer other player text =>
    cases here
    dsimp only [undergo]
    rw [answer_eq]
    exact makeMove_confined orderly rules fragment room _ []
  | relay other player text =>
    cases here
    exact .refl orderly room
  | wait | ring => cases here
  | call index =>
    obtain ⟨callback, handed, rfl⟩ := Option.map_eq_some_iff.mp here
    exact callNth_confined orderly rules fragment handed

/-- What is in no room puts the clock forward or lets an alarm ring, if it does anything. -/
theorem undergo_nowhere (rules : Rules) (fragment : Nat → String) {occurrence : Occurrence}
    (nowhere : server.room? occurrence = none) :
    let later := (server.undergo rules fragment occurrence).server
    later = server ∨ (∃ moment, later = server.wait moment) ∨
      ∃ alarm, server.timers.next? = some alarm ∧ later = server.ring alarm := by
  intro later
  cases occurrence with
  | join | leave | answer | relay => cases nowhere
  | wait moment => exact .inr (.inl ⟨moment, rfl⟩)
  | ring =>
    change server.ringDue = server ∨ _ ∨ ∃ alarm, _ ∧ server.ringDue = server.ring alarm
    unfold ringDue
    cases next : server.timers.next? with
    | none => exact .inl rfl
    | some alarm =>
      dsimp only
      split
      · exact .inr (.inr ⟨alarm, rfl, rfl⟩)
      · exact .inl rfl
  | call index =>
    have nothing : server.handed[index]? = none := Option.map_eq_none_iff.mp nowhere
    change (server.callNth rules fragment index).server = server ∨ _
    unfold callNth
    rw [nothing]
    exact .inl rfl

theorem undergo_orderly (orderly : server.timers.Orderly) (rules : Rules)
    (fragment : Nat → String) (occurrence : Occurrence) :
    (server.undergo rules fragment occurrence).server.timers.Orderly := by
  cases here : server.room? occurrence with
  | some room => exact (undergo_confined orderly rules fragment here).orderly
  | none =>
    rcases undergo_nowhere rules fragment here with
      idle | ⟨moment, waits⟩ | ⟨alarm, _, rings⟩
    · rw [idle]
      exact orderly
    · rw [waits]
      exact ⟨orderly.ascending, orderly.pending, orderly.recorded, orderly.owned⟩
    · rw [rings]
      exact orderly.ring alarm

theorem undergo_count_le (orderly : server.timers.Orderly) (rules : Rules)
    (fragment : Nat → String) (occurrence : Occurrence) :
    server.timers.count ≤ (server.undergo rules fragment occurrence).server.timers.count := by
  cases here : server.room? occurrence with
  | some room => exact (undergo_confined orderly rules fragment here).alarms
  | none =>
    rcases undergo_nowhere rules fragment here with
      idle | ⟨moment, waits⟩ | ⟨alarm, _, rings⟩
    · exact Nat.le_of_eq (congrArg (·.timers.count) idle).symm
    · exact Nat.le_of_eq (congrArg (·.timers.count) waits).symm
    · exact Nat.le_of_eq (congrArg (·.timers.count) rings).symm

/-! ### Deliveries -/

/-- The members of a room are told of that room only. -/
theorem room?_makeMove {move : Move} {news : List Delivery} (filed : server.Filed)
    (told : ∀ delivery ∈ news, delivery.item.room? = some room) {delivery : Delivery}
    (member : delivery ∈ (server.makeMove rules fragment room move news).deliveries) :
    delivery.item.room? = some room := by
  rcases item_of_mem_makeMove member with before | ⟨found, message, present, ofGame, said⟩
  · exact told delivery before
  · rw [filed room found present] at ofGame
    rw [said]
    exact ofGame.room?

theorem room?_leave {connection : Connection} (filed : server.Filed) {delivery : Delivery}
    (member : delivery ∈
      ((server.leave rules fragment connection room).getD (.begin server)).deliveries) :
    delivery.item.room? = some room := by
  rw [leave_eq] at member
  cases unregistered : server.registry.unregister room connection.identity.id connection.id with
  | none =>
    rw [unregistered] at member
    cases member
  | some pair =>
    rw [unregistered] at member
    dsimp only [Option.map_some, Option.getD_some] at member
    split at member
    · cases member
    · have told : ∀ delivery ∈ pair.2.broadcast room
          (.userLeft room connection.identity.id connection.identity.name),
          delivery.item.room? = some room := by
        intro farewell sent
        rw [Registry.item_of_mem_broadcast sent]
        rfl
      exact @room?_makeMove { server with registry := pair.2 } room rules fragment _ _ filed told
        delivery member

theorem room?_callNth {index : Nat} {callback : Callback} (filed : server.Filed)
    (handed : server.handed[index]? = some callback) {delivery : Delivery}
    (member : delivery ∈ (server.callNth rules fragment index).deliveries) :
    delivery.item.room? = some callback.room := by
  cases callback with
  | start room epoch =>
    rw [callNth_start rules fragment handed] at member
    split at member
    · exact @room?_makeMove
        { server with
          handed := server.handed.eraseIdx index
          timers := server.timers.clearCountdown room } room rules fragment _ _ filed
        (fun _ none => absurd none List.not_mem_nil) delivery member
    · cases member
  | expire room ticket =>
    rw [callNth_expire rules fragment handed] at member
    exact @room?_makeMove
      { server with
        handed := server.handed.eraseIdx index
        timers := server.timers.clearTurn room ticket.number } room rules fragment _ _ filed
      (fun _ none => absurd none List.not_mem_nil) delivery member

/-- Nobody is told of a room because of what happens in another. -/
theorem room?_undergo {occurrence : Occurrence} (filed : server.Filed)
    (here : server.room? occurrence = some room) {delivery : Delivery}
    (member : delivery ∈ (server.undergo rules fragment occurrence).deliveries) :
    delivery.item.room? = none ∨ delivery.item.room? = some room := by
  cases occurrence with
  | join connection other objection =>
    cases here
    rw [undergo_join] at member
    split at member
    · rcases item_of_mem_welcome member with closing | ⟨seconds, timer⟩ | arrival
      · exact .inl (congrArg Outbound.room? closing)
      · exact .inr (congrArg Outbound.room? timer)
      · exact .inr (congrArg Outbound.room? arrival)
    · cases member
  | leave connection other =>
    cases here
    exact .inr (room?_leave filed member)
  | answer other player text =>
    cases here
    dsimp only [undergo] at member
    rw [answer_eq] at member
    exact .inr (room?_makeMove filed (fun _ none => absurd none List.not_mem_nil) member)
  | relay other player text =>
    cases here
    exact .inr (congrArg Outbound.room? (Registry.item_of_mem_broadcast member))
  | wait | ring => cases here
  | call index =>
    obtain ⟨callback, handed, rfl⟩ := Option.map_eq_some_iff.mp here
    exact .inr (room?_callNth filed handed member)

theorem silent_undergo {occurrence : Occurrence} {id : RoomId} (filed : server.Filed)
    (here : server.room? occurrence = some room) (other : id ≠ room) :
    (server.undergo rules fragment occurrence).deliveries.filter (Delivery.isAbout id) = [] := by
  rw [List.filter_eq_nil_iff]
  intro delivery member about
  have ofId := Delivery.isAbout_iff.mp about
  rcases room?_undergo filed here member with unsaid | ofRoom
  · cases unsaid.symm.trans ofId
  · exact other (Option.some.inj (ofId.symm.trans ofRoom))

end Server

end WordGame
