import WordGame.Proofs.Server.Traffic

/-!
What gets into the queue of a connection. As long as a connection is in a room and its queue works,
it hears all that whoever holds the gate tells the room, each broadcast once and in the order in
which they are told.
-/

namespace WordGame

namespace Queue

variable {queue later : Queue} {item : Outbound}

theorem accepts_of_push (attended : queue.attended = true)
    (kept : (queue.push item).overflowed = false) : queue.accepts = true := by
  cases full : queue.isFull with
  | true =>
    rw [push_of_full item attended full] at kept
    cases kept
  | false => exact accepts_iff.mpr ⟨attended, full⟩

theorem waiting_of_receive {held : Bool} (kept : queue.overflowed = false)
    (took : queue.receive held = (.item item, later)) : queue.waiting = item :: later.waiting := by
  obtain ⟨waiting, overflowed, attended⟩ := queue
  dsimp only at kept
  subst kept
  cases waiting with
  | nil => cases held <;> cases took
  | cons first rest =>
    cases took
    rfl

end Queue

/-- What a parcel brings to a connection, if whoever holds the gate tells the room. -/
def Parcel.heard? (room : RoomId) (id : ConnectionId) (parcel : Parcel) : Option Broadcast :=
  if parcel.receiver = id ∧ parcel.broadcast.room = room ∧ parcel.broadcast.gated = true then
    some parcel.broadcast
  else none

namespace Note

/-- What whoever holds the gate tells a room. -/
def told? (room : RoomId) : Note → Option Broadcast
  | told broadcast =>
    if broadcast.room = room ∧ broadcast.gated = true then some broadcast else none
  | _ => none

def heard? (room : RoomId) (id : ConnectionId) : Note → Option Broadcast
  | put parcel => parcel.heard? room id
  | _ => none

def appended? (id : ConnectionId) : Note → Option Outbound
  | put parcel => if parcel.receiver = id then some parcel.delivery.item else none
  | posted delivery => if delivery.receiver = id then some delivery.item else none
  | _ => none

def taken? (id : ConnectionId) : Note → Option Outbound
  | taken owner item => if owner = id then some item else none
  | _ => none

end Note

def toldTo (room : RoomId) (notes : List Note) : List Broadcast := notes.filterMap (Note.told? room)

def heardBy (room : RoomId) (id : ConnectionId) (notes : List Note) : List Broadcast :=
  notes.filterMap (Note.heard? room id)

def appendedTo (id : ConnectionId) (notes : List Note) : List Outbound :=
  notes.filterMap (Note.appended? id)

def takenFrom (id : ConnectionId) (notes : List Note) : List Outbound :=
  notes.filterMap (Note.taken? id)

theorem toldTo_append (room : RoomId) (first second : List Note) :
    toldTo room (first ++ second) = toldTo room first ++ toldTo room second :=
  List.filterMap_append

theorem heardBy_append (room : RoomId) (id : ConnectionId) (first second : List Note) :
    heardBy room id (first ++ second) = heardBy room id first ++ heardBy room id second :=
  List.filterMap_append

theorem appendedTo_append (id : ConnectionId) (first second : List Note) :
    appendedTo id (first ++ second) = appendedTo id first ++ appendedTo id second :=
  List.filterMap_append

theorem takenFrom_append (id : ConnectionId) (first second : List Note) :
    takenFrom id (first ++ second) = takenFrom id first ++ takenFrom id second :=
  List.filterMap_append

namespace Traffic

/-- What a room was told by whoever holds the gate, and has yet to get into a queue. -/
def underWay (room : RoomId) (id : ConnectionId) (traffic : Traffic) : List Broadcast :=
  traffic.parcels.filterMap (Parcel.heard? room id)

/-- The connection is in the room, and its queue has a reader and has not overflowed. -/
structure Listens (traffic : Traffic) (room : RoomId) (connection : Connection) : Prop where
  registered : traffic.server.registry.connection? room connection.identity.id = some connection
  attended : (traffic.queues.queue connection.id).attended = true
  kept : (traffic.queues.queue connection.id).overflowed = false

instance (traffic : Traffic) (room : RoomId) (connection : Connection) :
    Decidable (traffic.Listens room connection) :=
  decidable_of_iff
    (traffic.server.registry.connection? room connection.identity.id = some connection ∧
      (traffic.queues.queue connection.id).attended = true ∧
        (traffic.queues.queue connection.id).overflowed = false)
    ⟨fun all => ⟨all.1, all.2.1, all.2.2⟩, fun all => ⟨all.registered, all.attended, all.kept⟩⟩

/-- The queue of a connection takes in, between two moments, what whoever holds the gate tells the
room: all of it, and in that order. Besides, nothing gets into the queue or out of it unnoticed. -/
structure Follows (start : Traffic) (notes : List Note) (finish : Traffic) (room : RoomId)
    (id : ConnectionId) : Prop where
  heard : start.underWay room id ++ toldTo room notes =
    heardBy room id notes ++ finish.underWay room id
  queue : (start.queues.queue id).waiting ++ appendedTo id notes =
    takenFrom id notes ++ (finish.queues.queue id).waiting

/-- Where nothing is under way at the beginning and at the end, all is heard in between. -/
theorem Follows.heard_eq_told {start finish : Traffic} {notes : List Note} {room : RoomId}
    {id : ConnectionId} (follows : start.Follows notes finish room id)
    (begun : start.underWay room id = []) (ended : finish.underWay room id = []) :
    heardBy room id notes = toldTo room notes := by
  have heard := follows.heard
  rw [begun, ended, List.append_nil] at heard
  exact heard.symm

theorem Follows.refl (traffic : Traffic) (room : RoomId) (id : ConnectionId) :
    traffic.Follows [] traffic room id :=
  ⟨List.append_nil _, List.append_nil _⟩

theorem Follows.trans {start middle finish : Traffic} {early late : List Note} {room : RoomId}
    {id : ConnectionId} (first : start.Follows early middle room id)
    (second : middle.Follows late finish room id) :
    start.Follows (early ++ late) finish room id := by
  constructor
  · rw [toldTo_append, heardBy_append, ← List.append_assoc, first.heard, List.append_assoc,
      second.heard, List.append_assoc]
  · rw [appendedTo_append, takenFrom_append, ← List.append_assoc, first.queue, List.append_assoc,
      second.queue, List.append_assoc]

variable {rules : Rules} {traffic next : Traffic} {event : Event}
  {notes : List Note} {known : List Connection} {room : RoomId} {id : ConnectionId}
  {connection : Connection}

theorem eq_of_mem_noted {delivery : Delivery} {note other : Note}
    (member : other ∈ traffic.noted delivery note) : note = other := by
  unfold noted at member
  split at member
  · exact (List.mem_singleton.mp member).symm
  · cases member

theorem filterMap_noted {α : Type} {pick : Note → Option α} {note : Note}
    (unpicked : pick note = none) (traffic : Traffic) (delivery : Delivery) :
    (traffic.noted delivery note).filterMap pick = [] := by
  unfold noted
  split
  · rw [List.filterMap_cons, unpicked]
    rfl
  · rfl

/-! ### The queue -/

/-- A queue that has a reader and does not overflow takes in what it is offered. -/
theorem accepts_of_kept {delivery : Delivery} (own : delivery.receiver = id)
    (attended : (traffic.queues.queue id).attended = true)
    (kept : ((traffic.queues.deliver delivery).queue id).overflowed = false) :
    traffic.queues.accepts delivery = true := by
  subst own
  rw [Queues.queue_deliver, if_pos rfl] at kept
  exact Queue.accepts_of_push attended kept

/-- What is noted of a delivery is what its queue takes in. -/
theorem waiting_deliver {delivery : Delivery} {note : Note}
    (attended : (traffic.queues.queue id).attended = true)
    (kept : ((traffic.queues.deliver delivery).queue id).overflowed = false)
    (tells : note.appended? id =
      if delivery.receiver = id then some delivery.item else none) :
    ((traffic.queues.deliver delivery).queue id).waiting =
      (traffic.queues.queue id).waiting ++ appendedTo id (traffic.noted delivery note) := by
  rw [Queues.queue_deliver]
  by_cases own : delivery.receiver = id
  · have accepts := accepts_of_kept own attended kept
    subst own
    rw [if_pos rfl] at tells ⊢
    unfold noted
    rw [if_pos accepts, Queue.waiting_push,
      show (traffic.queues.queue delivery.receiver).accepts = true from accepts, if_pos rfl]
    simp [appendedTo, tells]
  · rw [if_neg own] at tells
    rw [if_neg (Ne.symm own), appendedTo, filterMap_noted tells, List.append_nil]

/-- Nothing gets into a queue or out of it unnoticed. -/
theorem Reacts.queue (reacts : Reacts rules traffic event next notes)
    (before : traffic.Listens room connection) (after : next.Listens room connection) :
    let id := connection.id
    (traffic.queues.queue id).waiting ++ appendedTo id notes =
      takenFrom id notes ++ (next.queues.queue id).waiting := by
  intro id
  have attended := before.attended
  have kept := before.kept
  have working := after.attended
  have fits := after.kept
  cases reacts with
  | elapsed | entered | finished | stepped | changed | told | relayed | cut =>
    exact List.append_nil _
  | sent | posted | passed =>
    rw [takenFrom, filterMap_noted rfl]
    exact (waiting_deliver attended fits rfl).symm
  | @connected owner absent =>
    have other : id ≠ owner := by
      rintro rfl
      unfold Table.contains at absent
      unfold Queues.queue Table.getD at attended
      rw [Option.isSome_eq_false_iff, Option.isNone_iff_eq_none] at absent
      rw [absent] at attended
      cases attended
    rw [Queues.queue_insert, if_neg other]
    exact List.append_nil _
  | @received owner item queue took =>
    rw [Queues.queue_insert]
    by_cases own : id = owner
    · subst own
      rw [if_pos rfl, Queue.waiting_of_receive kept took]
      simp [appendedTo, takenFrom, Note.appended?, Note.taken?]
    · rw [if_neg own]
      simp [appendedTo, takenFrom, Note.appended?, Note.taken?, Ne.symm own]
  | @deserted owner =>
    rw [Queues.queue_insert] at working ⊢
    by_cases own : id = owner
    · rw [if_pos own] at working
      cases working
    · rw [if_neg own]
      exact List.append_nil _

/-! ### What is heard -/

/-- Of a few items, one is taken out. -/
theorem filterMap_eraseIdx {α β : Type} {pick : α → Option β} {items : List α} {index : Nat}
    {item : α} (listed : items[index]? = some item) (few : (items.filterMap pick).length ≤ 1) :
    (pick item).toList ++ (items.eraseIdx index).filterMap pick = items.filterMap pick := by
  induction items generalizing index with
  | nil => cases listed
  | cons head rest ih =>
    cases index with
    | zero =>
      cases listed
      rw [List.eraseIdx_cons_zero, List.filterMap_cons]
      cases pick item with
      | none => rfl
      | some value => rfl
    | succ index =>
      rw [List.getElem?_cons_succ] at listed
      rw [List.filterMap_cons] at few
      rw [List.eraseIdx_cons_succ, List.filterMap_cons, List.filterMap_cons]
      cases picked : pick head with
      | none =>
        rw [picked] at few
        exact ih listed few
      | some value =>
        rw [picked] at few
        have others : rest.filterMap pick = [] :=
          List.length_eq_zero_iff.mp (Nat.le_zero.mp (Nat.le_of_succ_le_succ few))
        have unpicked := List.filterMap_eq_nil_iff.mp others
        have fewer : (rest.eraseIdx index).filterMap pick = [] :=
          List.filterMap_eq_nil_iff.mpr fun other member =>
            unpicked other (List.mem_of_mem_eraseIdx member)
        rw [unpicked item (List.mem_of_getElem? listed), fewer, others]
        rfl

/-- At most one broadcast is under way to a connection. -/
theorem Sound.length_underWay_le (sound : traffic.Sound known) (room : RoomId)
    (id : ConnectionId) : (traffic.underWay room id).length ≤ 1 := by
  have once := List.nodup_iff_count_le_one.mp sound.receivers id
  refine Nat.le_trans ?_ once
  unfold underWay
  generalize traffic.parcels = parcels
  induction parcels with
  | nil => exact Nat.le_refl 0
  | cons parcel rest ih =>
    rw [List.filterMap_cons, List.filter_cons]
    unfold Parcel.heard? at ih ⊢
    by_cases gated : parcel.broadcast.gated = true
    · rw [if_pos gated, List.map_cons, List.count_cons]
      by_cases own : parcel.receiver = id
      · by_cases here : parcel.broadcast.room = room
        · simpa [own, here, gated] using ih
        · have more := Nat.le_succ_of_le ih
          simpa [own, here, gated] using more
      · simpa [own] using ih
    · simpa [gated] using ih

/-- Where no key comes twice, an item is the only one with its key. -/
theorem filter_key_of_nodup {α κ : Type} [DecidableEq κ] {key : α → κ} {items : List α} {item : α}
    (nodup : (items.map key).Nodup) (member : item ∈ items) :
    items.filter (fun other => key other = key item) = [item] := by
  induction items with
  | nil => cases member
  | cons head rest ih =>
    rw [List.map_cons, List.nodup_cons] at nodup
    rcases List.mem_cons.mp member with rfl | later
    · have others : rest.filter (fun other => key other = key item) = [] := by
        rw [List.filter_eq_nil_iff]
        intro other listed same
        exact nodup.1 (List.mem_map.mpr ⟨other, listed, of_decide_eq_true same⟩)
      rw [List.filter_cons_of_pos (by simp), others]
    · have different : key head ≠ key item := fun same =>
        nodup.1 (same ▸ List.mem_map_of_mem later)
      rw [List.filter_cons_of_neg (by simp [different])]
      exact ih nodup.2 later

/-- A member of a room gets one parcel of what the room is told. -/
theorem filterMap_parcels {registry : Registry} {broadcast : Broadcast}
    (within : registry.Within known)
    (unique : OwnIds known)
    (registered : registry.connection? room connection.identity.id = some connection) :
    (registry.parcels broadcast).filterMap (Parcel.heard? room connection.id) =
      toldTo room [.told broadcast] := by
  let parcels := registry.parcels broadcast
  let own (parcel : Parcel) : Bool := parcel.receiver = connection.id
  have about : ∀ parcel ∈ parcels, parcel.broadcast = broadcast := fun parcel member =>
    (Registry.mem_parcels.mp member).1
  by_cases here : broadcast.room = room ∧ broadcast.gated = true
  · have addressed : (⟨broadcast, connection.id⟩ : Parcel) ∈ parcels := by
      rw [← here.1] at registered
      exact Registry.mem_parcels.mpr ⟨rfl, connection.identity.id, connection, registered, rfl⟩
    have single : parcels.filter own = [⟨broadcast, connection.id⟩] :=
      filter_key_of_nodup (Registry.nodup_receivers within unique) addressed
    have heard : parcels.filterMap (Parcel.heard? room connection.id) =
        (parcels.filter own).filterMap fun _ => some broadcast := by
      rw [List.filterMap_filter]
      refine List.filterMap_congr fun parcel member => ?_
      simp [own, Parcel.heard?, about parcel member, here]
    have told : toldTo room [.told broadcast] = [broadcast] := by
      simp [toldTo, Note.told?, here]
    rw [heard, single, told]
    rfl
  · have told : toldTo room [.told broadcast] = [] := by
      simp [toldTo, Note.told?, here]
    rw [told, List.filterMap_eq_nil_iff]
    intro parcel member
    unfold Parcel.heard?
    rw [about parcel member]
    exact if_neg fun all => here all.2

theorem underWay_append {broadcast : Broadcast} (sound : traffic.Sound known)
    (unique : OwnIds known)
    (registered : traffic.server.registry.connection? room connection.identity.id =
      some connection) :
    (traffic.parcels ++ traffic.server.registry.parcels broadcast).filterMap
        (Parcel.heard? room connection.id) =
      traffic.underWay room connection.id ++ toldTo room [.told broadcast] := by
  rw [List.filterMap_append, filterMap_parcels sound.within unique registered]
  rfl

theorem heardBy_put {parcel : Parcel}
    (attended : (traffic.queues.queue id).attended = true)
    (kept : ((traffic.queues.deliver parcel.delivery).queue id).overflowed = false) :
    heardBy room id (traffic.noted parcel.delivery (.put parcel)) =
      (parcel.heard? room id).toList := by
  have pick : Note.heard? room id (.put parcel) = parcel.heard? room id := rfl
  by_cases own : parcel.receiver = id
  · unfold noted heardBy
    rw [if_pos (accepts_of_kept own attended kept), List.filterMap_cons, pick]
    cases parcel.heard? room id with
    | none => rfl
    | some broadcast => rfl
  · have silent : parcel.heard? room id = none := if_neg fun all => own all.1
    rw [heardBy, filterMap_noted silent, silent]
    rfl

theorem Reacts.heard (reacts : Reacts rules traffic event next notes) (sound : traffic.Sound known)
    (unique : OwnIds known)
    (before : traffic.Listens room connection) (after : next.Listens room connection) :
    let id := connection.id
    traffic.underWay room id ++ toldTo room notes =
      heardBy room id notes ++ next.underWay room id := by
  intro id
  cases reacts with
  | elapsed | entered | finished | stepped | changed | cut | connected | received | deserted =>
    exact List.append_nil _
  | sent | posted =>
    rw [toldTo, heardBy, filterMap_noted rfl, filterMap_noted rfl]
    exact List.append_nil _
  -- Whoever is in the room gets a parcel, so what is told now is under way.
  | told | relayed => exact (underWay_append sound unique before.registered).symm
  | passed listed =>
    rw [heardBy_put before.attended after.kept, toldTo, filterMap_noted rfl, List.append_nil]
    exact (filterMap_eraseIdx listed (sound.length_underWay_le room id)).symm

/-- Whoever listens all the time follows what the room is told. -/
theorem follows_after {events : List Event} (sound : traffic.Sound known)
    (unique : OwnIds known)
    (joins : ∀ connection ∈ joiners events, connection ∈ known)
    (listens : ∀ seen, seen <+: events →
      (traffic.after rules seen).Listens room connection) :
    traffic.Follows (traffic.report rules events)
      (traffic.after rules events) room connection.id := by
  induction events generalizing traffic with
  | nil => exact .refl traffic room connection.id
  | cons event rest ih =>
    let next := (traffic.react rules event).1
    obtain ⟨joinsNow, joinsLater⟩ := joins_of_cons joins
    have reacts := traffic.react_reacts rules event
    have listensLater : ∀ seen, seen <+: rest →
        (next.after rules seen).Listens room connection :=
      fun seen early => listens (event :: seen) ((List.prefix_cons_inj event).mpr early)
    have now := listens [] List.nil_prefix
    have later := listensLater [] List.nil_prefix
    have first : traffic.Follows (traffic.react rules event).2 next room connection.id :=
      ⟨reacts.heard sound unique now later, reacts.queue now later⟩
    exact first.trans (ih (reacts.sound sound unique joinsNow) joinsLater listensLater)

end Traffic

end WordGame
