import WordGame.Connection.Ledger
import WordGame.Proofs.History
import WordGame.Proofs.Server.Vacancy

/-!
What a registry holds after any calls. Done step by step, a registration and its end come to the
same as at once. The connection of a player in a room is the last one that was let in for that
player there, unless it was taken out since; no room holds more than the capacity, and only rooms
with connections are listed.
-/

namespace WordGame

namespace Table

variable {κ α : Type} [Ord κ]

theorem isEmpty_eq_true_iff (table : Table κ α) : table.isEmpty = true ↔ table.size = 0 := by
  rw [isEmpty, List.isEmpty_iff, size, List.length_eq_zero_iff]

variable [Std.TransOrd κ] [Std.LawfulEqOrd κ] [DecidableEq κ]

theorem insert_insert (table : Table κ α) (key : κ) (first second : α) :
    (table.insert key first).insert key second = table.insert key second := by
  refine ext_get? ?_
  intro query
  rw [get?_insert, get?_insert, get?_insert]
  split
  · rfl
  · rfl

theorem insert_of_get? {table : Table κ α} {key : κ} {value : α}
    (held : table.get? key = some value) : table.insert key value = table := by
  refine ext_get? ?_
  intro query
  rw [get?_insert]
  split
  · rename_i same
    rw [same, held]
  · rfl

theorem erase_insert {table : Table κ α} {key : κ} (absent : table.get? key = none) (value : α) :
    (table.insert key value).erase key = table := by
  refine ext_get? ?_
  intro query
  rw [get?_erase, get?_insert]
  split
  · rename_i same
    rw [same, absent]
  · rfl

theorem size_erase_of_get? {table : Table κ α} {key : κ} {value : α}
    (held : table.get? key = some value) : (table.erase key).size + 1 = table.size := by
  have absent : (table.erase key).contains key = false := by
    unfold contains
    rw [get?_erase_self]
    rfl
  have back : (table.erase key).insert key value = table := by
    refine ext_get? ?_
    intro query
    rw [get?_insert, get?_erase]
    split
    · rename_i same
      rw [same, held]
    · rfl
  rw [← size_insert_of_new value absent, back]

end Table

namespace Registry

variable {registry later : Registry} {room : RoomId} {connection : Connection}

/-! ### Step by step -/

theorem members_of_listed {members : Table PlayerId Connection}
    (listed : registry.rooms.get? room = some members) : registry.members room = members := by
  unfold Registry.members Table.getD
  rw [listed]
  rfl

theorem members_of_unlisted (unlisted : registry.rooms.get? room = none) :
    registry.members room = .empty := by
  unfold Registry.members Table.getD
  rw [unlisted]
  rfl

theorem list_of_pos {members : Table PlayerId Connection} (some : 0 < members.size) :
    registry.list room members =
      { registry with rooms := registry.rooms.insert room members } := by
  unfold list
  rw [if_neg]
  rw [Table.isEmpty_eq_true_iff]
  exact Nat.ne_of_gt some

theorem Tidy.rooms_of_refused (tidy : registry.Tidy) (room : RoomId) :
    (if (registry.members room).isEmpty then
      (registry.rooms.insert room (registry.members room)).erase room
    else registry.rooms.insert room (registry.members room)) = registry.rooms := by
  cases listed : registry.rooms.get? room with
  | none =>
    have nobody : (Table.empty : Table PlayerId Connection).isEmpty = true := rfl
    rw [members_of_unlisted listed, if_pos nobody, Table.erase_insert listed]
  | some members =>
    rw [members_of_listed listed, tidy room members listed, if_neg Bool.false_ne_true,
      Table.insert_of_get? listed]

def admitted (registry : Registry) :
    Except RoomFull (Registration × Registry) → Except RoomFull Registration × Registry
  | .ok (registration, later) => (.ok registration, later)
  | .error full => (.error full, registry)

theorem Tidy.letIn_eq (tidy : registry.Tidy) (room : RoomId) (connection : Connection) :
    registry.letIn room connection = registry.admitted (registry.register room connection) := by
  unfold letIn Registry.register Table.contains
  dsimp only
  rw [list_of_pos (Table.size_insert_pos _ _ _), Table.insert_insert]
  cases (registry.members room).get? connection.identity.id with
  | some previous => rfl
  | none =>
    rw [Option.isSome_none, Bool.not_false, Bool.true_and, tidy.rooms_of_refused room]
    by_cases full : registry.capacity ≤ (registry.members room).size
    · rw [if_pos (decide_eq_true full), if_pos full]
      rfl
    · rw [if_neg (mt of_decide_eq_true full), if_neg full]
      rfl

def dismissed (registry : Registry) : Option (Nat × Registry) → Option Nat × Registry
  | some (left, later) => (some left, later)
  | none => (none, registry)

theorem dismiss_eq (registry : Registry) (room : RoomId) (player : PlayerId) (id : ConnectionId) :
    registry.dismiss room player id = registry.dismissed (registry.unregister room player id) := by
  unfold dismiss unregister
  cases listed : registry.rooms.get? room with
  | none =>
    rw [members_of_unlisted listed]
    rfl
  | some members =>
    rw [members_of_listed listed]
    dsimp only
    split
    · unfold list
      simp only [Table.isEmpty_eq_true_iff]
      rfl
    · rfl

/-! ### A call -/

theorem register_of_present {previous : Connection}
    (held : registry.connection? room connection.identity.id = some previous) :
    ∃ later, registry.register room connection = .ok (.replaced previous.id, later) := by
  unfold connection? at held
  unfold Registry.register
  dsimp only
  rw [held]
  exact ⟨_, rfl⟩

theorem register_of_place (new : registry.connection? room connection.identity.id = none)
    (place : registry.count room < registry.capacity) :
    ∃ later, registry.register room connection = .ok (.added, later) := by
  unfold connection? at new
  unfold count at place
  unfold Registry.register
  dsimp only
  rw [new]
  dsimp only
  rw [if_neg (Nat.not_le.mpr place)]
  exact ⟨_, rfl⟩

theorem register_of_full (new : registry.connection? room connection.identity.id = none)
    (full : registry.capacity ≤ registry.count room) :
    registry.register room connection = .error ⟨room, registry.capacity⟩ := by
  unfold connection? at new
  unfold count at full
  unfold Registry.register
  dsimp only
  rw [new]
  dsimp only
  rw [if_pos full]

inductive Serves (registry : Registry) : Call → Record → Registry → Prop
  | added {room : RoomId} {connection : Connection} {later : Registry}
      (new : registry.connection? room connection.identity.id = none)
      (place : registry.count room < registry.capacity) (tidy : later.Tidy)
      (registers : registry.Registers room connection later) :
      Serves registry (.register room connection)
        ⟨.register room connection, .registered (.ok .added), []⟩ later
  | replaced {room : RoomId} {connection previous : Connection} {later : Registry}
      (held : registry.connection? room connection.identity.id = some previous)
      (tidy : later.Tidy) (registers : registry.Registers room connection later) :
      Serves registry (.register room connection)
        ⟨.register room connection, .registered (.ok (.replaced previous.id)),
          Registration.closing (.replaced previous.id) connection⟩ later
  | refused {room : RoomId} {connection : Connection}
      (new : registry.connection? room connection.identity.id = none)
      (full : registry.capacity ≤ registry.count room) :
      Serves registry (.register room connection)
        ⟨.register room connection, .registered (.error ⟨room, registry.capacity⟩), []⟩ registry
  | removed {room : RoomId} {connection : Connection} {left : Nat} {later : Registry}
      (held : registry.connection? room connection.identity.id = some connection)
      (tidy : later.Tidy) (unregisters : registry.Unregisters room connection left later) :
      Serves registry (.unregister room connection.identity.id connection.id)
        ⟨.unregister room connection.identity.id connection.id, .unregistered (some left), []⟩ later
  | ignored {room : RoomId} {player : PlayerId} {id : ConnectionId}
      (foreign : (registry.connection? room player).map Connection.id ≠ some id) :
      Serves registry (.unregister room player id)
        ⟨.unregister room player id, .unregistered none, []⟩ registry

def Own (registry : Registry) : Prop :=
  ∀ room player connection, registry.connection? room player = some connection →
    connection.identity.id = player

theorem serve_serves (tidy : registry.Tidy) (own : registry.Own) (call : Call) :
    registry.Serves call (registry.serve call).1 (registry.serve call).2 := by
  cases call with
  | register room connection =>
    dsimp only [serve]
    rw [tidy.letIn_eq]
    cases held : registry.connection? room connection.identity.id with
    | some previous =>
      obtain ⟨later, registered⟩ := register_of_present held
      rw [registered]
      exact .replaced held (tidy.register registered) (registers_of_ok registered)
    | none =>
      rcases Nat.lt_or_ge (registry.count room) registry.capacity with place | full
      · obtain ⟨later, registered⟩ := register_of_place held place
        rw [registered]
        exact .added held place (tidy.register registered) (registers_of_ok registered)
      · rw [register_of_full held full]
        exact .refused held full
  | unregister room player id =>
    dsimp only [serve]
    rw [dismiss_eq]
    cases unregistered : registry.unregister room player id with
    | none => exact .ignored (unregister_eq_none_iff.mp unregistered)
    | some taken =>
      obtain ⟨left, later⟩ := taken
      have held : (registry.connection? room player).map Connection.id = some id := by
        by_contra foreign
        rw [unregister_eq_none_iff.mpr foreign] at unregistered
        cases unregistered
      obtain ⟨connection, listed, rfl⟩ := Option.map_eq_some_iff.mp held
      obtain rfl := own room player connection listed
      exact .removed listed (tidy.unregister unregistered) (unregisters_of_some unregistered)

/-! ### The record -/

def Record.Admits (record : Record) (room : RoomId) (connection : Connection) : Prop :=
  record.call = .register room connection ∧
    ∃ registration, record.answer = .registered (.ok registration)

/-- A connection was the last that was let into the room for its player, and there was no call to
take it out since then. -/
def Stands (records : List Record) (room : RoomId) (connection : Connection) : Prop :=
  History.Since records (Record.Admits · room connection) fun record =>
    (∀ other, record.Admits room other → other.identity.id ≠ connection.identity.id) ∧
      record.call ≠ .unregister room connection.identity.id connection.id

structure Accounts (capacity : Nat) (records : List Record) (registry : Registry) : Prop where
  entry : ∀ room player connection, registry.connection? room player = some connection ↔
    connection.identity.id = player ∧ Stands records room connection
  limit : registry.capacity = capacity
  places : ∀ room, registry.count room ≤ capacity
  tidy : registry.Tidy

variable {capacity : Nat} {records : List Record} {record : Record} {call : Call}

theorem Accounts.own (accounts : Accounts capacity records registry) : registry.Own :=
  fun room player connection held => ((accounts.entry room player connection).mp held).1

theorem Accounts.unchanged (accounts : Accounts capacity records registry)
    (nobody : ∀ room other, ¬record.Admits room other)
    (kept : ∀ room connection, registry.connection? room connection.identity.id = some connection →
      record.call ≠ .unregister room connection.identity.id connection.id) :
    Accounts capacity (records ++ [record]) registry where
  entry := by
    intro room player connection
    rw [accounts.entry, Stands, Stands, History.since_append, or_iff_right (nobody room connection)]
    refine and_congr_right ?_
    intro own
    refine (and_iff_left_of_imp ?_).symm
    intro stands
    refine ⟨fun other admits => absurd admits (nobody room other), ?_⟩
    exact kept room connection ((accounts.entry room _ connection).mpr ⟨rfl, stands⟩)
  limit := accounts.limit
  places := accounts.places
  tidy := accounts.tidy

theorem Accounts.registered (accounts : Accounts capacity records registry)
    (registers : registry.Registers room connection later) (tidy : later.Tidy)
    (called : record.call = .register room connection)
    (answered : ∃ registration, record.answer = .registered (.ok registration)) :
    Accounts capacity (records ++ [record]) later where
  entry := by
    have admits (query : RoomId) (other : Connection) :
        record.Admits query other ↔ query = room ∧ other = connection := by
      unfold Record.Admits
      rw [called, Call.register.injEq, and_iff_left answered]
      exact and_congr eq_comm eq_comm
    intro query player other
    rw [registers.connection?, Stands, History.since_append, admits]
    by_cases here : query = room ∧ player = connection.identity.id
    -- for this player in this room the record begins anew
    · obtain ⟨rfl, rfl⟩ := here
      rw [if_pos ⟨rfl, rfl⟩]
      constructor
      · intro same
        cases same
        exact ⟨rfl, .inl ⟨rfl, rfl⟩⟩
      · rintro ⟨own, ⟨_, rfl⟩ | ⟨_, gone, _⟩⟩
        · rfl
        · exact absurd own.symm (gone connection ((admits query connection).mpr ⟨rfl, rfl⟩))
    · rw [if_neg here, accounts.entry]
      refine and_congr_right ?_
      rintro rfl
      have elsewhere : ¬(query = room ∧ other = connection) := by
        rintro ⟨rfl, rfl⟩
        exact here ⟨rfl, rfl⟩
      rw [or_iff_right elsewhere]
      refine (and_iff_left ?_).symm
      constructor
      · intro newcomer admitted own
        obtain ⟨rfl, rfl⟩ := (admits query newcomer).mp admitted
        exact here ⟨rfl, own.symm⟩
      · rw [called]
        intro impossible
        cases impossible
  limit := registers.capacity.trans accounts.limit
  places := by
    intro query
    unfold count
    rw [registers.members]
    split
    · rcases registers.place with present | place
      · rw [Table.size_insert_of_contains _ present]
        exact accounts.places room
      · cases present : (registry.members room).contains connection.identity.id with
        | true =>
          rw [Table.size_insert_of_contains _ present]
          exact accounts.places room
        | false =>
          rw [Table.size_insert_of_new _ present, ← accounts.limit]
          exact place
    · exact accounts.places query
  tidy := tidy

theorem Accounts.removed (accounts : Accounts capacity records registry) {left : Nat}
    (held : registry.connection? room connection.identity.id = some connection)
    (unregisters : registry.Unregisters room connection left later) (tidy : later.Tidy)
    (called : record.call = .unregister room connection.identity.id connection.id) :
    Accounts capacity (records ++ [record]) later where
  entry := by
    have nobody (query : RoomId) (other : Connection) : ¬record.Admits query other := by
      rintro ⟨same, _⟩
      rw [called] at same
      cases same
    intro query player other
    rw [unregisters.connection?, Stands, History.since_append, or_iff_right (nobody query other),
      called]
    by_cases here : query = room ∧ player = connection.identity.id
    · obtain ⟨rfl, rfl⟩ := here
      rw [if_pos ⟨rfl, rfl⟩]
      refine iff_of_false (fun impossible => nomatch impossible) ?_
      rintro ⟨own, stands, _, gone⟩
      rw [(accounts.entry query _ other).mpr ⟨own, stands⟩] at held
      cases held
      exact gone rfl
    · rw [if_neg here, accounts.entry]
      refine and_congr_right ?_
      rintro rfl
      refine (and_iff_left ⟨fun someone admits => absurd admits (nobody query someone), ?_⟩).symm
      intro same
      obtain ⟨rfl, own, _⟩ := Call.unregister.inj same
      exact here ⟨rfl, own.symm⟩
  limit := unregisters.capacity.trans accounts.limit
  places := by
    intro query
    unfold count
    rw [unregisters.members]
    split
    · exact Nat.le_trans (Table.size_erase_le _ _) (accounts.places room)
    · exact accounts.places query
  tidy := tidy

theorem Serves.accounts (serves : registry.Serves call record later)
    (accounts : Accounts capacity records registry) :
    Accounts capacity (records ++ [record]) later := by
  cases serves with
  | added _ _ tidy registers => exact accounts.registered registers tidy rfl ⟨_, rfl⟩
  | replaced _ tidy registers => exact accounts.registered registers tidy rfl ⟨_, rfl⟩
  | refused =>
    refine accounts.unchanged ?_ ?_
    · rintro _ _ ⟨_, _, impossible⟩
      cases impossible
    · intro _ _ _ impossible
      cases impossible
  | removed held tidy unregisters => exact accounts.removed held unregisters tidy rfl
  | ignored foreign =>
    refine accounts.unchanged ?_ ?_
    · rintro _ _ ⟨impossible, _⟩
      cases impossible
    · intro query connection held same
      cases same
      rw [held] at foreign
      exact foreign rfl

theorem initial_accounts (capacity : Nat) : Accounts capacity [] (initial capacity) where
  entry := by
    intro room player connection
    refine iff_of_false (fun impossible => nomatch impossible) ?_
    rintro ⟨_, stands⟩
    exact History.not_since_nil _ _ stands
  limit := rfl
  places := fun _ => Nat.zero_le _
  tidy := initial_tidy capacity

theorem Accounts.serveAll (accounts : Accounts capacity records registry) (calls : List Call) :
    Accounts capacity (records ++ registry.records calls) (registry.serveAll calls) := by
  induction calls generalizing registry records with
  | nil =>
    rw [Registry.records, List.append_nil]
    exact accounts
  | cons call rest ih =>
    have served := (serve_serves accounts.tidy accounts.own call).accounts accounts
    have later := ih served
    rw [List.append_assoc] at later
    exact later

theorem Tidy.contains_iff (tidy : registry.Tidy) (room : RoomId) :
    registry.rooms.contains room = true ↔ 0 < registry.count room := by
  unfold count Table.contains
  cases listed : registry.rooms.get? room with
  | none =>
    rw [members_of_unlisted listed]
    exact iff_of_false Bool.false_ne_true (Nat.lt_irrefl 0)
  | some members =>
    have occupied := tidy room members listed
    rw [Bool.eq_false_iff, ne_eq, Table.isEmpty_eq_true_iff] at occupied
    rw [members_of_listed listed]
    exact iff_of_true rfl (Nat.pos_of_ne_zero occupied)

theorem Registers.count (registers : registry.Registers room connection later) (query : RoomId) :
    later.count query =
      if query = room ∧ registry.connection? room connection.identity.id = none then
        registry.count query + 1
      else registry.count query := by
  unfold Registry.count
  rw [registers.members]
  by_cases here : query = room
  · subst here
    rw [if_pos rfl]
    cases held : registry.connection? query connection.identity.id with
    | some previous =>
      have present : (registry.members query).contains connection.identity.id = true :=
        Option.isSome_of_eq_some held
      rw [Table.size_insert_of_contains _ present, if_neg (fun both => nomatch both.2)]
    | none =>
      have new : (registry.members query).contains connection.identity.id = false :=
        Option.isSome_eq_false_iff.mpr (Option.isNone_iff_eq_none.mpr held)
      rw [Table.size_insert_of_new _ new, if_pos ⟨rfl, rfl⟩]
  · rw [if_neg here, if_neg (fun both => here both.1)]

theorem Unregisters.count {left : Nat}
    (unregisters : registry.Unregisters room connection left later)
    (held : registry.connection? room connection.identity.id = some connection) (query : RoomId) :
    later.count query + (if query = room then 1 else 0) = registry.count query := by
  unfold Registry.count
  rw [unregisters.members]
  by_cases here : query = room
  · subst here
    rw [if_pos rfl, if_pos rfl]
    exact Table.size_erase_of_get? held
  · rw [if_neg here, if_neg here]
    rfl

/-- Who is registered after any calls, and what the next call does. The connection of a player in a
room is the last one that was let in for that player there, unless a later call was to take that
very connection out. No room holds more than the capacity, and just the rooms with connections are
listed. A player who is there is always let in: the count stays, and the connection that was there
is closed if it is another one. Nothing else is ever closed. Whoever is refused, or is not the one
to be taken out, leaves the registry as it was. -/
theorem last_admission_stands (capacity : Nat) (calls : List Call) :
    let registry := (initial capacity).serveAll calls
    let records := (initial capacity).records calls
    (∀ room player connection, registry.connection? room player = some connection ↔
      connection.identity.id = player ∧ Stands records room connection) ∧
    (∀ room, registry.count room ≤ capacity ∧
      (registry.rooms.contains room = true ↔ 0 < registry.count room)) ∧
    (∀ room connection,
      let (record, later) := registry.serve (.register room connection)
      match registry.connection? room connection.identity.id with
      | some previous =>
        record.answer = .registered (.ok (.replaced previous.id)) ∧
          record.orders =
            (if previous.id = connection.id then [] else [⟨previous.id, .close⟩]) ∧
          ∀ query, later.count query = registry.count query
      | none =>
        record.orders = [] ∧
          if registry.count room < capacity then
            record.answer = .registered (.ok .added) ∧
              ∀ query, later.count query =
                registry.count query + if query = room then 1 else 0
          else record.answer = .registered (.error ⟨room, capacity⟩) ∧ later = registry) ∧
    (∀ room player id,
      let (record, later) := registry.serve (.unregister room player id)
      record.orders = [] ∧
        if (registry.connection? room player).map Connection.id = some id then
          record.answer = .unregistered (some (later.count room)) ∧
            ∀ query, later.count query + (if query = room then 1 else 0) = registry.count query
        else record.answer = .unregistered none ∧ later = registry) := by
  intro registry records
  have accounts : Accounts capacity records registry :=
    (initial_accounts capacity).serveAll calls
  refine ⟨accounts.entry, fun room => ⟨accounts.places room, accounts.tidy.contains_iff room⟩,
    ?_, ?_⟩
  · intro room connection
    have serves := serve_serves accounts.tidy accounts.own (.register room connection)
    dsimp only
    generalize (registry.serve (.register room connection)).1 = record at serves
    generalize (registry.serve (.register room connection)).2 = later at serves
    cases serves with
    | added new place _ registers =>
      rw [accounts.limit] at place
      rw [new]
      dsimp only
      rw [if_pos place]
      refine ⟨rfl, rfl, ?_⟩
      intro query
      rw [registers.count]
      split
      · rename_i here
        rw [if_pos here.1]
      · rename_i elsewhere
        rw [if_neg (fun here => elsewhere ⟨here, new⟩), Nat.add_zero]
    | replaced held _ registers =>
      rw [held]
      refine ⟨rfl, rfl, ?_⟩
      intro query
      rw [registers.count, held, if_neg (fun both => nomatch both.2)]
    | refused new full =>
      rw [accounts.limit] at full
      rw [new]
      dsimp only
      rw [if_neg (Nat.not_lt.mpr full), accounts.limit]
      exact ⟨rfl, rfl, rfl⟩
  · intro room player id
    have serves := serve_serves accounts.tidy accounts.own (.unregister room player id)
    dsimp only
    generalize (registry.serve (.unregister room player id)).1 = record at serves
    generalize (registry.serve (.unregister room player id)).2 = later at serves
    cases serves with
    | removed held _ unregisters =>
      rw [held, Option.map_some, if_pos rfl, unregisters.left]
      exact ⟨rfl, rfl, unregisters.count held⟩
    | ignored foreign =>
      rw [if_neg foreign]
      exact ⟨rfl, rfl, rfl⟩

/-- Where there is no place for anybody, a room is not even listed. -/
example (connection : Connection) :
    ((initial 0).serveAll [.register 5 connection, .unregister 5 1 connection.id]) = initial 0 :=
  rfl

end Registry

end WordGame
