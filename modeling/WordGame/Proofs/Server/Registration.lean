import WordGame.Connection.Registry
import WordGame.Proofs.Sizes

/-!
Who is registered. A registration or its end changes the members of its own room by one player, and
no room has more members than the capacity.
-/

namespace WordGame.Registry

/-- The members of a room after a registration, which finds a place for every newcomer. -/
structure Registers (registry : Registry) (room : RoomId) (connection : Connection)
    (later : Registry) : Prop where
  capacity : later.capacity = registry.capacity
  members : ∀ query, later.members query =
    if query = room then (registry.members room).insert connection.identity.id connection
    else registry.members query
  place : registry.contains room connection.identity.id = true ∨
    registry.count room < registry.capacity

/-- The members of a room after a connection was taken out. -/
structure Unregisters (registry : Registry) (room : RoomId) (connection : Connection)
    (left : Nat) (later : Registry) : Prop where
  capacity : later.capacity = registry.capacity
  members : ∀ query, later.members query =
    if query = room then (registry.members room).erase connection.identity.id
    else registry.members query
  left : left = later.count room

variable {registry later : Registry} {room : RoomId} {connection : Connection}

theorem registers_of_ok {registration : Registration}
    (registered : registry.register room connection = .ok (registration, later)) :
    registry.Registers room connection later := by
  have listed := registry.members_list room
  unfold register at registered
  dsimp only at registered
  cases held : (registry.members room).get? connection.identity.id with
  | some previous =>
    rw [held] at registered
    cases registered
    refine ⟨rfl, fun query => listed query _, .inl ?_⟩
    unfold contains connection?
    rw [held]
    rfl
  | none =>
    rw [held] at registered
    dsimp only at registered
    split at registered
    · cases registered
    · rename_i room_left
      cases registered
      exact ⟨rfl, fun query => listed query _, .inr (Nat.lt_of_not_le room_left)⟩

theorem unregisters_of_some {left : Nat}
    (unregistered : registry.unregister room connection.identity.id connection.id =
      some (left, later)) :
    registry.Unregisters room connection left later := by
  have listed := registry.members_list room
  unfold unregister at unregistered
  dsimp only at unregistered
  split at unregistered
  · cases unregistered
    refine ⟨rfl, fun query => listed query _, ?_⟩
    unfold count
    rw [listed, if_pos rfl]
  · cases unregistered

theorem Unregisters.size_erase {left : Nat}
    (unregisters : registry.Unregisters room connection left later) :
    ((registry.members room).erase connection.identity.id).size = left := by
  have counted := unregisters.left
  unfold count at counted
  rw [unregisters.members, if_pos rfl] at counted
  exact counted.symm

theorem Registers.connection? (registers : registry.Registers room connection later)
    (query : RoomId) (player : PlayerId) :
    later.connection? query player =
      if query = room ∧ player = connection.identity.id then some connection
      else registry.connection? query player := by
  unfold Registry.connection?
  rw [registers.members]
  by_cases here : query = room
  · rw [if_pos here, Table.get?_insert, here]
    simp only [true_and]
  · rw [if_neg here, if_neg (fun both => here both.1)]

theorem Unregisters.connection? {left : Nat}
    (unregisters : registry.Unregisters room connection left later) (query : RoomId)
    (player : PlayerId) :
    later.connection? query player =
      if query = room ∧ player = connection.identity.id then none
      else registry.connection? query player := by
  unfold Registry.connection?
  rw [unregisters.members]
  by_cases here : query = room
  · rw [if_pos here, Table.get?_erase, here]
    simp only [true_and]
  · rw [if_neg here, if_neg (fun both => here both.1)]

theorem unregister_eq_none_iff {player : PlayerId} {id : ConnectionId} :
    registry.unregister room player id = none ↔
      (registry.connection? room player).map Connection.id ≠ some id := by
  unfold unregister Registry.connection?
  dsimp only
  split
  · rename_i held
    exact iff_of_false (fun impossible => nomatch impossible) (fun other => other held)
  · rename_i other
    exact iff_of_true rfl other

theorem unregister_isSome_iff (registry : Registry) (room : RoomId) (connection : Connection) :
    (registry.unregister room connection.identity.id connection.id).isSome = true ↔
      (registry.connection? room connection.identity.id).map Connection.id =
        some connection.id := by
  rw [← Option.ne_none_iff_isSome, ne_eq, unregister_eq_none_iff, ne_eq, not_not]

/-- A connection is not listed in a room any more, and nothing else is different. -/
def Quits (registry : Registry) (room : RoomId) (connection : Connection)
    (later : Registry) : Prop :=
  ∀ query player holder, later.connection? query player = some holder ↔
    registry.connection? query player = some holder ∧
      ¬(query = room ∧ player = connection.identity.id ∧ holder.id = connection.id)

theorem quits_of_unregister_eq_none
    (none : registry.unregister room connection.identity.id connection.id = none) :
    registry.Quits room connection registry := by
  intro query player holder
  refine (and_iff_left_of_imp ?_).symm
  rintro listed ⟨rfl, rfl, same⟩
  have held := registry.unregister_isSome_iff query connection
  rw [none, listed, Option.map_some, same] at held
  exact absurd (held.mpr rfl) Bool.false_ne_true

theorem quits_of_unregister_eq_some {left : Nat}
    (some : registry.unregister room connection.identity.id connection.id = some (left, later)) :
    registry.Quits room connection later := by
  have held := (registry.unregister_isSome_iff room connection).mp (Option.isSome_of_eq_some some)
  intro query player holder
  rw [(unregisters_of_some some).connection?]
  by_cases here : query = room ∧ player = connection.identity.id
  · obtain ⟨rfl, rfl⟩ := here
    rw [if_pos ⟨rfl, rfl⟩]
    refine iff_of_false (fun impossible => nomatch impossible) ?_
    rintro ⟨listed, other⟩
    rw [listed] at held
    exact other ⟨rfl, rfl, Option.some.inj held⟩
  · rw [if_neg here]
    refine (and_iff_left ?_).symm
    rintro ⟨same, own, _⟩
    exact here ⟨same, own⟩

end WordGame.Registry
