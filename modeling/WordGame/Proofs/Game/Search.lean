import WordGame.Proofs.Game.Standing

/-!
The search for the next turn. It finds the first place of a list of positions that is held by
somebody alive; the cycle of positions misses none, so while anybody is alive somebody is found.
-/

namespace WordGame.Room

theorem aliveAt?_eq_some_iff (room : Room) (index : Nat) (player : PlayerId) :
    room.aliveAt? index = some player ↔
      room.players[index]? = some player ∧ room.isAlive player = true := by
  unfold aliveAt?
  cases held : room.players[index]? with
  | none => simp
  | some holder =>
    by_cases alive : room.isAlive holder = true
    · simp only [alive, if_true, Option.some.injEq]
      constructor
      · intro same
        exact ⟨same, same ▸ alive⟩
      · intro both
        exact both.1
    · simp only [alive, Bool.false_eq_true, if_false, reduceCtorEq, Option.some.injEq, false_iff]
      rintro ⟨same, living⟩
      exact alive (same ▸ living)

theorem firstAlive?_eq_some_iff (room : Room) (indices : List Nat) (index : Nat)
    (player : PlayerId) :
    room.firstAlive? indices = some (index, player) ↔
      ∃ before after, indices = before ++ index :: after ∧
        room.aliveAt? index = some player ∧ ∀ other ∈ before, room.aliveAt? other = none := by
  unfold firstAlive?
  rw [List.findSome?_eq_some_iff]
  constructor
  · rintro ⟨before, found, after, split, holds, free⟩
    obtain ⟨holder, held, same⟩ := Option.map_eq_some_iff.mp holds
    cases same
    exact ⟨before, after, split, held, fun other member =>
      Option.map_eq_none_iff.mp (free other member)⟩
  · rintro ⟨before, after, split, held, free⟩
    refine ⟨before, index, after, split, ?_, ?_⟩
    · rw [held]
      rfl
    · intro other member
      rw [free other member]
      rfl

theorem seated_of_firstAlive? {room : Room} {indices : List Nat} {index : Nat}
    {player : PlayerId} (found : room.firstAlive? indices = some (index, player)) :
    room.players[index]? = some player ∧ room.isAlive player = true := by
  obtain ⟨_, _, _, held, _⟩ := (room.firstAlive?_eq_some_iff _ _ _).mp found
  exact (room.aliveAt?_eq_some_iff _ _).mp held

theorem exists_aliveAt? (room : Room) (someAlive : 0 < room.aliveCount) :
    ∃ index player, index < room.players.length ∧ room.aliveAt? index = some player := by
  obtain ⟨player, living⟩ := List.exists_mem_of_length_pos someAlive
  obtain ⟨member, alive⟩ := List.mem_filter.mp living
  obtain ⟨index, within, held⟩ := List.getElem_of_mem member
  refine ⟨index, player, within, (room.aliveAt?_eq_some_iff index player).mpr ⟨?_, alive⟩⟩
  rw [List.getElem?_eq_getElem within, held]

theorem exists_firstAlive? (room : Room) {indices : List Nat}
    (complete : ∀ index, index < room.players.length → index ∈ indices)
    (someAlive : 0 < room.aliveCount) :
    ∃ index player, room.firstAlive? indices = some (index, player) := by
  obtain ⟨index, player, within, held⟩ := room.exists_aliveAt? someAlive
  cases found : room.firstAlive? indices with
  | some pair => exact ⟨pair.1, pair.2, rfl⟩
  | none =>
    have free := List.findSome?_eq_none_iff.mp found index (complete index within)
    rw [held] at free
    cases free

/-- The cycle passes every position, wherever the turn is. -/
theorem mem_cycle_iff (room : Room) (index : Nat) :
    index ∈ room.cycle ↔ index < room.players.length := by
  unfold cycle
  simp only [List.mem_map, List.mem_range]
  constructor
  · rintro ⟨step, within, rfl⟩
    exact Nat.mod_lt _ (Nat.zero_lt_of_lt within)
  · intro within
    have bounded : room.turnIndex % room.players.length < room.players.length :=
      Nat.mod_lt _ (Nat.zero_lt_of_lt within)
    -- One less than the distance from the turn to the position, and once round.
    let distance := index + room.players.length - room.turnIndex % room.players.length - 1
    refine ⟨distance % room.players.length, Nat.mod_lt _ (Nat.zero_lt_of_lt within), ?_⟩
    have reordered : room.turnIndex + (distance % room.players.length + 1) =
        room.turnIndex + 1 + distance % room.players.length := by
      omega
    have landed : room.turnIndex % room.players.length + (1 + distance) =
        index + room.players.length := by
      change room.turnIndex % room.players.length +
        (1 + (index + room.players.length - room.turnIndex % room.players.length - 1)) = _
      omega
    rw [reordered, Nat.add_mod_mod, Nat.add_assoc, ← Nat.mod_add_mod, landed, Nat.add_mod_right,
      Nat.mod_eq_of_lt within]

theorem exists_next? (room : Room) (someAlive : 0 < room.aliveCount) :
    ∃ index player, room.next? = some (index, player) :=
  room.exists_firstAlive? (fun index within => (room.mem_cycle_iff index).mpr within) someAlive

end WordGame.Room
