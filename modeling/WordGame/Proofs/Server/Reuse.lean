import WordGame.Proofs.Server.Isolation

/-!
The number of a room can be used again. When nobody is left in a room, the next room with its number
begins like one on a server that never had it, and goes on so, whatever timers of the old room have
yet to ring or to be attended to.
-/

namespace WordGame

namespace Server

variable {server : Server} {id : RoomId}

theorem absent_of_deserted (agrees : (server.site id).Agrees)
    (deserted : server.registry.count id = 0) : server.store.get? id = none := by
  cases present : server.store.get? id with
  | none => rfl
  | some room =>
    have occupied : 0 < server.registry.count id :=
      agrees.occupied.mp (Option.isSome_iff_exists.mpr ⟨room, present⟩)
    exact absurd deserted (Nat.ne_of_gt occupied)

/-- All that timers of a room call for is meant for rooms that were founded before now. -/
theorem Regular.gone (regular : server.Regular id) (callback : Callback)
    (called : callback ∈ server.callbacks) :
    callback.concerns id server.store.epochs = false := by
  rw [Bool.eq_false_iff]
  intro concerned
  obtain ⟨rfl, new⟩ := Callback.concerns_iff.mp concerned
  have within := callback_within regular.counted regular.known regular.settled.numbered called
  exact absurd within.epoch_lt (Nat.not_lt_of_le new)

theorem Regular.deserted (regular : server.Regular id) (deserted : server.registry.count id = 0) :
    server.view id server.store.epochs = .bare server.timers.now :=
  view_bare (regular.agrees id) (absent_of_deserted (regular.agrees id) deserted) regular.gone

end Server

namespace Chronicle

variable {rules : Rules} {id : RoomId}

/-- No timers were ever set for a room that never existed. -/
theorem reached_uncalled {occurrences : List (Occurrence × (Nat → String))}
    (never : ∀ seen, seen <+: occurrences →
      (reached rules seen).server.store.get? id = none) :
    ∀ callback ∈ (reached rules occurrences).server.callbacks, callback.room ≠ id := by
  induction occurrences using List.reverseRecOn with
  | nil => exact fun _ called => absurd called List.not_mem_nil
  | append_singleton seen occurrence ih =>
    intro callback called
    rcases (reached_step rules seen occurrence).mem_callbacks called with
      before | ⟨found, present, _⟩
    · exact ih (fun earlier early => never earlier (early.trans (List.prefix_append _ _))) callback
        before
    · rintro rfl
      cases (never _ (List.prefix_refl _)).symm.trans present

theorem reached_wait (rules : Rules) (now : Millis) (fragment : Nat → String) :
    (reached rules [(.wait now, fragment)]).server = (Server.initial rules.config).wait now ∧
      (reached rules [(.wait now, fragment)]).started = 0 :=
  ⟨rfl, congrArg (0 + ·) (if_pos rfl)⟩

/-- Where nothing is to be seen of a room, it goes on as on a server on which nothing has happened
but that time has gone by. -/
theorem begins_anew {past : List (Occurrence × (Nat → String))} {since : Epoch}
    (bare : let server := (reached rules past).server
      server.view id since = .bare server.timers.now)
    (early : since ≤ (reached rules past).server.store.epochs)
    (future : List (Occurrence × (Nat → String)))
    (small : (reached rules (past ++ future)).started < UInt64.size) :
    let server := (reached rules past).server
    let blank := (Server.initial rules.config).wait server.timers.now
    let left := excerpt rules id since server
    ∃ names : Names, names.Ascending ∧
      names.InOrder ((begin blank).run rules (left future)).server ∧
      ∀ seen, seen <+: future →
        (reached rules (past ++ seen)).server.view id since =
            (((begin blank).run rules (left seen)).server.view id 0).rename names ∧
          heard rules id server seen = heard rules id blank (left seen) := by
  intro server blank left
  obtain ⟨waited, unplayed⟩ := reached_wait rules server.timers.now fun _ => ""
  obtain ⟨_, tracks⟩ := tracks_bare bare early waited unplayed
  obtain ⟨names, tracked, shown⟩ := tracked tracks future small
  have alone : ∀ events,
      (reached rules ([(.wait server.timers.now, fun _ => "")] ++ events)).server =
        ((begin blank).run rules events).server := by
    intro events
    rw [← server_run_reached, waited]
  have ascending := tracked.late.toAscending
  refine ⟨names, ascending, alone (left future) ▸ tracked.mirrors.inOrder ascending, ?_⟩
  intro seen earlier
  obtain ⟨view, _, told⟩ := shown seen earlier
  rw [alone] at view
  rw [waited] at told
  exact ⟨view, told⟩

theorem started_le_append (rules : Rules) (first second : List (Occurrence × (Nat → String))) :
    (reached rules first).started ≤
      (reached rules (first ++ second)).started := by
  induction second using List.reverseRecOn with
  | nil => rw [List.append_nil]
  | append_singleton seen occurrence ih =>
    rw [← List.append_assoc]
    exact Nat.le_trans ih (started_le_concat rules (first ++ seen) occurrence)

/-- The number of a room that everybody has left can be used again, with no residue. Whatever
happens afterwards, there is the same to be seen of the new room, and its members are told the same,
as on a server where nothing has happened but that time has gone by, and as on any other server that
never had the room, as long as the same happens in the room; only the names of rooms, turns and
alarms differ, and keep their order. What timers of the old room have yet to call for makes no
difference. -/
theorem rooms_begin_anew (rules : Rules)
    (past future past' future' : List (Occurrence × (Nat → String))) (id : RoomId)
    (deserted : (reached rules past).server.registry.count id = 0)
    (never : ∀ seen, seen <+: past' → (reached rules seen).server.store.get? id = none)
    (clock : (reached rules past').server.timers.now = (reached rules past).server.timers.now)
    (small : (reached rules (past ++ future)).started < UInt64.size)
    (small' : (reached rules (past' ++ future')).started < UInt64.size) :
    let used := (reached rules past).server
    let other := (reached rules past').server
    let blank := (Server.initial rules.config).wait used.timers.now
    let left := excerpt rules id used.store.epochs used
    let left' := excerpt rules id 0 other
    ∃ names names' : Names, names.Ascending ∧ names'.Ascending ∧
      names.InOrder ((begin blank).run rules (left future)).server ∧
      names'.InOrder ((begin blank).run rules (left' future')).server ∧
      ∀ seen, seen <+: future →
        let view := ((begin blank).run rules (left seen)).server.view id 0
        let told := heard rules id blank (left seen)
        (reached rules (past ++ seen)).server.view id used.store.epochs = view.rename names ∧
          heard rules id used seen = told ∧
          ∀ seen', seen' <+: future' → left' seen' = left seen →
            (reached rules (past' ++ seen')).server.view id 0 = view.rename names' ∧
              heard rules id other seen' = told := by
  intro used other blank left left'
  have less := Nat.lt_of_le_of_lt (started_le_append rules past future) small
  have regular := reached_regular rules past id less
  obtain ⟨names, ascending, inOrder, shown⟩ :=
    begins_anew (regular.deserted deserted) (Nat.le_refl _) future small
  have uncalled := reached_uncalled never
  have bare : other.view id 0 = .bare other.timers.now := by
    have absent := never past' (List.prefix_refl past')
    refine Server.view_bare (run_agrees rules past' id) absent ?_
    intro callback called
    rw [Bool.eq_false_iff]
    exact fun concerned => uncalled callback called (Callback.concerns_iff.mp concerned).1
  -- Both servers are compared with one on which nothing has happened.
  obtain ⟨names', ascending', inOrder', shown'⟩ :=
    begins_anew bare (Nat.zero_le _) future' small'
  rw [clock] at inOrder' shown'
  refine ⟨names, names', ascending, ascending', inOrder, inOrder', ?_⟩
  intro seen early view told
  obtain ⟨same, said⟩ := shown seen early
  refine ⟨same, said, ?_⟩
  intro seen' early' alike
  obtain ⟨same', said'⟩ := shown' seen' early'
  change excerpt rules id 0 other seen' = left seen at alike
  rw [alike] at same' said'
  exact ⟨same', said'⟩

/-- Two players leave and come back twice. The countdown of the first room and the timer of the
first turn in the second one have rung, but nothing is done about them until the third has been
founded; on the other server somebody waits in another room. -/
theorem room_begins_anew_for_two :
    let rules : Rules := ⟨{}, ⟨fun _ => true, fun _ _ => true⟩⟩
    let one : Connection := ⟨1, ⟨10, "one", false⟩⟩
    let two : Connection := ⟨2, ⟨20, "two", false⟩⟩
    let three : Connection := ⟨3, ⟨30, "three", false⟩⟩
    let drawn := List.map fun move : Occurrence => (move, fun _ : Nat => "the")
    let past := drawn
      [.join one 7 none, .join two 7 none, .wait 120000, .ring, .leave one 7, .leave two 7,
        .join one 7 none, .join two 7 none, .wait 240000, .ring, .call 1, .wait 259000, .ring,
        .leave one 7, .leave two 7]
    let future := drawn
      [.join one 7 none, .call 0, .join two 7 none, .wait 379000, .ring, .call 0, .call 0,
        .answer 7 10 "other"]
    let past' := drawn [.join three 8 none, .wait 120000, .ring, .wait 259000]
    let future' := drawn
      [.join one 7 none, .join two 7 none, .call 0, .wait 379000, .ring, .call 0,
        .answer 7 10 "other"]
    let used := (reached rules past).server
    let other := (reached rules past').server
    let later := (reached rules (past ++ future)).server
    let later' := (reached rules (past' ++ future')).server
    used.handed.length = 2 ∧
      (later.store.get? 7).map Room.turnNumber = some 3 ∧
      (later'.store.get? 7).map Room.turnNumber = some 2 ∧
      ∃ names names' : Names, names.Ascending ∧ names'.Ascending ∧ ∃ view : View,
        later.view 7 used.store.epochs = view.rename names ∧
          later'.view 7 0 = view.rename names' ∧
          heard rules 7 used future = heard rules 7 other future' := by
  intro rules one two three drawn past future past' future'
  dsimp only
  have deserted : (reached rules past).server.registry.count 7 = 0 := by decide +kernel
  have never : ∀ seen, seen <+: past' →
      (reached rules seen).server.store.get? 7 = none := by
    intro seen early
    have places : ∀ place < 5,
        ((reached rules (past'.take place)).server.store.get? 7).isNone = true := by
      decide +kernel
    rw [List.prefix_iff_eq_take.mp early]
    exact Option.isNone_iff_eq_none.mp (places seen.length (Nat.lt_succ_of_le early.length_le))
  have clock : (reached rules past').server.timers.now =
      (reached rules past).server.timers.now := by decide +kernel
  have small : (reached rules (past ++ future)).started < UInt64.size := by
    decide +kernel
  have small' : (reached rules (past' ++ future')).started < UInt64.size := by
    decide +kernel
  have left : excerpt rules 7 (reached rules past).server.store.epochs
      (reached rules past).server future = drawn
        [.join one 7 none, .join two 7 none, .wait 379000, .ring, .call 0,
          .answer 7 10 "other"] := by
    dsimp +zetaDelta only
    rfl
  have left' : excerpt rules 7 0 (reached rules past').server future' = drawn
      [.join one 7 none, .join two 7 none, .wait 379000, .ring, .call 0, .answer 7 10 "other"] := by
    dsimp +zetaDelta only
    rfl
  have alike := left'.trans left.symm
  obtain ⟨names, names', ascending, ascending', _, _, shown⟩ := rooms_begin_anew rules
    past future past' future' 7 deserted never clock small small'
  obtain ⟨view, told, shown'⟩ := shown future (List.prefix_refl future)
  obtain ⟨view', told'⟩ := shown' future' (List.prefix_refl future') alike
  refine ⟨?_, ?_, ?_, names, names', ascending, ascending', _, view, view', told.trans told'.symm⟩
  · decide +kernel
  · decide +kernel
  · decide +kernel

end Chronicle

end WordGame
