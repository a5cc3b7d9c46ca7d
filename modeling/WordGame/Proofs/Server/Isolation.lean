import WordGame.Proofs.Server.Deadlines
import WordGame.Proofs.Server.Excerpt

/-!
Rooms are isolated. If all that concerns other rooms is deleted from a run, what is left of it shows
the same of the room as the whole run, under other names, and the members of the room are told the
same.
-/

namespace WordGame

namespace Server

/-- What is known of every server that a run comes to. -/
structure Regular (server : Server) (id : RoomId) : Prop where
  orderly : server.timers.Orderly
  filed : server.Filed
  agrees : ∀ room, (server.site room).Agrees
  counted : server.Counted
  known : server.Known
  settled : server.Settled id

variable {server : Server} {id : RoomId}

theorem Regular.within (regular : server.Regular id) (since : Epoch) :
    (server.view id since).Within server.extent :=
  view_within regular.orderly regular.counted regular.known regular.settled.numbered since

theorem undergo_below (orderly : server.timers.Orderly) (rules : Rules) (fragment : Nat → String)
    (occurrence : Occurrence)
    (counts : server.Counts (server.undergo rules fragment occurrence).server) :
    server.extent.Below (server.undergo rules fragment occurrence).server.extent := by
  have step := server.undergo_step rules fragment occurrence
  have alarms := undergo_count_le orderly rules fragment occurrence
  exact ⟨step.epochs_le, Nat.succ_le_succ counts.le, alarms⟩

/-! ### Rooms that do not exist -/

theorem view_bare {since : Epoch}
    (agrees : (server.site id).Agrees) (absent : server.store.get? id = none)
    (gone : ∀ callback ∈ server.callbacks, callback.concerns id since = false) :
    server.view id since = .bare server.timers.now := by
  have nobody : server.registry.members id = .empty := by
    apply Table.eq_empty_of_isEmpty
    apply List.isEmpty_iff.mpr
    apply List.eq_nil_of_length_eq_zero
    refine Nat.eq_zero_of_not_pos fun present => ?_
    have occupied : (server.store.get? id).isSome = true := agrees.occupied.mpr present
    rw [absent] at occupied
    cases occupied
  have timers : server.timers.entry id = .none := agrees.timers_of_absent absent
  refine view_eq_bare ?_ gone
  unfold site
  rw [absent, nobody, timers]

theorem view_wait_initial (config : GameConfig) (now : Millis) (id : RoomId) (since : Epoch) :
    ((initial config).wait now).view id since = .bare now := by
  have clock : ((initial config).wait now).timers.now = now := Nat.zero_max now
  unfold view
  rw [clock]
  rfl

end Server

namespace Chronicle

variable {rules : Rules} {id : RoomId} {since : Epoch}

theorem reached_orderly (rules : Rules) (occurrences : List (Occurrence × (Nat → String))) :
    (reached rules occurrences).server.timers.Orderly := by
  refine run_preserves rules (fun chronicle => chronicle.server.timers.Orderly) ?_ _ _ ?_
  · exact fun chronicle fragment occurrence orderly =>
      Server.undergo_orderly orderly rules fragment occurrence
  · exact Timers.initial_orderly

theorem reached_known (rules : Rules) (occurrences : List (Occurrence × (Nat → String)))
    (small : (reached rules occurrences).started < UInt64.size) :
    (reached rules occurrences).server.Known := by
  induction occurrences using List.reverseRecOn with
  | nil => exact Server.initial_known rules.config
  | append_singleton seen occurrence ih =>
    have less := Nat.lt_of_le_of_lt (started_le_concat rules seen occurrence) small
    exact (reached_step rules seen occurrence).known
      (reached_counts rules seen occurrence small) (run_counted rules seen)
      (ih less)

theorem reached_regular (rules : Rules) (occurrences : List (Occurrence × (Nat → String)))
    (id : RoomId) (small : (reached rules occurrences).started < UInt64.size) :
    (reached rules occurrences).server.Regular id where
  orderly := reached_orderly rules occurrences
  filed := run_filed rules occurrences
  agrees := run_agrees rules occurrences
  counted := run_counted rules occurrences
  known := reached_known rules occurrences small
  settled := (run_settled rules occurrences small).2 id

/-! ### Runs that go on alike -/

/-- One run has come to the same as another one, which has nothing but the room. -/
structure Tracks (names : Names) (id : RoomId) (since : Epoch) (one other : Chronicle) : Prop where
  mirrors : one.server.Mirrors names id since other.server
  late : names.Late since
  alone : other.server.Alone id
  started : other.started ≤ one.started

variable {names : Names} {one other : Chronicle} {occurrence : Occurrence}
  {fragment : Nat → String}

/-- A turn that is started on one of the servers is started on the other. -/
theorem turns_eq_of_mirrors {later further : Server} (ascending : names.Ascending)
    (before : one.server.Mirrors names id since other.server)
    (after : later.Mirrors names id since further) (same : later.turns = one.server.turns) :
    further.turns = other.server.turns := by
  have first : names.number (other.server.turns.toNat + 1) = one.server.turns.toNat + 1 :=
    before.turns 0
  have second : names.number (further.turns.toNat + 1) = later.turns.toNat + 1 := after.turns 0
  rw [same, ← first] at second
  exact UInt64.toNat_inj.mp (Nat.succ.inj (ascending.number.injective second))

theorem Tracks.kept (tracks : one.Tracks names id since other) (first : one.server.Regular id)
    (second : other.server.Regular id) {kept : Occurrence}
    (excerpted : one.server.excerpt id since occurrence = some kept)
    (counts : one.server.Counts (one.server.undergo rules fragment occurrence).server) :
    (one.step rules (occurrence, fragment)).Tracks names id since
        (other.step rules (kept, fragment)) ∧
      (one.server.undergo rules fragment occurrence).deliveries =
        (other.server.undergo rules fragment kept).deliveries := by
  have retains := Server.retains_of_excerpt excerpted
  have undergone := tracks.mirrors.undergo tracks.late tracks.alone first.settled second.settled
    second.known retains counts
  refine ⟨⟨undergone.server, tracks.late, ?_, ?_⟩, undergone.deliveries⟩
  · exact tracks.alone.undergo second.orderly rules fragment retains
  · have started := tracks.started
    have alike := turns_eq_of_mirrors tracks.late.toAscending tracks.mirrors undergone.server
    unfold step
    dsimp only
    by_cases same : (one.server.undergo rules fragment occurrence).server.turns = one.server.turns
    · rw [if_pos same, if_pos (alike same)]
      exact started
    · rw [if_neg same]
      split
      · exact Nat.le_succ_of_le started
      · exact Nat.succ_le_succ started

theorem Tracks.dropped (tracks : one.Tracks names id since other) (first : one.server.Regular id)
    (second : other.server.Regular id)
    (excerpted : one.server.excerpt id since occurrence = none)
    (counts : one.server.Counts (one.server.undergo rules fragment occurrence).server) :
    let later := one.step rules (occurrence, fragment)
    later.Tracks (names.lead other.server.extent later.server.extent) id since other ∧
      (one.server.undergo rules fragment occurrence).deliveries.filter
        (Delivery.isAbout id) = [] := by
  intro later
  have founded : ∀ found, one.server.store.get? id = some found → since ≤ found.epoch := by
    intro found present
    rw [tracks.mirrors.room] at present
    obtain ⟨original, _, rfl⟩ := Option.map_eq_some_iff.mp present
    exact tracks.late.le_epoch original.epoch
  have unseen := @Server.unseen_undergo id since rules fragment one.server first.orderly
    first.filed first.agrees first.settled founded occurrence excerpted
  have below := Server.undergo_below first.orderly rules fragment occurrence counts
  have capacity := (one.server.undergo_step rules fragment occurrence).capacity
  -- Names may have been given to other rooms. Those that the second run has yet to give are given new
  -- names of their own, which nothing that is to be seen there has.
  refine ⟨⟨?_, ?_, tracks.alone, ?_⟩, unseen.told⟩
  · refine Server.mirrors_of_view ?_ (capacity.trans tracks.mirrors.capacity) (names.lead_lead _ _)
    calc later.server.view id since
        = one.server.view id since := unseen.view
      _ = (other.server.view id 0).rename names := tracks.mirrors.view
      _ = _ := View.rename_of_agree (names.agree_lead _ _) (second.within 0)
  · refine ⟨tracks.late.toAscending.lead tracks.mirrors.lead below (Nat.succ_pos _), ?_⟩
    have above : names.epoch other.server.store.epochs ≤ later.server.store.epochs :=
      Nat.le_trans (Nat.le_of_eq (tracks.mirrors.epochs 0)) below.epochs
    exact Nat.le_trans tracks.late.since (Names.le_redirect_zero above)
  · exact Nat.le_trans tracks.started (Nat.le_add_right _ _)

/-! ### Runs and what is left of them -/

/-- What is left of a run for one room: all that concerns other rooms is deleted. -/
def excerpt (rules : Rules) (id : RoomId) (since : Epoch) :
    Server → List (Occurrence × (Nat → String)) → List (Occurrence × (Nat → String))
  | _, [] => []
  | server, occurrence :: rest =>
    ((server.excerpt id since occurrence.1).map (·, occurrence.2)).toList ++
      excerpt rules id since
        (server.undergo rules occurrence.2 occurrence.1).server rest

theorem excerpt_concat (server : Server) (seen : List (Occurrence × (Nat → String)))
    (occurrence : Occurrence × (Nat → String)) :
    excerpt rules id since server (seen ++ [occurrence]) =
      excerpt rules id since server seen ++
        ((((begin server).run rules seen).server.excerpt id since occurrence.1).map
          (·, occurrence.2)).toList := by
  induction seen generalizing server with
  | nil => exact List.append_nil _
  | cons first rest ih =>
    have goesOn := server_run_begin rules
      ((begin server).step rules first) rest
    change _ ++ excerpt rules id since _ (rest ++ [occurrence]) = (_ ++ _) ++ _
    rw [ih, ← List.append_assoc, run_cons, ← goesOn]
    rfl

/-- What the members of a room are told of it in the course of a run. -/
def heard (rules : Rules) (id : RoomId) (server : Server)
    (occurrences : List (Occurrence × (Nat → String))) : List Delivery :=
  ((begin server).run rules occurrences).deliveries.filter (Delivery.isAbout id)

theorem deliveries_run (rules : Rules) (chronicle : Chronicle)
    (occurrences : List (Occurrence × (Nat → String))) :
    (chronicle.run rules occurrences).deliveries =
      chronicle.deliveries ++ ((begin chronicle.server).run rules occurrences).deliveries := by
  induction occurrences using List.reverseRecOn with
  | nil => exact (List.append_nil _).symm
  | append_singleton seen occurrence ih =>
    rw [run_append, run_append]
    change (chronicle.run rules seen).deliveries ++ _ =
      _ ++ (((begin chronicle.server).run rules seen).deliveries ++ _)
    rw [ih, server_run_begin, List.append_assoc]

theorem heard_append (server : Server) (seen rest : List (Occurrence × (Nat → String))) :
    heard rules id server (seen ++ rest) =
      heard rules id server seen ++ heard rules id ((begin server).run rules seen).server rest := by
  unfold heard
  rw [run_append, deliveries_run, List.filter_append]

theorem server_run_reached (past seen : List (Occurrence × (Nat → String))) :
    ((begin (reached rules past).server).run rules seen).server =
      (reached rules (past ++ seen)).server := by
  rw [server_run_begin, ← run_append]

theorem tracked_concat {seen remains : List (Occurrence × (Nat → String))}
    (tracks : (reached rules seen).Tracks names id since
      (reached rules remains))
    (occurrence : Occurrence × (Nat → String))
    (small : (reached rules (seen ++ [occurrence])).started < UInt64.size) :
    let left :=
      (((reached rules seen).server.excerpt id since occurrence.1).map
        (·, occurrence.2)).toList
    ∃ later : Names,
      (reached rules (seen ++ [occurrence])).Tracks later id since
          (reached rules (remains ++ left)) ∧
        names.Agree (reached rules remains).server.extent later ∧
        (reached rules remains).server.extent.Below
          (reached rules (remains ++ left)).server.extent ∧
        heard rules id (reached rules seen).server [occurrence] =
          heard rules id (reached rules remains).server left := by
  intro left
  have less := Nat.lt_of_le_of_lt (started_le_concat rules seen occurrence) small
  have fewer := Nat.lt_of_le_of_lt tracks.started less
  have first := reached_regular rules seen id less
  have second := reached_regular rules remains id fewer
  have counts := reached_counts rules seen occurrence small
  rw [reached_concat] at small counts ⊢
  cases excerpted : (reached rules seen).server.excerpt id since occurrence.1 with
  | some kept =>
    have same : left = [(kept, occurrence.2)] := by
      unfold left
      rw [excerpted]
      rfl
    obtain ⟨further, said⟩ := tracks.kept first second excerpted counts
    rw [same, reached_concat]
    refine ⟨names, further, .refl names _, ?_, congrArg (List.filter _) said⟩
    refine Server.undergo_below second.orderly rules occurrence.2 kept ?_
    have few := Nat.lt_of_le_of_lt further.started small
    rw [← reached_concat] at few
    have counted := reached_counts rules remains (kept, occurrence.2) few
    rw [reached_concat] at counted
    exact counted
  | none =>
    have nothing : left = [] := by
      unfold left
      rw [excerpted]
      rfl
    obtain ⟨further, unsaid⟩ := tracks.dropped first second excerpted counts
    rw [nothing, List.append_nil]
    exact ⟨_, further, names.agree_lead _ _, ⟨Nat.le_refl _, Nat.le_refl _, Nat.le_refl _⟩, unsaid⟩

/-- Two runs that have come to the same go on alike, if what happens in the second one is what is
left of the first one. -/
theorem tracked {past remains : List (Occurrence × (Nat → String))}
    (tracks : (reached rules past).Tracks names id since
      (reached rules remains))
    (future : List (Occurrence × (Nat → String)))
    (small : (reached rules (past ++ future)).started < UInt64.size) :
    let server := (reached rules past).server
    let left := excerpt rules id since server
    ∃ later : Names,
      (reached rules (past ++ future)).Tracks later id since
          (reached rules (remains ++ left future)) ∧
        ∀ seen, seen <+: future →
          let alone := (reached rules (remains ++ left seen)).server
          (reached rules (past ++ seen)).server.view id since = (alone.view id 0).rename later ∧
            (alone.view id 0).Within
              (reached rules (remains ++ left future)).server.extent ∧
            heard rules id server seen =
              heard rules id (reached rules remains).server (left seen) := by
  intro server left
  -- The induction is on what happens, last things last: the names that an earlier part has in use are
  -- among those that are kept, so the names of the whole do for all its parts.
  induction future using List.reverseRecOn with
  | nil =>
    have whole := tracks
    rw [← List.append_nil past, ← List.append_nil remains] at whole
    refine ⟨names, whole, ?_⟩
    intro seen early
    cases List.prefix_nil.mp early
    have fewer := Nat.lt_of_le_of_lt whole.started small
    exact ⟨whole.mirrors.view, (reached_regular rules _ id fewer).within 0, rfl⟩
  | append_singleton earlier occurrence ih =>
    rw [← List.append_assoc] at small ⊢
    have less := started_le_concat rules (past ++ earlier) occurrence
    obtain ⟨middle, tracked, shown⟩ := ih (Nat.lt_of_le_of_lt less small)
    obtain ⟨later, tracks', agree, below, said⟩ := tracked_concat tracked occurrence small
    have all : left (earlier ++ [occurrence]) = left earlier ++ _ :=
      excerpt_concat server earlier occurrence
    rw [server_run_reached] at all
    rw [all, ← List.append_assoc]
    refine ⟨later, tracks', ?_⟩
    intro seen early
    rcases List.prefix_concat_iff.mp early with whole | part
    · rw [whole, all, ← List.append_assoc, ← List.append_assoc]
      have fewer := Nat.lt_of_le_of_lt tracks'.started small
      refine ⟨tracks'.mirrors.view, (reached_regular rules _ id fewer).within 0, ?_⟩
      have told := (shown earlier (List.prefix_refl earlier)).2.2
      rw [heard_append, heard_append, server_run_reached, server_run_reached, told, said]
    · obtain ⟨view, within, told⟩ := shown seen part
      exact ⟨view.trans (View.rename_of_agree agree within), within.mono below, told⟩

/-! ### Isolation -/

theorem run_capacity (rules : Rules) (occurrences : List (Occurrence × (Nat → String))) :
    (reached rules occurrences).server.registry.capacity = rules.config.maxRoomCapacity := by
  refine run_preserves_server rules
    (fun server => server.registry.capacity = rules.config.maxRoomCapacity) ?_ _ _ rfl
  exact fun _ _ _ _ step same => step.capacity.trans same

/-- A server where nothing is to be seen of a room has come to the same as one where nothing has
happened yet. -/
theorem tracks_bare {past remains : List (Occurrence × (Nat → String))} {now : Millis}
    (bare : (reached rules past).server.view id since = .bare now)
    (early : since ≤ (reached rules past).server.store.epochs)
    (blank : (reached rules remains).server = (Server.initial rules.config).wait now)
    (unplayed : (reached rules remains).started = 0) :
    ∃ names, (reached rules past).Tracks names id since
      (reached rules remains) := by
  let unchanged : Names := ⟨fun name => name, fun name => name, fun name => name⟩
  have same : unchanged.Lead ⟨0, 1, 0⟩ ⟨0, 1, 0⟩ := ⟨fun _ => rfl, fun _ => rfl, fun _ => rfl⟩
  have ascending : unchanged.Ascending :=
    ⟨strictMono_id, strictMono_id, strictMono_id, rfl⟩
  -- The number of no turn is in use from the beginning.
  let extent := (reached rules past).server.extent
  have below : Extent.Below ⟨0, 1, 0⟩ extent :=
    ⟨Nat.zero_le _, Nat.succ_le_succ (Nat.zero_le _), Nat.zero_le _⟩
  have blankExtent : (reached rules remains).server.extent = ⟨0, 1, 0⟩ := by
    rw [blank]
    rfl
  refine ⟨unchanged.lead ⟨0, 1, 0⟩ extent, ?_, ⟨ascending.lead same below Nat.one_pos, ?_⟩, ?_, ?_⟩
  · refine Server.mirrors_of_view ?_ ?_ ?_
    · rw [bare, blank, Server.view_wait_initial]
      rfl
    · rw [run_capacity, run_capacity]
    · rw [blankExtent]
      exact Names.lead_lead _ _ _
  · exact Nat.le_trans early (Nat.le_add_right _ _)
  · rw [blank]
    exact Server.alone_iff.mpr ⟨fun _ _ => rfl, fun _ none => absurd none List.not_mem_nil⟩
  · rw [unplayed]
    exact Nat.zero_le _

/-- Rooms are isolated: if all that concerns other rooms is deleted from a run, nothing is to be seen
of any other room, but the same of the one room throughout the run, under new names for rooms, turns
and alarms that keep their order, and its members are told the same. The numbers of turns only keep
their order until more turns were started than have numbers. -/
theorem rooms_are_isolated (rules : Rules) (occurrences : List (Occurrence × (Nat → String)))
    (id : RoomId) (small : (reached rules occurrences).started < UInt64.size) :
    let start := Server.initial rules.config
    let left := excerpt rules id 0 start
    ∃ names : Names, names.Ascending ∧
      names.InOrder (reached rules (left occurrences)).server ∧
      (reached rules (left occurrences)).server.Alone id ∧
      ∀ seen, seen <+: occurrences →
        (reached rules seen).server.view id 0 =
            ((reached rules (left seen)).server.view id 0).rename names ∧
          heard rules id start seen = heard rules id start (left seen) := by
  intro start left
  obtain ⟨_, tracks⟩ := @tracks_bare rules id 0 [] [] 0 rfl (Nat.le_refl 0) rfl rfl
  obtain ⟨names, tracked, shown⟩ := tracked tracks occurrences small
  have ascending := tracked.late.toAscending
  refine ⟨names, ascending, tracked.mirrors.inOrder ascending, tracked.alone, ?_⟩
  intro seen early
  obtain ⟨view, _, told⟩ := shown seen early
  exact ⟨view, told⟩

/-- Games in two rooms: the one that is founded first is begun last, and goes on after a timer has
rung. -/
theorem room_isolated_from_another :
    let rules : Rules := ⟨{}, ⟨fun _ => true, fun _ _ => true⟩⟩
    let one : Connection := ⟨1, ⟨10, "one", false⟩⟩
    let two : Connection := ⟨2, ⟨20, "two", false⟩⟩
    let three : Connection := ⟨3, ⟨30, "three", false⟩⟩
    let four : Connection := ⟨4, ⟨40, "four", false⟩⟩
    let moves : List Occurrence :=
      [.join three 8 none, .join one 7 none, .join four 8 none, .join two 7 none, .wait 130000,
        .ring, .ring, .call 0, .call 0, .answer 8 30 "other", .answer 7 10 "other", .wait 125000,
        .leave three 8, .wait 140000, .ring, .call 0]
    let occurrences := moves.map fun move => (move, fun _ => "the")
    let left := excerpt rules 7 0 (.initial rules.config) occurrences
    let whole := reached rules occurrences
    let alone := reached rules left
    whole.started < UInt64.size ∧ left.length = 10 ∧
      (whole.server.store.get? 8).isSome = true ∧ (alone.server.store.get? 8).isSome = false ∧
      (whole.server.store.get? 7).map Room.turnNumber = some 5 ∧
      (alone.server.store.get? 7).map Room.turnNumber = some 3 ∧
      ∃ names : Names, names.Ascending ∧ names.InOrder alone.server ∧ alone.server.Alone 7 ∧
        whole.server.view 7 0 = (alone.server.view 7 0).rename names ∧
        heard rules 7 (.initial rules.config) occurrences =
          heard rules 7 (.initial rules.config) left := by
  intro rules one two three four moves occurrences left whole alone
  have small : whole.started < UInt64.size := by decide +kernel
  obtain ⟨names, ascending, inOrder, nothingElse, shown⟩ :=
    rooms_are_isolated rules occurrences 7 small
  obtain ⟨view, told⟩ := shown occurrences (List.prefix_refl occurrences)
  refine ⟨small, ?_, ?_, ?_, ?_, ?_, names, ascending, inOrder, nothingElse, view, told⟩
  · decide +kernel
  · decide +kernel
  · decide +kernel
  · decide +kernel
  · decide +kernel

end Chronicle

end WordGame
