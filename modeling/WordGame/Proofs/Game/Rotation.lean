import Mathlib.Data.List.Induction
import WordGame.Proofs.Game.Lives
import WordGame.Proofs.Game.TurnHeld

/-!
The turn goes round. When it passes on it skips nobody alive, so between two turns of a player
everybody else who stays alive has a turn.

The way round is measured from the seat of the player. Seats behind it come first, also those that
are added meanwhile, and then the seats from the first one on.
-/

namespace WordGame

namespace Rotation

/-- A seat is not skipped when the turn passes on. -/
def Unskipped (turn next seat : Nat) : Prop :=
  turn < next ∧ (seat ≤ turn ∨ next ≤ seat) ∨ next ≤ seat ∧ seat ≤ turn

/-- On its way round from an origin the turn has been at a seat. -/
def Reached (origin turn seat : Nat) : Prop :=
  origin < seat ∧ (seat ≤ turn ∨ turn ≤ origin) ∨ seat ≤ turn ∧ turn ≤ origin

/-- How often a seat had the turn on the way round from an origin. -/
inductive Sweep (origin seat : Nat) : Nat → Nat → Prop
  | fresh : Sweep origin seat origin 0
  | ahead {turn : Nat} (away : turn ≠ origin) (unreached : ¬Reached origin turn seat) :
      Sweep origin seat turn 0
  | behind {turn : Nat} (away : turn ≠ origin) (reached : Reached origin turn seat) :
      Sweep origin seat turn 1

variable {origin seat turn next count : Nat}

/-- A step of less than a whole round passes the front once at most. -/
theorem wrap_cases {turn step count : Nat} (within : turn < count) (less : step < count) :
    (turn + (step + 1)) % count = turn + (step + 1) ∨
      (turn + (step + 1)) % count + count = turn + (step + 1) := by
  by_cases short : turn + (step + 1) < count
  · exact .inl (Nat.mod_eq_of_lt short)
  · have reached : count ≤ turn + (step + 1) := Nat.le_of_not_lt short
    have once : turn + (step + 1) - count < count := by omega
    rw [Nat.mod_eq_sub_mod reached, Nat.mod_eq_of_lt once]
    omega

theorem unskipped_turn (turn next : Nat) : Unskipped turn next turn := by
  unfold Unskipped
  omega

theorem Sweep.step (sweep : Sweep origin seat turn count) (other : seat ≠ origin)
    (away : next ≠ origin) (round : Unskipped turn next origin)
    (unskipped : Unskipped turn next seat) :
    Sweep origin seat next (count + if next = seat then 1 else 0) := by
  unfold Unskipped at round unskipped
  by_cases arrives : next = seat
  · subst arrives
    rw [if_pos rfl]
    have reached : Reached origin next next := by
      unfold Reached
      omega
    cases sweep with
    | fresh | ahead => exact .behind away reached
    | behind _ earlier =>
      -- To be at a seat again the turn would have to skip the origin.
      unfold Reached at earlier
      omega
  · rw [if_neg arrives]
    cases sweep with
    | fresh =>
      refine .ahead away ?_
      unfold Reached
      omega
    | ahead apart unreached =>
      refine .ahead away ?_
      unfold Reached at unreached ⊢
      omega
    | behind apart reached =>
      refine .behind away ?_
      unfold Reached at reached ⊢
      omega

/-- When the turn is back, everybody has had theirs. -/
theorem Sweep.closes (sweep : Sweep origin seat turn count) (other : seat ≠ origin)
    (unskipped : Unskipped turn origin seat) : count = 1 := by
  unfold Unskipped at unskipped
  cases sweep with
  | fresh => omega
  | ahead away unreached =>
    unfold Reached at unreached
    omega
  | behind => rfl

end Rotation

namespace Room

open Rotation

variable {rules : Rules} {supply : Supply} {room : Room} {move : Move} {play later : Play}

theorem cycle_getElem? (room : Room) {step : Nat} (within : step < room.players.length) :
    room.cycle[step]? = some ((room.turnIndex + (step + 1)) % room.players.length) := by
  unfold cycle
  rw [List.getElem?_map, List.getElem?_range within]
  rfl

theorem nearest_of_next? {index : Nat} {player : PlayerId}
    (next : room.next? = some (index, player)) :
    ∃ distance < room.players.length,
      index = (room.turnIndex + (distance + 1)) % room.players.length ∧
        ∀ nearer < distance,
          room.aliveAt? ((room.turnIndex + (nearer + 1)) % room.players.length) = none := by
  obtain ⟨before, after, split, _, free⟩ := (room.firstAlive?_eq_some_iff _ _ _).mp next
  have length : room.cycle.length = room.players.length := by
    unfold cycle
    rw [List.length_map, List.length_range]
  have within : before.length < room.players.length := by
    rw [← length, split, List.length_append, List.length_cons]
    omega
  refine ⟨before.length, within, ?_, ?_⟩
  · have found := room.cycle_getElem? within
    rw [split, List.getElem?_append_right (Nat.le_refl _), Nat.sub_self] at found
    exact Option.some.inj found
  · intro nearer less
    have passed := room.cycle_getElem? (Nat.lt_trans less within)
    rw [split, List.getElem?_append_left less] at passed
    exact free _ (List.mem_of_getElem? passed)

theorem unskipped_of_next? {index seat : Nat} {player holder : PlayerId}
    (next : room.next? = some (index, player)) (within : room.turnIndex < room.players.length)
    (living : room.aliveAt? seat = some holder) : Unskipped room.turnIndex index seat := by
  obtain ⟨distance, _, found, free⟩ := nearest_of_next? next
  have seated : seat < room.players.length :=
    (List.getElem?_eq_some_iff.mp ((room.aliveAt?_eq_some_iff _ _).mp living).1).1
  obtain ⟨step, stepWithin, same⟩ : ∃ step < room.players.length,
      seat = (room.turnIndex + (step + 1)) % room.players.length := by
    have listed := (room.mem_cycle_iff seat).mpr seated
    unfold cycle at listed
    obtain ⟨step, ranged, same⟩ := List.mem_map.mp listed
    exact ⟨step, List.mem_range.mp ranged, same.symm⟩
  have notNearer : distance ≤ step := by
    by_contra nearer
    have nobody := free step (Nat.lt_of_not_le nearer)
    rw [← same, living] at nobody
    cases nobody
  have indexWrap := wrap_cases within (Nat.lt_of_le_of_lt notNearer stepWithin)
  have seatWrap := wrap_cases within stepWithin
  rw [← found] at indexWrap
  rw [← same] at seatWrap
  have less : index < room.players.length := by
    rw [found]
    exact Nat.mod_lt _ (Nat.zero_lt_of_lt within)
  unfold Unskipped
  omega

/-- What a move does to the turn of a running game: it stays where it is, or it passes on without
skipping anybody who was alive. -/
inductive Rotates (room : Room) (play : Play) : Prop
  | stays (ticketless : play.outcome.turn = none) (index : play.room.turnIndex = room.turnIndex) :
      Rotates room play
  | passes (ticket : Ticket) (issued : play.outcome.turn = some ticket)
      (index : play.room.turnIndex = ticket.turnIndex)
      (seated : play.room.players[ticket.turnIndex]? = some ticket.player)
      (unskipped : ∀ seat holder, room.aliveAt? seat = some holder →
        Unskipped room.turnIndex ticket.turnIndex seat) : Rotates room play

/-- Whatever becomes of the player who has the turn, it does not matter to the others. -/
theorem rotates_of_passes (passes : play.Passes rules supply later) (rostered : room.Rostered)
    {player : PlayerId} (seated : room.players[room.turnIndex]? = some player)
    (index : play.room.turnIndex = room.turnIndex) (players : play.room.players = room.players)
    (lives : ∀ query, query ≠ player → play.room.livesOf query = room.livesOf query) :
    room.Rotates later := by
  cases passes with
  | ended => exact .stays rfl index
  | on next holder _ found =>
    have counted := play.countRound_standings next
    have place : (play.countRound next).room.players[next]? = some holder := by
      rw [counted.players]
      exact (seated_of_firstAlive? found).1
    refine .passes _ rfl rfl place ?_
    intro seat other living
    change Unskipped room.turnIndex next seat
    by_cases here : seat = room.turnIndex
    · rw [here]
      exact unskipped_turn _ _
    · obtain ⟨sits, alive⟩ := (room.aliveAt?_eq_some_iff seat other).mp living
      have different : other ≠ player := by
        rintro rfl
        exact here (rostered.seat_unique sits seated)
      have still : play.room.aliveAt? seat = some other := by
        refine (play.room.aliveAt?_eq_some_iff seat other).mpr ⟨players ▸ sits, ?_⟩
        unfold isAlive
        rw [lives other different]
        exact alive
      have within : play.room.turnIndex < play.room.players.length := by
        rw [index, players]
        exact (List.getElem?_eq_some_iff.mp seated).1
      rw [← index]
      exact unskipped_of_next? found within still

theorem Step.rotates (step : room.Step rules supply move play) (rostered : room.Rostered)
    (held : room.TurnHeld) (running : room.phase = .inProgress) : room.Rotates play := by
  obtain ⟨_, holder, current, _⟩ := held running
  have seated := ((room.current?_eq_some_iff holder).mp current).2
  cases step with
  | ignored | reported | enrolled | revived | withdrawn | lost | erred | abandoned | left | decided =>
    exact .stays rfl rfl
  | opened waiting => cases running.symm.trans waiting
  | passed _ passes => exact rotates_of_passes passes rostered seated rfl rfl (fun _ _ => rfl)
  | expired expiring passes =>
    cases current.symm.trans (current?_of_isRunning expiring)
    exact rotates_of_passes passes rostered seated rfl rfl
      (fun query other => room.livesOf_loseLife_of_ne other)
  | accepted _ _ passes => exact rotates_of_passes passes rostered seated rfl rfl (fun _ _ => rfl)
  | failed answering _ _ _ passes =>
    cases current.symm.trans answering
    exact rotates_of_passes passes rostered seated rfl rfl
      (fun query other => room.livesOf_loseLife_of_ne other)
  | resigned _ leaving passes =>
    cases current.symm.trans leaving
    refine rotates_of_passes passes rostered seated rfl rfl ?_
    intro query other
    change (room.eliminate holder).livesOf query = _
    rw [livesOf_eliminate, if_neg other]

theorem perform_rotates (rules : Rules) (supply : Supply) (move : Move)
    (rostered : room.Rostered) (held : room.TurnHeld) (running : room.phase = .inProgress) :
    room.Rotates (room.perform rules supply move) :=
  (room.perform_step rules supply move).rotates rostered held running

theorem running_of_perform (rules : Rules) (supply : Supply) (begun : room.phase ≠ .waiting)
    (running : (room.perform rules supply move).room.phase = .inProgress) :
    room.phase = .inProgress := by
  cases phase : room.phase with
  | waiting => exact absurd phase begun
  | inProgress => rfl
  | finished =>
    have finished := (room.perform_sequel rules supply move).finished phase
    cases running.symm.trans finished

theorem seated_of_issued {ticket : Ticket}
    (issued : (room.perform rules supply move).outcome.turn = some ticket) :
    let later := (room.perform rules supply move).room
    later.phase = .inProgress ∧ later.turnIndex = ticket.turnIndex ∧
      later.players[later.turnIndex]? = some ticket.player := by
  intro later
  cases room.perform_sequel rules supply move with
  | same _ _ _ _ ticketless => cases issued.symm.trans ticketless
  | ended _ _ ticketless => cases issued.symm.trans ticketless
  | turn other _ _ running same =>
    cases issued.symm.trans same
    have running := ((later.runningTicket?_eq_some_iff ticket).mp running).1
    obtain ⟨_, _, index, current⟩ := (later.isRunning_iff ticket).mp running
    obtain ⟨phase, seated⟩ := (later.current?_eq_some_iff _).mp current
    exact ⟨phase, index, seated⟩

end Room

namespace Course

open Rotation

structure Lasts (course later : Course) : Prop where
  roster : course.room.players <+: later.room.players
  rostered : later.room.Rostered
  held : later.room.TurnHeld
  begun : later.room.phase ≠ .waiting

variable {rules : Rules} {course later : Course}

namespace Lasts

theorem step (lasts : course.Lasts later) (rules : Rules) (move : Move × Supply) :
    course.Lasts (later.step rules move) where
  roster := lasts.roster.trans (later.room.players_prefix_perform rules move.2 move.1)
  rostered := Room.perform_rostered rules move.2 move.1 lasts.rostered
  held := Room.perform_turnHeld rules move.2 move.1 lasts.rostered lasts.held
  begun waiting :=
    lasts.begun ((later.room.perform_sequel rules move.2 move.1).waiting waiting)

theorem seated (lasts : course.Lasts later) {seat : Nat} {player : PlayerId}
    (sits : course.room.players[seat]? = some player) :
    later.room.players[seat]? = some player :=
  Room.seated_of_prefix lasts.roster sits

theorem hasPlayer (lasts : course.Lasts later) {seat : Nat} {player : PlayerId}
    (sits : later.room.players[seat]? = some player) : later.room.hasPlayer player = true :=
  (lasts.rostered.hasPlayer_iff player).mpr (List.mem_of_getElem? sits)

end Lasts

theorem run_lasts (rostered : course.room.Rostered) (held : course.room.TurnHeld)
    (begun : course.room.phase ≠ .waiting) (moves : List (Move × Supply)) :
    course.Lasts (course.run rules moves) :=
  run_induction rules (fun later => course.Lasts later) (fun _ move lasts => lasts.step rules move)
    course moves ⟨List.prefix_refl _, rostered, held, begun⟩

/-- How often a player had the turn on the way round from a seat. -/
def Sweeps (course : Course) (origin seat : Nat) (player : PlayerId) : Prop :=
  Sweep origin seat course.room.turnIndex
    (course.tickets.countP (fun ticket => ticket.player = player))

/-- The turn goes on to somebody else than the player it came from, who stays alive. -/
theorem Sweeps.step {player other : PlayerId} {origin seat : Nat} {move : Move × Supply}
    (sweeps : course.Sweeps origin seat other) (rostered : course.room.Rostered)
    (held : course.room.TurnHeld) (running : course.room.phase = .inProgress)
    (different : seat ≠ origin) (started : course.room.aliveAt? origin = some player)
    (sits : course.room.aliveAt? seat = some other)
    (unturned : ∀ ticket ∈ (course.step rules move).tickets, ticket.player ≠ player) :
    (course.step rules move).Sweeps origin seat other := by
  have roster := course.room.players_prefix_perform rules move.2 move.1
  have keeps := Room.perform_rostered rules move.2 move.1 rostered
  have rotates := Room.perform_rotates rules move.2 move.1 rostered held running
  unfold Sweeps Course.step extend at *
  generalize course.room.perform rules move.2 move.1 = play at *
  cases rotates with
  | stays ticketless index =>
    rw [ticketless, index]
    change Sweep _ _ _ ((course.tickets ++ []).countP _)
    rw [List.append_nil]
    exact sweeps
  | passes ticket issued index holds unskipped =>
    rw [issued] at unturned ⊢
    have originHolds := Room.seated_of_prefix roster
      ((course.room.aliveAt?_eq_some_iff origin player).mp started).1
    have seatHolds := Room.seated_of_prefix roster
      ((course.room.aliveAt?_eq_some_iff seat other).mp sits).1
    have away : ticket.turnIndex ≠ origin := by
      intro back
      have holder := originHolds.symm.trans (back ▸ holds)
      have listed := unturned ticket (List.mem_append_right _ List.mem_cons_self)
      exact listed (Option.some.inj holder).symm
    have same : ticket.turnIndex = seat ↔ ticket.player = other := by
      constructor
      · rintro rfl
        exact Option.some.inj (holds.symm.trans seatHolds)
      · rintro rfl
        exact keeps.seat_unique holds seatHolds
    have swept := Sweep.step sweeps different away (unskipped origin player started)
      (unskipped seat other sits)
    rw [index]
    change Sweep _ _ _ ((course.tickets ++ [ticket]).countP _)
    rw [List.countP_append, List.countP_singleton]
    simpa only [same, decide_eq_true_eq] using swept

/-- Until the turn is back, a player who stays alive has had it as often as it came by. -/
theorem run_sweeps (rostered : course.room.Rostered) (held : course.room.TurnHeld)
    (begun : course.room.phase ≠ .waiting) {player other : PlayerId} {origin seat : Nat}
    (started : course.room.players[origin]? = some player)
    (sits : course.room.players[seat]? = some other) (different : seat ≠ origin)
    (initially : course.Sweeps origin seat other)
    (moves : List (Move × Supply)) (running : (course.run rules moves).room.phase = .inProgress)
    (alive : (course.run rules moves).room.isAlive player = true)
    (living : (course.run rules moves).room.isAlive other = true)
    (unturned : ∀ ticket ∈ (course.run rules moves).tickets, ticket.player ≠ player) :
    (course.run rules moves).Sweeps origin seat other := by
  -- From the end of the run, since those who are alive there were alive all the time.
  induction moves using List.reverseRecOn with
  | nil => exact initially
  | append_singleton moves move ih =>
    rw [run_append] at running alive living unturned ⊢
    have lasts : course.Lasts (course.run rules moves) := run_lasts rostered held begun moves
    have started := lasts.seated started
    have sits := lasts.seated sits
    generalize course.run rules moves = middle at *
    have running := Room.running_of_perform rules move.2 lasts.begun running
    have alive := Room.isAlive_of_perform rules move.2 lasts.begun (lasts.hasPlayer started) alive
    have living := Room.isAlive_of_perform rules move.2 lasts.begun (lasts.hasPlayer sits) living
    have earlier := ih running alive living
      (fun ticket member => unturned ticket (List.mem_append_left _ member))
    exact earlier.step lasts.rostered lasts.held running different
      ((middle.room.aliveAt?_eq_some_iff _ _).mpr ⟨started, alive⟩)
      ((middle.room.aliveAt?_eq_some_iff _ _).mpr ⟨sits, living⟩) unturned

/-- Between two turns of a player everybody else who stays alive has exactly one. -/
theorem countP_tickets_between (rules : Rules) {room : Room} (rostered : room.Rostered)
    (held : room.TurnHeld) (first second : Move × Supply) (between : List (Move × Supply))
    (player other : PlayerId) :
    let started := room.perform rules first.2 first.1
    let course := (begin started.room).run rules between
    let again := course.room.perform rules second.2 second.1
    started.outcome.turn.map Ticket.player = some player →
      again.outcome.turn.map Ticket.player = some player →
      (∀ ticket ∈ course.tickets, ticket.player ≠ player) → other ≠ player →
      started.room.isAlive other = true → course.room.isAlive other = true →
        course.tickets.countP (fun ticket => ticket.player = other) = 1 := by
  intro started course again starts restarts unturned different aliveFirst aliveLast
  obtain ⟨ticket, issued, rfl⟩ := Option.map_eq_some_iff.mp starts
  obtain ⟨next, reissued, same⟩ := Option.map_eq_some_iff.mp restarts
  obtain ⟨phase, _, seated⟩ := Room.seated_of_issued issued
  obtain ⟨phaseNext, indexNext, seatedNext⟩ := Room.seated_of_issued reissued
  have rosteredFirst := Room.perform_rostered rules first.2 first.1 rostered
  have heldFirst := Room.perform_turnHeld rules first.2 first.1 rostered held
  have begun : started.room.phase ≠ .waiting := by
    rw [phase]
    decide
  obtain ⟨seat, sits⟩ := rosteredFirst.seat_of_isAlive aliveFirst
  have apart : seat ≠ started.room.turnIndex := by
    rintro rfl
    exact different (Option.some.inj (sits.symm.trans seated))
  have lasts : (Course.begin started.room).Lasts course :=
    run_lasts rosteredFirst heldFirst begun between
  have rosteredNext := Room.perform_rostered rules second.2 second.1 lasts.rostered
  have heldNext := Room.perform_turnHeld rules second.2 second.1 lasts.rostered lasts.held
  have running := Room.running_of_perform rules second.2 lasts.begun phaseNext
  have stays := lasts.step rules second
  -- The player was alive before the second turn too.
  have alive : course.room.isAlive next.player = true := by
    obtain ⟨_, holder, current, living⟩ := heldNext phaseNext
    have seatedHolder := ((again.room.current?_eq_some_iff holder).mp current).2
    cases seatedHolder.symm.trans seatedNext
    have present := lasts.hasPlayer (lasts.seated (same ▸ seated))
    exact Room.isAlive_of_perform rules second.2 lasts.begun present living
  rw [same] at alive
  have initially : (Course.begin started.room).Sweeps started.room.turnIndex seat other :=
    Sweep.fresh
  have sweeps : course.Sweeps started.room.turnIndex seat other :=
    run_sweeps rosteredFirst heldFirst begun seated sits apart initially between running alive
      aliveLast unturned
  cases Room.perform_rotates rules second.2 second.1 lasts.rostered lasts.held running with
  | stays ticketless => cases reissued.symm.trans ticketless
  | passes other issued index holds unskipped =>
    cases reissued.symm.trans issued
    have back : next.turnIndex = started.room.turnIndex :=
      rosteredNext.seat_unique holds (same ▸ stays.seated seated)
    rw [back] at unskipped
    exact sweeps.closes apart (unskipped seat _ ((course.room.aliveAt?_eq_some_iff _ _).mpr
      ⟨lasts.seated sits, aliveLast⟩))

end Course

end WordGame
