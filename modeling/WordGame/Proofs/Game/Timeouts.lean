import Mathlib
import WordGame.Proofs.Game.Tickets

/-!
Timeouts. A ticket counts as long as its turn is running, and a timeout that counts ends that turn.
So a ticket never costs a second life, however often it is offered and to whatever room.
-/

namespace WordGame

namespace Room

variable {rules : Rules} {supply : Supply} {room later : Room} {ticket : Ticket}

theorem messages_expire_ne_nil (running : room.isRunning ticket = true) :
    (room.expire rules supply ticket).outcome.messages ≠ [] := by
  unfold expire
  rw [if_pos running]
  exact ((room.timeUp ticket.player).advance_passes (running_of_isRunning running)).told

def livesLost (room later : Room) : Nat :=
  (room.players.map fun player =>
    (room.livesOf player).toNat - (later.livesOf player).toNat).sum

theorem livesLost_self (room : Room) : room.livesLost room = 0 := by
  apply List.sum_eq_zero
  intro lost member
  obtain ⟨player, _, same⟩ := List.mem_map.mp member
  omega

theorem livesLost_of_same {altered : Room} (same : altered.SameStandings later) :
    room.livesLost later = room.livesLost altered := by
  unfold livesLost
  congr 1
  apply List.map_congr_left
  intro player _
  rw [same.livesOf]

theorem livesLost_loseLife_le (distinct : room.players.Nodup) (player : PlayerId) :
    room.livesLost (room.loseLife player) ≤ 1 := by
  have others : ∀ query, query ≠ player → query ∈ room.players →
      (room.livesOf query).toNat - ((room.loseLife player).livesOf query).toNat = 0 := by
    intro query different _
    rw [room.livesOf_loseLife_of_ne different, Nat.sub_self]
  unfold livesLost
  rw [List.sum_map_eq_nsmul_single player _ others, toNat_livesOf_loseLife]
  have once := List.nodup_iff_count_le_one.mp distinct player
  have lost : (room.livesOf player).toNat - ((room.livesOf player).toNat - 1) ≤ 1 := by omega
  exact Nat.mul_le_mul once lost

theorem livesLost_expire_le (rules : Rules) (supply : Supply) (distinct : room.players.Nodup)
    (ticket : Ticket) : room.livesLost (room.expire rules supply ticket).room ≤ 1 := by
  have step := room.perform_step rules supply (.expire ticket)
  obtain ⟨altered, alters, same⟩ := step.alters
  change altered.SameStandings (room.expire rules supply ticket).room at same
  rw [livesLost_of_same same]
  cases alters with
  | not =>
    rw [livesLost_self]
    exact Nat.zero_le 1
  | expires => exact livesLost_loseLife_le distinct ticket.player

end Room

namespace Hall

def livesTaken (ticket : Ticket) (hall : Hall) (move : HallMove × Engine) : Nat :=
  match move.1 with
  | .inRoom position (.expire offered) =>
    match hall.courses[position]? with
    | some course =>
      if offered = ticket then
        course.room.livesLost (course.room.expire move.2.rules (hall.supply move.2) ticket).room
      else 0
    | none => 0
  | _ => 0

def livesTakenIn (ticket : Ticket) (hall : Hall) : List (HallMove × Engine) → Nat
  | [] => 0
  | move :: rest => hall.livesTaken ticket move + (hall.step move).livesTakenIn ticket rest

/-- No turn has the number that is running or has yet to start. -/
structure Spent (hall : Hall) (number : UInt64) : Prop where
  past : number.toNat ≤ hall.turns.toNat
  idle : ∀ (place : Nat) (course : Course), hall.courses[place]? = some course →
    course.room.phase = .inProgress → course.room.turnNumber ≠ number

variable {hall later : Hall} {base position : Nat} {number : UInt64} {ticket : Ticket}
  {happening : HallMove} {engine : Engine} {course : Course}

theorem Spent.stale (spent : hall.Spent ticket.number)
    (present : hall.courses[position]? = some course) : course.room.isRunning ticket = false := by
  cases running : course.room.isRunning ticket with
  | false => rfl
  | true =>
    have numbered := ((course.room.isRunning_iff ticket).mp running).2.1
    have inProgress := Room.running_of_isRunning running
    exact absurd numbered (spent.idle position course present inProgress)

/-- A number that is past is not that of the turn that runs after a move, unless it was before and
the move does not end that turn. -/
theorem turnNumber_ne_of_past {supply : Supply} {before : Course} {move : Move} {play : Play}
    (past : number.toNat ≤ hall.turns.toNat) (sequel : before.room.Sequel supply move play)
    (next : supply.turnNumber = hall.turns + 1) (counts : hall.Counts play)
    (different : before.room.phase = .inProgress → before.room.Undisturbed move →
      before.room.turnNumber ≠ number)
    (running : play.room.phase = .inProgress) : play.room.turnNumber ≠ number := by
  have fresh : ∀ ticket, play.outcome.turn = some ticket →
      ticket.number.toNat = hall.turns.toNat + 1 :=
    fun _ issued => toNat_number_of_issued issued sequel next counts
  cases sequel with
  | same undisturbed phase same =>
    rw [same]
    exact different (phase.symm.trans running) undisturbed
  | ended _ finished => cases finished.symm.trans running
  | turn ticket _ _ current issued =>
    rw [Room.turnNumber_of_runningTicket? current]
    rintro rfl
    have bound := fresh ticket issued
    omega

theorem Spent.step (spent : hall.Spent number) (counted : hall.Counted base)
    (step : hall.Step engine happening later) (small : base + later.started < UInt64.size) :
    later.Spent number := by
  cases step with
  | founded =>
    refine ⟨spent.past, ?_⟩
    intro place course present running
    rcases courses_found present with old | new
    · exact spent.idle place course old running
    · rw [new] at running
      cases running
  | missed => exact spent
  | @played position move before present =>
    have counts := counted.counts small
    have sequel := before.room.perform_sequel engine.rules (hall.supply engine) move
    have turns := toNat_turns_play position sequel rfl counts
    constructor
    · rw [turns]
      exact Nat.le_trans spent.past (Nat.le_add_right _ _)
    · intro place course after running
      rcases courses_play after with ⟨_, same⟩ | ⟨_, old⟩
      · subst same
        exact turnNumber_ne_of_past spent.past sequel rfl counts
          (fun before _ => spent.idle position _ present before) running
      · exact spent.idle place course old running

/-- A timeout that counts is the last of its ticket. -/
theorem Counted.spent (counted : hall.Counted base) (present : hall.courses[position]? = some course)
    (running : course.room.isRunning ticket = true)
    (small : base + (hall.play position course
      (course.room.perform engine.rules (hall.supply engine) (.expire ticket))).started < UInt64.size) :
    (hall.play position course
      (course.room.perform engine.rules (hall.supply engine) (.expire ticket))).Spent
      ticket.number := by
  have counts := counted.counts small
  have sequel := course.room.perform_sequel engine.rules (hall.supply engine) (.expire ticket)
  have turns := toNat_turns_play position sequel rfl counts
  have inProgress := Room.running_of_isRunning running
  have numbered := ((course.room.isRunning_iff ticket).mp running).2.1
  obtain ⟨latest, current, last⟩ := counted.ticketed.latest position course present inProgress
  rw [Room.turnNumber_of_runningTicket? current] at numbered
  have issued : hall.Issued position latest := ⟨course, present, List.mem_of_getLast? last⟩
  have past : ticket.number.toNat ≤ hall.turns.toNat := by
    rw [← numbered]
    exact counted.ticketed.bounded position latest issued
  constructor
  · rw [turns]
    exact Nat.le_trans past (Nat.le_add_right _ _)
  · intro place other after playing
    rcases courses_play after with ⟨_, same⟩ | ⟨elsewhere, old⟩
    · subst same
      refine turnNumber_ne_of_past past sequel rfl counts ?_ playing
      intro _ stale
      cases running.symm.trans stale
    · intro same
      obtain ⟨rival, rivalling, newest⟩ := counted.ticketed.latest place other old playing
      rw [Room.turnNumber_of_runningTicket? rivalling, ← numbered] at same
      have rivalIssued : hall.Issued place rival := ⟨other, old, List.mem_of_getLast? newest⟩
      exact elsewhere
        (counted.ticketed.distinct place position rival latest rivalIssued issued same).1

theorem livesTaken_of_spent (spent : hall.Spent ticket.number) (move : HallMove × Engine) :
    hall.livesTaken ticket move = 0 := by
  unfold livesTaken
  split
  · split
    · rename_i course present
      split
      · rw [Room.expire_of_stale (spent.stale present)]
        exact course.room.livesLost_self
      · rfl
    · rfl
  · rfl

theorem livesTakenIn_of_spent (spent : hall.Spent ticket.number) (counted : hall.Counted base)
    (moves : List (HallMove × Engine)) (small : base + (hall.run moves).started < UInt64.size) :
    hall.livesTakenIn ticket moves = 0 := by
  induction moves generalizing hall with
  | nil => rfl
  | cons move rest ih =>
    rw [run_cons] at small
    have step := hall.step_step move.1 move.2
    have fewer := (hall.step move).started_le_run rest
    have less : base + (hall.step move).started < UInt64.size := by omega
    unfold livesTakenIn
    rw [livesTaken_of_spent spent move, Nat.zero_add]
    exact ih (spent.step counted step less) (counted.step step less) small

/-- A move that takes a life by offering the ticket takes one, and the ticket is spent. -/
theorem livesTaken_cases (counted : hall.Counted base) (ticket : Ticket)
    (move : HallMove × Engine) (small : base + (hall.step move).started < UInt64.size) :
    hall.livesTaken ticket move = 0 ∨
      hall.livesTaken ticket move ≤ 1 ∧ (hall.step move).Spent ticket.number := by
  unfold livesTaken
  split
  · rename_i position offered happening
    split
    · rename_i course present
      split
      · rename_i same
        obtain ⟨_, engine⟩ := move
        subst same happening
        cases running : course.room.isRunning offered with
        | false =>
          rw [Room.expire_of_stale running]
          exact .inl course.room.livesLost_self
        | true =>
          rw [step_of_present engine _ present] at small ⊢
          have distinct := (counted.ticketed.rostered position course present).nodup
          exact .inr ⟨Room.livesLost_expire_le engine.rules _ distinct offered,
            counted.spent present running small⟩
      · exact .inl rfl
    · exact .inl rfl
  · exact .inl rfl

theorem livesTakenIn_le_one (counted : hall.Counted base) (ticket : Ticket)
    (moves : List (HallMove × Engine)) (small : base + (hall.run moves).started < UInt64.size) :
    hall.livesTakenIn ticket moves ≤ 1 := by
  induction moves generalizing hall with
  | nil => exact Nat.zero_le 1
  | cons move rest ih =>
    rw [run_cons] at small
    have step := hall.step_step move.1 move.2
    have fewer := (hall.step move).started_le_run rest
    have less : base + (hall.step move).started < UInt64.size := by omega
    have later := counted.step step less
    unfold livesTakenIn
    rcases livesTaken_cases counted ticket move less with none | ⟨one, spent⟩
    · rw [none, Nat.zero_add]
      exact ih later small
    · rw [livesTakenIn_of_spent spent later rest small]
      exact one

/-- However the rooms of a hall are played in, as long as the counter of their turns does not come
round: a timeout comes to something just where its ticket is the latest of the room and the game is
running. Anywhere else it changes nothing and nothing is said. And no ticket ever takes more than one
life. The rooms need not even have epochs of their own. -/
theorem timeouts_count_once (turns : UInt64) (moves : List (HallMove × Engine))
    (small : turns.toNat + ((begin turns).run moves).started < UInt64.size) :
    let hall := (begin turns).run moves
    (∀ issuer ticket, hall.Issued issuer ticket →
      ∀ (place : Nat) (course : Course), hall.courses[place]? = some course →
      ∀ (rules : Rules) (supply : Supply),
        let play := course.room.expire rules supply ticket
        let genuine :=
          course.room.phase = .inProgress ∧ course.tickets.getLast? = some ticket
        (play.room ≠ course.room ∨ play.outcome.messages ≠ [] ↔ genuine) ∧
          (¬genuine → play.room = course.room ∧ play.outcome = .nothing)) ∧
      ∀ ticket, (begin turns).livesTakenIn ticket moves ≤ 1 := by
  intro hall
  have initially : (begin turns).Counted turns.toNat := ⟨rfl, begin_ticketed turns⟩
  have counted := initially.run moves small
  constructor
  · intro issuer ticket issued place course present rules supply play genuine
    have running := counted.ticketed.isRunning_iff issued present
    have stale : ¬genuine → play = Play.begin course.room := by
      intro other
      apply Room.expire_of_stale
      rw [← Bool.not_eq_true, running]
      exact other
    refine ⟨⟨?_, ?_⟩, ?_⟩
    · intro something
      by_contra other
      rw [stale other] at something
      rcases something with changed | told
      · exact changed rfl
      · exact told rfl
    · intro genuine
      exact .inr (Room.messages_expire_ne_nil (running.mpr genuine))
    · intro other
      rw [stale other]
      exact ⟨rfl, rfl⟩
  · intro ticket
    exact livesTakenIn_le_one initially ticket moves small

/-- Two rooms of one epoch, each with a running turn of the same player: the ticket of the first
comes to something there and to nothing in the second room. -/
theorem timeouts_count_once_in_two_rooms :
    let engine : Engine := ⟨⟨{}, ⟨fun _ => false, fun _ _ => false⟩⟩, fun _ => "the"⟩
    let happenings : List HallMove :=
      [.found 7 0 10 3, .found 8 0 10 3, .inRoom 0 (.add 20 3), .inRoom 1 (.add 20 3),
        .inRoom 0 .start, .inRoom 1 .start]
    let hall := (begin 0).run (happenings.map fun happening => (happening, engine))
    let ticket : Ticket := ⟨0, 1, 0, 10, 19⟩
    hall.started < UInt64.size ∧ ∃ first second,
      hall.courses[0]? = some first ∧ hall.courses[1]? = some second ∧
      ((first.room.expire engine.rules (hall.supply engine) ticket).room ≠ first.room ∨
        (first.room.expire engine.rules (hall.supply engine) ticket).outcome.messages ≠ []) ∧
      (second.room.expire engine.rules (hall.supply engine) ticket).room = second.room := by
  intro engine happenings hall ticket
  let state (course : Course) := (course.room.phase, course.tickets)
  have small : (0 : UInt64).toNat + hall.started < UInt64.size := by decide +kernel
  have firstState : hall.courses[0]?.map state = some (.inProgress, [ticket]) := by decide +kernel
  have secondState : hall.courses[1]?.map state = some (.inProgress, [⟨0, 2, 0, 10, 19⟩]) := by
    decide +kernel
  obtain ⟨first, present, same⟩ := Option.map_eq_some_iff.mp firstState
  obtain ⟨second, listed, other⟩ := Option.map_eq_some_iff.mp secondState
  obtain ⟨running, tickets⟩ := Prod.mk.inj same
  obtain ⟨_, others⟩ := Prod.mk.inj other
  have issued : hall.Issued 0 ticket := ⟨first, present, tickets ▸ List.mem_cons_self⟩
  have counted := And.left (timeouts_count_once 0 _ small) 0 ticket issued
  have here := counted 0 first present engine.rules (hall.supply engine)
  have there := counted 1 second listed engine.rules (hall.supply engine)
  refine ⟨by decide +kernel, first, second, present, listed, ?_, ?_⟩
  · refine here.1.mpr ⟨running, ?_⟩
    rw [tickets]
    rfl
  · refine (there.2 ?_).1
    rintro ⟨_, latest⟩
    rw [others] at latest
    revert latest
    decide

end Hall

end WordGame
