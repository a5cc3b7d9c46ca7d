import WordGame.Proofs.Game.Roster
import WordGame.Proofs.Game.Sequel

/-!
The tickets that were handed out in a hall. Until the counter of turns comes round, no two of them
have the same number, so a number tells for which turn of which room a ticket is. The running turn of
a room is the one of its latest ticket.
-/

namespace WordGame.Hall

def Issued (hall : Hall) (place : Nat) (ticket : Ticket) : Prop :=
  ∃ course, hall.courses[place]? = some course ∧ ticket ∈ course.tickets

structure Ticketed (hall : Hall) : Prop where
  rostered : ∀ (place : Nat) (course : Course), hall.courses[place]? = some course →
    course.room.Rostered
  bounded : ∀ place ticket, hall.Issued place ticket → ticket.number.toNat ≤ hall.turns.toNat
  distinct : ∀ place other ticket rival, hall.Issued place ticket → hall.Issued other rival →
    ticket.number = rival.number → place = other ∧ ticket = rival
  latest : ∀ (place : Nat) (course : Course), hall.courses[place]? = some course →
    course.room.phase = .inProgress →
      ∃ ticket, course.room.runningTicket? = some ticket ∧ course.tickets.getLast? = some ticket

variable {hall : Hall} {place position : Nat} {course before : Course} {room : Room}
  {play : Play}

theorem begin_ticketed (turns : UInt64) : (begin turns).Ticketed := by
  constructor
  · intro _ _ present
    cases present
  · rintro _ _ ⟨_, present, _⟩
    cases present
  · rintro _ _ _ _ ⟨_, present, _⟩
    cases present
  · intro _ _ present
    cases present

theorem courses_found (present : (hall.found room).courses[place]? = some course) :
    hall.courses[place]? = some course ∨ course = Course.begin room := by
  change (hall.courses ++ [Course.begin room])[place]? = some course at present
  rw [List.getElem?_append] at present
  split at present
  · exact .inl present
  · exact .inr (List.mem_singleton.mp (List.mem_of_getElem? present))

theorem courses_play (present : (hall.play position before play).courses[place]? = some course) :
    place = position ∧ course = before.extend play ∨
      place ≠ position ∧ hall.courses[place]? = some course := by
  change (hall.courses.set position (before.extend play))[place]? = some course at present
  rw [List.getElem?_set] at present
  split at present
  · rename_i here
    split at present
    · cases present
      exact .inl ⟨here.symm, rfl⟩
    · cases present
  · rename_i other
    exact .inr ⟨fun same => other same.symm, present⟩

theorem issued_found {ticket : Ticket} (issued : (hall.found room).Issued place ticket) :
    hall.Issued place ticket := by
  obtain ⟨course, present, member⟩ := issued
  rcases courses_found present with old | new
  · exact ⟨course, old, member⟩
  · rw [new] at member
    cases member

theorem issued_play {ticket : Ticket} (present : hall.courses[position]? = some before)
    (issued : (hall.play position before play).Issued place ticket) :
    hall.Issued place ticket ∨ place = position ∧ play.outcome.turn = some ticket := by
  obtain ⟨course, after, member⟩ := issued
  rcases courses_play after with ⟨here, same⟩ | ⟨_, old⟩
  · subst here same
    rcases List.mem_append.mp member with earlier | latest
    · exact .inl ⟨before, present, earlier⟩
    · exact .inr ⟨rfl, Option.mem_toList.mp latest⟩
  · exact .inl ⟨course, old, member⟩

theorem Ticketed.founded (ticketed : hall.Ticketed) (rostered : room.Rostered)
    (waiting : room.phase = .waiting) : (hall.found room).Ticketed := by
  constructor
  · intro place course present
    rcases courses_found present with old | new
    · exact ticketed.rostered place course old
    · rw [new]
      exact rostered
  · intro place ticket issued
    exact ticketed.bounded place ticket (issued_found issued)
  · intro place other ticket rival issued rivalling same
    exact ticketed.distinct place other ticket rival (issued_found issued) (issued_found rivalling)
      same
  · intro place course present running
    rcases courses_found present with old | new
    · exact ticketed.latest place course old running
    · rw [new] at running
      cases waiting.symm.trans running

def Counts (hall : Hall) (play : Play) : Prop :=
  play.outcome.turn.isSome = true → hall.turns.toNat + 1 < UInt64.size

variable {supply : Supply} {move : Move}

theorem toNat_number_of_issued {ticket : Ticket} (issued : play.outcome.turn = some ticket)
    (sequel : before.room.Sequel supply move play) (next : supply.turnNumber = hall.turns + 1)
    (counts : hall.Counts play) : ticket.number.toNat = hall.turns.toNat + 1 := by
  cases sequel with
  | same _ _ _ _ ticketless | ended _ _ ticketless => cases ticketless.symm.trans issued
  | turn other _ _ _ same number =>
    cases same.symm.trans issued
    have small := counts (Option.isSome_iff_exists.mpr ⟨_, issued⟩)
    rw [number, next, UInt64.toNat_add]
    exact Nat.mod_eq_of_lt small

theorem toNat_turns_play (position : Nat) (sequel : before.room.Sequel supply move play)
    (next : supply.turnNumber = hall.turns + 1) (counts : hall.Counts play) :
    (hall.play position before play).turns.toNat =
      hall.turns.toNat + play.outcome.turn.toList.length := by
  change (play.outcome.turnsAfter hall.turns).toNat = _
  cases issued : play.outcome.turn with
  | none =>
    rw [Outcome.turnsAfter_of_ticketless _ issued]
    rfl
  | some ticket =>
    rw [Outcome.turnsAfter_of_issued _ issued]
    exact toNat_number_of_issued issued sequel next counts

theorem latest_extend (sequel : before.room.Sequel supply move play)
    (latest : before.room.phase = .inProgress →
      ∃ ticket, before.room.runningTicket? = some ticket ∧ before.tickets.getLast? = some ticket)
    (running : play.room.phase = .inProgress) :
    ∃ ticket, play.room.runningTicket? = some ticket ∧
      (before.extend play).tickets.getLast? = some ticket := by
  unfold Course.extend
  cases sequel with
  | same _ phase _ goesOn ticketless =>
    obtain ⟨ticket, current, last⟩ := latest (phase.symm.trans running)
    rw [ticketless]
    refine ⟨ticket, goesOn ticket current, ?_⟩
    rw [Option.toList_none, List.append_nil]
    exact last
  | ended _ finished => cases finished.symm.trans running
  | turn ticket _ _ current issued =>
    rw [issued]
    exact ⟨ticket, current, List.getLast?_concat⟩

theorem Ticketed.played (ticketed : hall.Ticketed)
    (present : hall.courses[position]? = some before)
    (sequel : before.room.Sequel supply move play) (rostered : play.room.Rostered)
    (next : supply.turnNumber = hall.turns + 1) (counts : hall.Counts play) :
    (hall.play position before play).Ticketed := by
  have turns := toNat_turns_play position sequel next counts
  -- A new ticket has a larger number than all others.
  have newer : ∀ place ticket rival, hall.Issued place ticket →
      play.outcome.turn = some rival → ticket.number ≠ rival.number := by
    intro place ticket rival issued new same
    have bound := ticketed.bounded place ticket issued
    rw [same, toNat_number_of_issued new sequel next counts] at bound
    omega
  constructor
  · intro place course after
    rcases courses_play after with ⟨_, same⟩ | ⟨_, old⟩
    · rw [same]
      exact rostered
    · exact ticketed.rostered place course old
  · intro place ticket issued
    rw [turns]
    rcases issued_play present issued with old | ⟨_, new⟩
    · have bound := ticketed.bounded place ticket old
      omega
    · rw [toNat_number_of_issued new sequel next counts, new]
      exact Nat.le_refl _
  · intro place other ticket rival issued rivalling same
    rcases issued_play present issued with old | ⟨here, new⟩
    · rcases issued_play present rivalling with older | ⟨_, newest⟩
      · exact ticketed.distinct place other ticket rival old older same
      · exact absurd same (newer place ticket rival old newest)
    · rcases issued_play present rivalling with older | ⟨there, again⟩
      · exact absurd same.symm (newer other rival ticket older new)
      · exact ⟨here.trans there.symm, Option.some.inj (new.symm.trans again)⟩
  · intro place course after running
    rcases courses_play after with ⟨_, same⟩ | ⟨_, old⟩
    · subst same
      exact latest_extend sequel (ticketed.latest position before present) running
    · exact ticketed.latest place course old running

/-- A ticket that was handed out is the one of the running turn just where it is the latest. -/
theorem Ticketed.isRunning_iff {issuer : Nat} {ticket : Ticket} (ticketed : hall.Ticketed)
    (issued : hall.Issued issuer ticket) (present : hall.courses[place]? = some course) :
    course.room.isRunning ticket = true ↔
      course.room.phase = .inProgress ∧ course.tickets.getLast? = some ticket := by
  constructor
  · intro running
    have inProgress := Room.running_of_isRunning running
    obtain ⟨latest, current, last⟩ := ticketed.latest place course present inProgress
    have number := ((course.room.isRunning_iff ticket).mp running).2.1
    rw [Room.turnNumber_of_runningTicket? current] at number
    have member : hall.Issued place latest := ⟨course, present, List.mem_of_getLast? last⟩
    have same := (ticketed.distinct place issuer latest ticket member issued number).2
    rw [same] at last
    exact ⟨inProgress, last⟩
  · rintro ⟨inProgress, last⟩
    obtain ⟨latest, current, same⟩ := ticketed.latest place course present inProgress
    cases same.symm.trans last
    exact ((course.room.runningTicket?_eq_some_iff ticket).mp current).1

/-! ### Runs -/

inductive Step (hall : Hall) (engine : Engine) : HallMove → Hall → Prop
  | founded {id : RoomId} {epoch : Epoch} {founder : PlayerId} {lives : UInt32} :
      Step hall engine (.found id epoch founder lives) (hall.found (Room.new id epoch founder lives))
  | missed {position : Nat} {move : Move} (absent : hall.courses[position]? = none) :
      Step hall engine (.inRoom position move) hall
  | played {position : Nat} {move : Move} {course : Course}
      (present : hall.courses[position]? = some course) :
      Step hall engine (.inRoom position move)
        (hall.play position course (course.room.perform engine.rules (hall.supply engine) move))

theorem step_of_present (engine : Engine) (move : Move)
    (present : hall.courses[position]? = some course) :
    hall.step (.inRoom position move, engine) =
      hall.play position course (course.room.perform engine.rules (hall.supply engine) move) := by
  unfold Hall.step
  dsimp only
  rw [present]

theorem step_step (hall : Hall) (move : HallMove) (engine : Engine) :
    hall.Step engine move (hall.step (move, engine)) := by
  cases move with
  | found => exact .founded
  | inRoom position move =>
    cases present : hall.courses[position]? with
    | none =>
      unfold Hall.step
      dsimp only
      rw [present]
      exact .missed present
    | some course =>
      rw [step_of_present engine move present]
      exact .played present

variable {later : Hall} {engine : Engine} {happening : HallMove}

theorem Step.started_le (step : hall.Step engine happening later) :
    hall.started ≤ later.started := by
  cases step with
  | founded | missed => exact Nat.le_refl _
  | played => exact Nat.le_add_right _ _

theorem started_le_run (hall : Hall) (moves : List (HallMove × Engine)) :
    hall.started ≤ (hall.run moves).started := by
  induction moves generalizing hall with
  | nil => exact Nat.le_refl _
  | cons move rest ih =>
    rw [run_cons]
    exact Nat.le_trans (hall.step_step move.1 move.2).started_le (ih (hall.step move))

/-- The counter was at `base` in the beginning and has counted every turn since. -/
structure Counted (base : Nat) (hall : Hall) : Prop where
  turns : hall.turns.toNat = base + hall.started
  ticketed : hall.Ticketed

/-- In a play that may start a turn there is a number left for it. -/
theorem Counted.counts {base : Nat} (counted : hall.Counted base)
    (small : base + (hall.play position before play).started < UInt64.size) : hall.Counts play := by
  intro issued
  obtain ⟨ticket, issued⟩ := Option.isSome_iff_exists.mp issued
  change base + (hall.started + play.outcome.turn.toList.length) < UInt64.size at small
  rw [issued, Option.toList_some, List.length_singleton] at small
  rw [counted.turns]
  omega

theorem Counted.step {base : Nat} (counted : hall.Counted base)
    (step : hall.Step engine happening later) (small : base + later.started < UInt64.size) :
    later.Counted base := by
  cases step with
  | @founded id epoch founder lives =>
    have rostered := Room.new_rostered id epoch founder lives
    exact ⟨counted.turns, counted.ticketed.founded rostered rfl⟩
  | missed => exact counted
  | @played position move course present =>
    have counts := counted.counts small
    have sequel := course.room.perform_sequel engine.rules (hall.supply engine) move
    have rostered := Room.perform_rostered engine.rules (hall.supply engine) move
      (counted.ticketed.rostered position course present)
    constructor
    · rw [toNat_turns_play position sequel rfl counts, counted.turns, Nat.add_assoc]
      rfl
    · exact counted.ticketed.played present sequel rostered rfl counts

theorem Counted.run {base : Nat} (counted : hall.Counted base)
    (moves : List (HallMove × Engine)) (small : base + (hall.run moves).started < UInt64.size) :
    (hall.run moves).Counted base := by
  induction moves generalizing hall with
  | nil => exact counted
  | cons move rest ih =>
    rw [run_cons] at small ⊢
    have fewer := (hall.step move).started_le_run rest
    exact ih (counted.step (hall.step_step move.1 move.2) (by omega)) small

end WordGame.Hall
