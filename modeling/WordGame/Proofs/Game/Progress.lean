import Mathlib.Data.List.Chain
import Mathlib.Data.List.Infix
import Mathlib.Data.Prod.Lex
import WordGame.Proofs.Game.TurnStart

/-!
The progress of a game. A turn comes after the one before it by its round, and in the same round by
its seat, and it takes no longer. Nothing but the start of a turn touches any of that.
-/

namespace WordGame

namespace Rotation

/-- How often a way over seats starts over at the front once it has begun. -/
def wraps : List Nat → Nat
  | [] => 0
  | first :: way => laps first way

end Rotation

namespace GameConfig

theorem toNat_timeLimit (config : GameConfig) (round : UInt32) :
    (config.timeLimit round).toNat =
      max (config.turnTimeCeiling.toNat - round.toNat) config.turnTimeFloor.toNat := by
  unfold timeLimit
  rw [UInt32.toNat_max, truncatedSub_toNat]

theorem timeLimit_anti (config : GameConfig) {round later : UInt32}
    (le : round.toNat ≤ later.toNat) : config.timeLimit later ≤ config.timeLimit round := by
  rw [UInt32.le_iff_toNat_le, config.toNat_timeLimit, config.toNat_timeLimit]
  omega

end GameConfig

namespace Room

open Rotation

/-- When a turn takes place: rounds come one after the other, and in a round the seats do. -/
def moment (room : Room) : Nat ×ₗ Nat := toLex (room.round.toNat, room.turnIndex)

def turnStarts (rules : Rules) (room : Room) : List (Move × Supply) → List Room
  | [] => []
  | (move, supply) :: moves =>
    let play := room.perform rules supply move
    (play.outcome.turn.map fun _ => play.room).toList ++ play.room.turnStarts rules moves

/-- A room at the start of the turn after one that was started earlier. -/
structure Follows (earlier later : Room) : Prop where
  players : earlier.players <+: later.players
  round : later.round =
    earlier.round + UInt32.ofNat (if later.turnIndex ≤ earlier.turnIndex then 1 else 0)

/-- A round is counted just when the turn has not come to a seat behind the last one. -/
def CountsRound (earlier later : Room) : Prop :=
  later.round.toNat = earlier.round.toNat + if later.turnIndex ≤ earlier.turnIndex then 1 else 0

/-- What a room was like at the start of its latest turn, if it has had one. -/
inductive Latest (room : Room) : Option Room → Prop
  | none (idle : room.phase ≠ .inProgress) : Latest room none
  | turn {start : Room} (begun : room.phase ≠ .waiting) (turn : start.SameTurn room)
      (players : start.players <+: room.players) : Latest room (some start)

variable {rules : Rules} {supply : Supply} {room earlier later : Room} {move : Move} {play : Play}
  {start? : Option Room}

theorem latest_of_starts {ticket : Ticket} (starts : play.Starts rules ticket) :
    play.room.Latest (some play.room) := by
  refine .turn ?_ (.refl _) (List.prefix_refl _)
  rw [running_of_runningTicket? starts.running]
  decide

theorem Latest.perform (latest : room.Latest start?) (rules : Rules) (supply : Supply)
    (move : Move) :
    let play := room.perform rules supply move
    play.outcome.turn = Option.none ∧ play.room.Latest start? ∨
      play.outcome.turn.isSome = true ∧ play.room.Latest (some play.room) ∧
        (start? = Option.none → play.room.round = 1) ∧
        ∀ start, start? = some start → start.Follows play.room := by
  intro play
  have sequel : room.Sequel supply move play := room.perform_sequel rules supply move
  have grown : room.players <+: play.room.players := room.players_prefix_perform rules supply move
  have proceeds : room.Proceeds rules play := room.perform_proceeds rules supply move
  cases proceeds with
  | rests ticketless _ kept still =>
    refine .inl ⟨ticketless, ?_⟩
    cases latest with
    | none idle => exact .none (fun running => idle (still running).1)
    | turn begun turn players =>
      exact .turn (fun waiting => begun (sequel.waiting waiting)) (turn.trans (kept begun))
        (players.trans grown)
  | opens ticket waiting starts round =>
    rw [starts.issued]
    refine .inr ⟨rfl, latest_of_starts starts, fun _ => round, ?_⟩
    cases latest with
    | none => exact fun _ impossible => nomatch impossible
    | turn begun => exact absurd waiting begun
  | passes ticket running starts round =>
    rw [starts.issued]
    refine .inr ⟨rfl, latest_of_starts starts, ?_, ?_⟩
    · cases latest with
      | none idle => exact absurd running idle
      | turn => exact fun impossible => nomatch impossible
    · cases latest with
      | none idle => exact absurd running idle
      | turn begun turn players =>
        intro _ same
        rw [← Option.some.inj same]
        refine ⟨players.trans grown, ?_⟩
        have index := congrArg Ticket.turnIndex starts.room.1
        rw [round, index, turn.round, turn.turnIndex]

theorem turnStarts_cons_of_ticketless (moves : List (Move × Supply))
    (ticketless : (room.perform rules supply move).outcome.turn = none) :
    room.turnStarts rules ((move, supply) :: moves) =
      (room.perform rules supply move).room.turnStarts rules moves := by
  change (Option.map _ _).toList ++ _ = _
  rw [ticketless]
  rfl

theorem turnStarts_cons_of_issued (moves : List (Move × Supply))
    (issued : (room.perform rules supply move).outcome.turn.isSome = true) :
    room.turnStarts rules ((move, supply) :: moves) =
      (room.perform rules supply move).room ::
        (room.perform rules supply move).room.turnStarts rules moves := by
  obtain ⟨ticket, issued⟩ := Option.isSome_iff_exists.mp issued
  change (Option.map _ _).toList ++ _ = _
  rw [issued]
  rfl

theorem Latest.isChain (latest : room.Latest start?) (rules : Rules)
    (moves : List (Move × Supply)) :
    (start?.toList ++ room.turnStarts rules moves).IsChain Follows ∧
      (start? = Option.none →
        ∀ first, (room.turnStarts rules moves).head? = some first → first.round = 1) := by
  -- The turn before the moves is part of the chain, so that the first of them is linked to it.
  induction moves generalizing room start? with
  | nil =>
    refine ⟨?_, fun _ _ impossible => nomatch impossible⟩
    cases latest with
    | none => exact .nil
    | turn => exact .singleton _
  | cons entry moves ih =>
    obtain ⟨move, supply⟩ := entry
    rcases latest.perform rules supply move with ⟨ticketless, later⟩ | ⟨issued, later, first, follows⟩
    · rw [turnStarts_cons_of_ticketless moves ticketless]
      exact ih later
    · rw [turnStarts_cons_of_issued moves issued]
      have chain := (ih later).1
      constructor
      · cases latest with
        | none => exact chain
        | turn => exact .cons_cons (follows _ rfl) chain
      · intro none _ head
        rw [← Option.some.inj head]
        exact first none

theorem mem_turnStarts (moves : List (Move × Supply)) (rostered : room.Rostered) {start : Room}
    (member : start ∈ room.turnStarts rules moves) :
    start.Rostered ∧ start.timeLimit = rules.config.timeLimit start.round := by
  induction moves generalizing room with
  | nil => cases member
  | cons entry moves ih =>
    obtain ⟨move, supply⟩ := entry
    have next := perform_rostered rules supply move rostered
    cases turn : (room.perform rules supply move).outcome.turn with
    | none =>
      rw [turnStarts_cons_of_ticketless moves turn] at member
      exact ih next member
    | some ticket =>
      have starts := (room.perform_proceeds rules supply move).starts turn
      rw [turnStarts_cons_of_issued moves (Option.isSome_of_eq_some turn)] at member
      rcases List.mem_cons.mp member with same | member
      · rw [same]
        exact ⟨next, starts.limit⟩
      · exact ih next member

theorem isChain_countsRound {first : Room} {rest : List Room}
    (chain : (first :: rest).IsChain Follows)
    (few : first.round.toNat + laps first.turnIndex (rest.map turnIndex) < UInt32.size) :
    (first :: rest).IsChain CountsRound := by
  induction rest generalizing first with
  | nil => exact .singleton first
  | cons next rest ih =>
    obtain ⟨follows, chain⟩ := List.isChain_cons_cons.mp chain
    rw [List.map_cons, laps_cons] at few
    have counted : first.CountsRound next := by
      -- The rounds wrap around at the size of a word, which the laps that are left stay below.
      unfold CountsRound
      rw [follows.round, UInt32.toNat_add, UInt32.toNat_ofNat', Nat.add_mod_mod]
      apply Nat.mod_eq_of_lt
      exact Nat.lt_of_le_of_lt (by omega) few
    refine .cons_cons counted (ih chain ?_)
    rw [counted]
    omega

theorem CountsRound.moment_lt (counted : earlier.CountsRound later) :
    earlier.moment < later.moment := by
  unfold CountsRound at counted
  rw [moment, moment, Prod.Lex.toLex_lt_toLex]
  split at counted
  · exact .inl (by omega)
  · exact .inr ⟨counted.symm, by omega⟩

theorem round_le_of_moment_lt (before : earlier.moment < later.moment) :
    earlier.round.toNat ≤ later.round.toNat := by
  rcases Prod.Lex.toLex_lt_toLex.mp before with less | ⟨same, _⟩
  · exact Nat.le_of_lt less
  · exact Nat.le_of_eq same

/-- Whoever has a turn has no other in the same round. -/
theorem round_ne_of_moment_lt (before : earlier.moment < later.moment)
    (players : earlier.players <+: later.players) (rostered : later.Rostered) {player : PlayerId}
    (current : earlier.current? = some player) (again : later.current? = some player) :
    earlier.round ≠ later.round := by
  intro same
  obtain ⟨_, seated⟩ := (earlier.current?_eq_some_iff player).mp current
  obtain ⟨_, sits⟩ := (later.current?_eq_some_iff player).mp again
  have stays := seated_of_prefix players seated
  have index := rostered.seat_unique stays sits
  unfold moment at before
  rw [same, index] at before
  exact lt_irrefl _ before

theorem turnStarts_countsRound (moves : List (Move × Supply)) (idle : room.phase ≠ .inProgress)
    (few : wraps ((room.turnStarts rules moves).map turnIndex) < UInt32.size - 1) :
    (room.turnStarts rules moves).IsChain CountsRound := by
  obtain ⟨chain, begins⟩ := (Latest.none idle).isChain rules moves
  rw [Option.toList_none, List.nil_append] at chain
  cases starts : room.turnStarts rules moves with
  | nil => exact .nil
  | cons first rest =>
    rw [starts] at chain begins few
    refine isChain_countsRound chain ?_
    rw [begins rfl first rfl]
    change laps first.turnIndex (rest.map turnIndex) < UInt32.size - 1 at few
    change 1 + _ < UInt32.size
    omega

end Room

namespace Course

open Rotation

variable {start? : Option Room}

theorem run_latest (rules : Rules) (course : Course) (latest : course.room.Latest start?)
    (moves : List (Move × Supply)) :
    (course.run rules moves).room.Latest
      (start?.toList ++ course.room.turnStarts rules moves).getLast? := by
  induction moves generalizing course start? with
  | nil =>
    cases latest with
    | none idle => exact .none idle
    | turn begun turn players => exact .turn begun turn players
  | cons entry moves ih =>
    obtain ⟨move, supply⟩ := entry
    rw [run_cons]
    rcases latest.perform rules supply move with ⟨ticketless, later⟩ | ⟨issued, later, _⟩
    · rw [Room.turnStarts_cons_of_ticketless moves ticketless]
      exact ih (course.step rules (move, supply)) later
    · rw [Room.turnStarts_cons_of_issued moves issued]
      cases latest with
      | none => exact ih (course.step rules (move, supply)) later
      | turn =>
        rw [Option.toList_some, List.singleton_append, List.getLast?_cons_cons]
        exact ih (course.step rules (move, supply)) later

/-- However a game is played, its turns progress: they begin with the first round, each is later than
those before it, and a new round is counted just when the turn has not come to a seat behind the last
one. So nobody has two turns in a round, and no turn takes longer than those before it. At any time a
room has the turn that was started last. -/
theorem turns_progress (rules : Rules) (id : RoomId) (epoch : Epoch) (founder : PlayerId)
    (lives : UInt32) (moves : List (Move × Supply))
    (few : wraps (((Room.new id epoch founder lives).turnStarts rules moves).map Room.turnIndex) <
      UInt32.size - 1) :
    let room := Room.new id epoch founder lives
    let starts := room.turnStarts rules moves
    (∀ first, starts.head? = some first → first.round = 1) ∧
      starts.Pairwise (fun earlier later => earlier.moment < later.moment) ∧
      starts.IsChain (fun earlier later => later.round.toNat =
        earlier.round.toNat + if later.turnIndex ≤ earlier.turnIndex then 1 else 0) ∧
      starts.Pairwise (fun earlier later => ∀ player, earlier.current? = some player →
        later.current? = some player → earlier.round ≠ later.round) ∧
      starts.Pairwise (fun earlier later => later.timeLimit ≤ earlier.timeLimit) ∧
      (∀ start ∈ starts, start.timeLimit.toNat =
        max (rules.config.turnTimeCeiling.toNat - start.round.toNat)
          rules.config.turnTimeFloor.toNat) ∧
      ∀ earlier start, earlier <+: moves →
        (room.turnStarts rules earlier).getLast? = some start →
          start.SameTurn ((begin room).run rules earlier).room := by
  intro room starts
  have idle : room.phase ≠ .inProgress := by
    change Phase.waiting ≠ .inProgress
    decide
  have rostered : room.Rostered := Room.new_rostered id epoch founder lives
  obtain ⟨chain, first⟩ := (Room.Latest.none idle).isChain rules moves
  have counted : starts.IsChain Room.CountsRound := Room.turnStarts_countsRound moves idle few
  have members : ∀ start ∈ starts,
      start.Rostered ∧ start.timeLimit = rules.config.timeLimit start.round :=
    fun start => Room.mem_turnStarts moves rostered
  have moments : starts.Pairwise (fun earlier later => earlier.moment < later.moment) := by
    have ascending := counted.imp (fun _ _ counts => counts.moment_lt)
    rw [← List.isChain_map Room.moment, List.isChain_iff_pairwise, List.pairwise_map] at ascending
    exact ascending
  have players : starts.Pairwise (fun earlier later => earlier.players <+: later.players) := by
    have growing := chain.imp (fun _ _ follows => follows.players)
    rw [Option.toList_none, List.nil_append, ← List.isChain_map Room.players,
      List.isChain_iff_pairwise, List.pairwise_map] at growing
    exact growing
  refine ⟨first rfl, moments, counted, ?_, ?_, ?_, ?_⟩
  · refine (moments.and players).imp_of_mem ?_
    intro earlier later _ member both player current again
    exact Room.round_ne_of_moment_lt both.1 both.2 (members later member).1 current again
  · refine moments.imp_of_mem ?_
    intro earlier later before after order
    rw [(members earlier before).2, (members later after).2]
    exact rules.config.timeLimit_anti (Room.round_le_of_moment_lt order)
  · intro start member
    rw [(members start member).2]
    exact rules.config.toNat_timeLimit start.round
  · intro earlier start _ last
    have latest := run_latest rules (begin room) (.none idle) earlier
    change Room.Latest _ (room.turnStarts rules earlier).getLast? at latest
    rw [last] at latest
    cases latest with
    | turn _ turn => exact turn

/-- The second player runs out of lives, the third gives a wrong answer and keeps the turn, and a
fourth joins, who has the last turn of the second round. -/
theorem turns_progress_among_four :
    let rules : Rules := ⟨{ turnTimeCeiling := 7 }, ⟨fun word => word = "other", fun _ _ => true⟩⟩
    let supply (number : UInt64) : Supply := ⟨number, fun _ => "the"⟩
    let moves : List (Move × Supply) :=
      [(.add 2 1, supply 1), (.add 3 3, supply 1), (.start, supply 1), (.answer 1 "other", supply 2),
        (.answer 2 "another", supply 3), (.answer 3 "another", supply 4), (.advance, supply 4),
        (.add 4 3, supply 5), (.advance, supply 5), (.answer 3 "other", supply 6),
        (.expire ⟨0, 6, 3, 4, 5⟩, supply 7)]
    let room := Room.new 42 0 1 3
    let starts := room.turnStarts rules moves
    starts.map (fun start => (start.round, start.turnIndex, start.timeLimit)) =
        [(1, 0, 6), (1, 1, 6), (1, 2, 6), (2, 0, 5), (2, 2, 5), (2, 3, 5), (3, 0, 5)] ∧
      wraps (starts.map Room.turnIndex) < UInt32.size - 1 ∧
      starts.Pairwise (fun earlier later => earlier.moment < later.moment) ∧
      starts.Pairwise (fun earlier later => ∀ player, earlier.current? = some player →
        later.current? = some player → earlier.round ≠ later.round) := by
  intro rules supply moves room starts
  have few : wraps (starts.map Room.turnIndex) < UInt32.size - 1 := by decide +kernel
  obtain ⟨_, moments, _, rounds, _⟩ := turns_progress rules 42 0 1 3 moves few
  exact ⟨by decide +kernel, few, moments, rounds⟩

end Course

end WordGame
