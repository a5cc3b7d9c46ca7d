import Mathlib.Data.List.Rotate
import WordGame.Proofs.Game.Rotation

/-!
A whole round. While nothing else happens the turn comes to the seats of those who are alive in
order, and back to where it was.
-/

namespace WordGame

namespace Rotation

/-- How often a way over seats starts over at the front. -/
def laps : Nat → List Nat → Nat
  | _, [] => 0
  | turn, next :: way => (if next ≤ turn then 1 else 0) + laps next way

theorem laps_cons (turn next : Nat) (way : List Nat) :
    laps turn (next :: way) = (if next ≤ turn then 1 else 0) + laps next way := rfl

theorem laps_append (turn : Nat) (way rest : List Nat) :
    laps turn (way ++ rest) = laps turn way + laps (way.getLastD turn) rest := by
  induction way generalizing turn with
  | nil => exact (Nat.zero_add _).symm
  | cons next way ih =>
    rw [List.cons_append, List.getLastD_cons, laps_cons, laps_cons, ih, Nat.add_assoc]

theorem laps_of_ascending {turn : Nat} {way : List Nat}
    (ascending : (turn :: way).Pairwise (· < ·)) : laps turn way = 0 := by
  induction way generalizing turn with
  | nil => rfl
  | cons next way ih =>
    obtain ⟨first, rest⟩ := List.pairwise_cons.mp ascending
    have later : turn < next := first next List.mem_cons_self
    rw [laps_cons, ih rest, if_neg (Nat.not_le_of_lt later)]

theorem laps_round {before after : List Nat} {turn : Nat}
    (ascending : (before ++ turn :: after).Pairwise (· < ·)) :
    laps turn (after ++ (before ++ [turn])) = 1 := by
  obtain ⟨_, upward, _⟩ := List.pairwise_append.mp ascending
  have last : turn ≤ after.getLastD turn := by
    have listed : after.getLastD turn ∈ turn :: after := List.getLastD_mem_cons
    rcases List.mem_cons.mp listed with same | member
    · exact Nat.le_of_eq same.symm
    · exact Nat.le_of_lt ((List.pairwise_cons.mp upward).1 _ member)
  have front : (before ++ [turn]).Pairwise (· < ·) :=
    ascending.sublist
      ((List.Sublist.refl before).append (List.Sublist.cons_cons turn (List.nil_sublist after)))
  rw [laps_append, laps_of_ascending upward, Nat.zero_add]
  cases before with
  | nil => rw [List.nil_append, laps_cons, if_pos last, laps_of_ascending front]
  | cons first before =>
    have behind : first < turn :=
      (List.pairwise_cons.mp front).1 turn (List.mem_append_right _ List.mem_cons_self)
    have passed : first ≤ after.getLastD turn := by omega
    rw [List.cons_append] at front ⊢
    rw [laps_cons, if_pos passed, laps_of_ascending front]

end Rotation

namespace Room

open Rotation

variable {rules : Rules} {supply : Supply} {room later : Room}

def isLive (room : Room) (seat : Nat) : Bool := (room.aliveAt? seat).isSome

def seats (room : Room) : List Nat := (List.range room.players.length).filter room.isLive

/-- The seats of those who are alive, in the order in which the turn comes to them. -/
def upcoming (room : Room) : List Nat := room.cycle.filter room.isLive

theorem SameStandings.aliveAt? (same : room.SameStandings later) :
    later.aliveAt? = room.aliveAt? := by
  funext seat
  unfold Room.aliveAt?
  rw [same.players, same.isAlive]

theorem SameStandings.seats (same : room.SameStandings later) : later.seats = room.seats := by
  unfold Room.seats Room.isLive
  rw [same.players, same.aliveAt?]

theorem mem_seats_iff (room : Room) (seat : Nat) :
    seat ∈ room.seats ↔ ∃ player, room.aliveAt? seat = some player := by
  unfold seats isLive
  rw [List.mem_filter, List.mem_range, Option.isSome_iff_exists]
  constructor
  · exact And.right
  · rintro ⟨player, living⟩
    obtain ⟨sits, _⟩ := (room.aliveAt?_eq_some_iff seat player).mp living
    exact ⟨(List.getElem?_eq_some_iff.mp sits).1, player, living⟩

theorem seats_ascending (room : Room) : room.seats.Pairwise (· < ·) :=
  List.pairwise_lt_range.filter _

theorem cycle_eq_rotate (room : Room) :
    room.cycle = (List.range room.players.length).rotate (room.turnIndex + 1) := by
  apply List.ext_getElem
  · rw [List.length_rotate]
    exact List.length_map _
  · intro step within _
    rw [List.getElem_rotate, List.getElem_range]
    simp only [cycle, List.getElem_map, List.getElem_range, List.length_range]
    congr 1
    omega

theorem upcoming_of_seats {before after : List Nat}
    (split : room.seats = before ++ room.turnIndex :: after) :
    room.upcoming = after ++ (before ++ [room.turnIndex]) := by
  have member : room.turnIndex ∈ room.seats := by
    rw [split]
    exact List.mem_append_right _ List.mem_cons_self
  obtain ⟨ranged, alive⟩ := List.mem_filter.mp member
  have within := List.mem_range.mp ranged
  have low : (List.range room.players.length).take (room.turnIndex + 1) =
      List.range room.turnIndex ++ [room.turnIndex] := by
    rw [List.take_range, Nat.min_eq_left within, List.range_succ]
  have ranges := List.take_append_drop (room.turnIndex + 1) (List.range room.players.length)
  rw [low] at ranges
  have distinct : room.seats.Nodup := room.seats_ascending.imp Nat.ne_of_lt
  unfold upcoming
  rw [room.cycle_eq_rotate, List.rotate_eq_drop_append_take (by rwa [List.length_range]), low]
  unfold seats at split distinct
  rw [← ranges, List.append_assoc, List.singleton_append, List.filter_append,
    List.filter_cons_of_pos alive] at split distinct
  obtain ⟨apart, _⟩ := List.nodup_cons.mp (List.nodup_middle.mp distinct)
  rw [List.mem_append, not_or] at apart
  obtain ⟨rfl, _, rfl⟩ := (List.append_cons_inj_of_notMem apart.1 apart.2).mp split
  rw [List.filter_append, List.filter_append, List.filter_cons_of_pos alive]
  rfl

theorem upcoming_perm (member : room.turnIndex ∈ room.seats) : room.upcoming.Perm room.seats := by
  obtain ⟨before, after, split⟩ := List.append_of_mem member
  rw [upcoming_of_seats split, split,
    List.append_cons before room.turnIndex after]
  exact List.perm_append_comm

/-- When the turn has come to the next seat, that seat is the last to which it will come. -/
theorem upcoming_of_passed {next : Nat} {others : List Nat} (member : room.turnIndex ∈ room.seats)
    (upcoming : room.upcoming = next :: others) (same : later.seats = room.seats)
    (index : later.turnIndex = next) : later.upcoming = others ++ [next] := by
  obtain ⟨before, after, split⟩ := List.append_of_mem member
  rw [upcoming_of_seats split] at upcoming
  rw [← same] at split
  subst index
  cases after with
  | cons first after =>
    rw [List.cons_append] at upcoming
    obtain ⟨rfl, rfl⟩ := List.cons.inj upcoming
    have split : later.seats = (before ++ [room.turnIndex]) ++ later.turnIndex :: after := by
      rw [split, List.append_assoc]
      rfl
    rw [upcoming_of_seats split]
    simp only [List.append_assoc]
  | nil =>
    cases before with
    | nil =>
      obtain ⟨here, rfl⟩ := List.cons.inj upcoming
      rw [here] at split
      exact upcoming_of_seats split
    | cons first before =>
      obtain ⟨rfl, rfl⟩ := List.cons.inj upcoming
      have split : later.seats = [] ++ later.turnIndex :: (before ++ [room.turnIndex]) := split
      exact upcoming_of_seats split

theorem upcoming_of_next? {index : Nat} {player : PlayerId}
    (next : room.next? = some (index, player)) :
    room.aliveAt? index = some player ∧ ∃ others, room.upcoming = index :: others := by
  obtain ⟨before, after, split, living, free⟩ := (room.firstAlive?_eq_some_iff _ _ _).mp next
  refine ⟨living, after.filter room.isLive, ?_⟩
  have nobody : before.filter room.isLive = [] := by
    apply List.filter_eq_nil_iff.mpr
    intro seat member
    unfold isLive
    rw [free seat member]
    exact Bool.false_ne_true
  have live : room.isLive index = true := by
    unfold isLive
    rw [living]
    rfl
  unfold upcoming
  rw [split, List.filter_append, nobody, List.filter_cons_of_pos live]
  rfl

theorem filterMap_range_getElem? {α β : Type} (values : List α) (f : α → Option β) :
    (List.range values.length).filterMap (fun index => values[index]?.bind f) =
      values.filterMap f := by
  have positions : (List.range values.length).map (fun index => values[index]?) =
      values.map some := by
    apply List.ext_getElem
    · rw [List.length_map, List.length_map, List.length_range]
    · intro index _ within
      rw [List.length_map] at within
      rw [List.getElem_map, List.getElem_map, List.getElem_range]
      exact List.getElem?_eq_getElem within
  have mapped := congrArg (List.filterMap (fun value => value.bind f)) positions
  rw [List.filterMap_map, List.filterMap_map] at mapped
  exact mapped

theorem filterMap_seats (room : Room) : room.seats.filterMap room.aliveAt? = room.alive := by
  have seated : room.aliveAt? = fun seat =>
      room.players[seat]?.bind (Option.guard room.isAlive) := by
    funext seat
    unfold aliveAt?
    cases room.players[seat]? with
    | none => rfl
    | some player => rfl
  have kept : (fun seat => if room.isLive seat = true then room.aliveAt? seat else none) =
      room.aliveAt? := by
    funext seat
    unfold isLive
    cases room.aliveAt? seat with
    | none => rfl
    | some player => rfl
  unfold seats alive
  rw [List.filterMap_filter, kept, seated, filterMap_range_getElem?, List.filterMap_eq_filter]

theorem length_seats (room : Room) : room.seats.length = room.aliveCount := by
  unfold aliveCount
  rw [← room.filterMap_seats, List.length_filterMap_eq_countP]
  refine (List.countP_eq_length.mpr ?_).symm
  intro seat member
  obtain ⟨player, living⟩ := (room.mem_seats_iff seat).mp member
  rw [living]
  rfl

theorem round_countRound (play : Play) (index : Nat) :
    (play.countRound index).room.round =
      play.room.round + UInt32.ofNat (if index ≤ play.room.turnIndex then 1 else 0) := by
  unfold Play.countRound
  split
  · rfl
  · exact (UInt32.add_zero _).symm

/-- A game that can go on, with its turn at a seat of somebody alive. -/
structure Turning (room : Room) : Prop where
  running : room.phase = .inProgress
  contested : 2 ≤ room.aliveCount
  live : room.turnIndex ∈ room.seats

theorem turning_of_turnHeld (held : room.TurnHeld) (running : room.phase = .inProgress) :
    room.Turning := by
  obtain ⟨contested, player, current, alive⟩ := held running
  have sits := ((room.current?_eq_some_iff player).mp current).2
  have living := (room.aliveAt?_eq_some_iff room.turnIndex player).mpr ⟨sits, alive⟩
  exact ⟨running, contested, (room.mem_seats_iff _).mpr ⟨player, living⟩⟩

/-- The turn has passed on to the next seat, and nobody is the better or the worse for it. -/
structure PassedTo (room : Room) (next : Nat) (play : Play) : Prop where
  standings : room.SameStandings play.room
  turning : play.room.Turning
  index : play.room.turnIndex = next
  round : play.room.round = room.round + UInt32.ofNat (if next ≤ room.turnIndex then 1 else 0)
  ticket : ∃ ticket, play.outcome.turn = some ticket ∧ room.aliveAt? next = some ticket.player

theorem Turning.advance (turning : room.Turning) (rules : Rules) (supply : Supply) {next : Nat}
    {others : List Nat} (upcoming : room.upcoming = next :: others) :
    room.PassedTo next (room.advance rules supply) := by
  have passes : (Play.begin room).Passes rules supply (room.advance rules supply) :=
    Play.advance_passes (Play.begin room) turning.running
  generalize room.advance rules supply = play at passes ⊢
  cases passes with
  | ended decided => exact absurd turning.contested (Nat.not_le_of_lt (Nat.lt_succ_of_le decided))
  | on index player contested found =>
    obtain ⟨living, _, same⟩ := upcoming_of_next? found
    cases upcoming.symm.trans same
    have standings : room.SameStandings
        (((Play.begin room).countRound next).startTurn rules supply next player).room :=
      ((Play.begin room).countRound_standings next).trans ⟨rfl, rfl, rfl, rfl, rfl, rfl⟩
    refine ⟨standings, ⟨?_, ?_, ?_⟩, rfl, round_countRound (Play.begin room) next, _, rfl, living⟩
    · exact ((Play.begin room).countRound_phase next).trans turning.running
    · rw [standings.aliveCount]
      exact contested
    · rw [standings.seats]
      exact (room.mem_seats_iff next).mpr ⟨player, living⟩

end Room

namespace Course

open Rotation

def advances (supplies : List Supply) : List (Move × Supply) :=
  supplies.map fun supply => (.advance, supply)

theorem run_advances (rules : Rules) (way passed : List Nat) {course : Course}
    {supplies : List Supply} (turning : course.room.Turning)
    (upcoming : course.room.upcoming = way ++ passed) (length : supplies.length = way.length) :
    let later := course.run rules (advances supplies)
    later.tickets.map Ticket.player =
        course.tickets.map Ticket.player ++ way.filterMap course.room.aliveAt? ∧
      later.room.turnIndex = way.getLastD course.room.turnIndex ∧
      later.room.round = course.room.round + UInt32.ofNat (laps course.room.turnIndex way) := by
  induction way generalizing course passed supplies with
  | nil =>
    obtain rfl := List.eq_nil_of_length_eq_zero length
    exact ⟨(List.append_nil _).symm, rfl, (UInt32.add_zero _).symm⟩
  | cons next way ih =>
    cases supplies with
    | nil => cases length
    | cons supply supplies =>
      rw [List.cons_append] at upcoming
      have passedTo := turning.advance rules supply upcoming
      obtain ⟨ticket, issued, living⟩ := passedTo.ticket
      have around : (course.step rules (.advance, supply)).room.upcoming =
          way ++ (passed ++ [next]) := by
        rw [← List.append_assoc]
        exact Room.upcoming_of_passed turning.live upcoming passedTo.standings.seats passedTo.index
      obtain ⟨players, index, round⟩ := ih _ passedTo.turning around (Nat.succ.inj length)
      have tickets :
          (course.step rules (.advance, supply)).tickets = course.tickets ++ [ticket] := by
        change course.tickets ++ (course.room.advance rules supply).outcome.turn.toList = _
        rw [issued]
        rfl
      have here : (course.step rules (.advance, supply)).room.turnIndex = next := passedTo.index
      have seats : (course.step rules (.advance, supply)).room.aliveAt? = course.room.aliveAt? :=
        passedTo.standings.aliveAt?
      unfold advances at players index round ⊢
      rw [List.map_cons, run_cons]
      refine ⟨?_, ?_, ?_⟩
      · rw [players, tickets, seats, List.map_append, List.append_assoc, List.filterMap_cons,
          living]
        rfl
      · rw [index, here, List.getLastD_cons]
      · rw [round, here, laps_cons, UInt32.ofNat_add, ← UInt32.add_assoc, ← passedTo.round]
        rfl

/-- As many turns in a row as there are players alive are one for each of them, and take the turn to
where it was in the next round. -/
theorem run_round (rules : Rules) {room : Room} (rostered : room.Rostered) (turning : room.Turning)
    {supplies : List Supply} (many : supplies.length = room.aliveCount) :
    let later := (begin room).run rules (advances supplies)
    (∀ player, (later.tickets.map Ticket.player).count player =
        if player ∈ room.alive then 1 else 0) ∧
      later.room.turnIndex = room.turnIndex ∧ later.room.round = room.round + 1 := by
  have order : room.upcoming.Perm room.seats := Room.upcoming_perm turning.live
  obtain ⟨before, after, split⟩ := List.append_of_mem turning.live
  have upcoming := Room.upcoming_of_seats split
  have length : supplies.length = room.upcoming.length := by
    rw [many, order.length_eq, room.length_seats]
  obtain ⟨players, index, round⟩ :=
    @run_advances rules room.upcoming [] (begin room) supplies turning
      (List.append_nil _).symm length
  refine ⟨?_, ?_, ?_⟩
  · intro player
    have seated : (room.upcoming.filterMap room.aliveAt?).Perm room.alive := by
      rw [← room.filterMap_seats]
      exact order.filterMap _
    have distinct : room.alive.Nodup := rostered.nodup.filter _
    rw [← distinct.count, ← seated.count_eq]
    exact congrArg (List.count player) players
  · rw [index, upcoming, ← List.append_assoc, List.getLastD_concat]
  · have ascending : (before ++ room.turnIndex :: after).Pairwise (· < ·) := by
      rw [← split]
      exact room.seats_ascending
    have once : laps room.turnIndex room.upcoming = 1 := by
      rw [upcoming]
      exact laps_round ascending
    rw [round]
    exact congrArg (fun times => room.round + UInt32.ofNat times) once

/-- The turn goes round. Between two turns of a player everybody else who stays alive has exactly
one, whatever is done in the meantime. And as many turns in a row as there are players alive are one
for each of them, and take the turn to where it was in the next round. -/
theorem turn_goes_round (rules : Rules) (id : RoomId) (epoch : Epoch) (founder : PlayerId)
    (lives : UInt32) (earlier : List (Move × Supply)) :
    let room := ((begin (Room.new id epoch founder lives)).run rules earlier).room
    (∀ (first second : Move × Supply) (between : List (Move × Supply)) (player other : PlayerId),
      let started := room.perform rules first.2 first.1
      let course := (begin started.room).run rules between
      let again := course.room.perform rules second.2 second.1
      started.outcome.turn.map Ticket.player = some player →
        again.outcome.turn.map Ticket.player = some player →
        (∀ ticket ∈ course.tickets, ticket.player ≠ player) → other ≠ player →
        started.room.isAlive other = true → course.room.isAlive other = true →
          course.tickets.countP (fun ticket => ticket.player = other) = 1) ∧
      ∀ supplies : List Supply, room.phase = .inProgress → supplies.length = room.aliveCount →
        let later := (begin room).run rules (advances supplies)
        (∀ player, (later.tickets.map Ticket.player).count player =
            if player ∈ room.alive then 1 else 0) ∧
          later.room.turnIndex = room.turnIndex ∧ later.room.round = room.round + 1 := by
  intro room
  obtain ⟨rostered, held⟩ := run_rostered_turnHeld rules id epoch founder lives earlier
  refine ⟨countP_tickets_between rules rostered held, ?_⟩
  intro supplies running many
  exact run_round rules rostered (Room.turning_of_turnHeld held running) many

/-- Between two turns of the second player the third runs out of lives, a fourth joins, and the first
has a turn. Without that, three turns are a whole round. -/
theorem turn_goes_round_among_four :
    let rules : Rules := ⟨{}, ⟨fun _ => false, fun _ _ => false⟩⟩
    let supply (number : UInt64) : Supply := ⟨number, fun _ => "the"⟩
    let earlier : List (Move × Supply) :=
      [(.add 2 3, supply 1), (.add 3 1, supply 1), (.start, supply 1)]
    let between : List (Move × Supply) :=
      [(.advance, supply 3), (.add 4 3, supply 4), (.answer 3 "cathedral", supply 4),
        (.advance, supply 5)]
    let room := ((begin (Room.new 42 0 1 3)).run rules earlier).room
    let started := room.perform rules (supply 2) .advance
    let course := (begin started.room).run rules between
    let later := (begin room).run rules (advances [supply 2, supply 3, supply 4])
    room.alive = [1, 2, 3] ∧ course.tickets.map Ticket.player = [3, 4, 1] ∧
      course.tickets.countP (fun ticket => ticket.player = 1) = 1 ∧
      later.tickets.map Ticket.player = [2, 3, 1] ∧
      (∀ player, (later.tickets.map Ticket.player).count player =
          if player ∈ room.alive then 1 else 0) ∧
        later.room.turnIndex = room.turnIndex ∧ later.room.round = room.round + 1 :=
  ⟨by decide +kernel, by decide +kernel,
    And.left (turn_goes_round _ 42 0 1 3 _) (.advance, _) (.advance, ⟨6, fun _ => "the"⟩) _ 2 1
      (by decide +kernel) (by decide +kernel) (by decide +kernel) (by decide +kernel)
      (by decide +kernel) (by decide +kernel),
    by decide +kernel,
    And.right (turn_goes_round _ 42 0 1 3 _) _ (by decide +kernel) (by decide +kernel)⟩

end Course

end WordGame
