import WordGame.Proofs.Game.Lives
import WordGame.Proofs.Game.Timeouts
import WordGame.Proofs.Game.TurnHeld

/-!
How long a game can go on. Every penalty takes a life of the player whose turn it is, and once the
game has begun nobody gains any. So the lives that its players have between them bound the penalties
that are still to come, as long as nobody new comes in.
-/

namespace WordGame

namespace Room

/-- The lives that the players of a room have between them. -/
def totalLives (room : Room) : Nat :=
  (room.players.map fun player => (room.livesOf player).toNat).sum

/-- A move is a penalty: a timeout that comes to something, or a wrong answer of the player whose
turn it is. -/
def isPenalty (rules : Rules) (supply : Supply) (room : Room) : Move → Bool
  | .expire ticket => room.expire rules supply ticket ≠ Play.begin room
  | .answer player text =>
    room.current? = some player ∧ room.accepts rules (Text.trim text) = false
  | .add _ _ | .start | .advance | .remove _ | .check => false

def bringsNobody (room : Room) : Move → Bool
  | .add player _ => player ∈ room.players
  | .start | .advance | .answer _ _ | .expire _ | .remove _ | .check => true

variable {rules : Rules} {supply : Supply} {room altered later : Room} {move : Move} {play : Play}

/-! ### The sum of lives -/

theorem totalLives_of_same (same : room.SameStandings later) :
    later.totalLives = room.totalLives := by
  unfold totalLives
  rw [same.players]
  congr 1
  apply List.map_congr_left
  intro player _
  rw [same.livesOf]

theorem totalLives_loseLife (distinct : room.players.Nodup) {player : PlayerId}
    (member : player ∈ room.players) (living : room.isAlive player = true) :
    (room.loseLife player).totalLives + 1 = room.totalLives := by
  obtain ⟨before, after, roster⟩ := List.append_of_mem member
  have apart : player ∉ before ++ after := by
    rw [roster] at distinct
    exact (List.nodup_middle.mp distinct).notMem
  -- The roster lists the player once, so the sum changes at one place.
  have others (query : PlayerId) (seated : query ∈ before ++ after) :
      ((room.loseLife player).livesOf query).toNat = (room.livesOf query).toNat := by
    rw [livesOf_loseLife_of_ne]
    rintro rfl
    exact apart seated
  have left : before.map (fun query => ((room.loseLife player).livesOf query).toNat) =
      before.map (fun query => (room.livesOf query).toNat) :=
    List.map_congr_left fun query seated => others query (List.mem_append_left _ seated)
  have right : after.map (fun query => ((room.loseLife player).livesOf query).toNat) =
      after.map (fun query => (room.livesOf query).toNat) :=
    List.map_congr_left fun query seated => others query (List.mem_append_right _ seated)
  have some : 0 < (room.livesOf player).toNat :=
    UInt32.lt_iff_toNat_lt.mp ((room.isAlive_iff player).mp living)
  change (room.players.map fun query => ((room.loseLife player).livesOf query).toNat).sum + 1 = _
  unfold totalLives
  rw [roster, List.map_append, List.map_append, List.map_cons, List.map_cons, left, right,
    toNat_livesOf_loseLife, List.sum_append, List.sum_append, List.sum_cons, List.sum_cons]
  omega

theorem aliveCount_le_totalLives (room : Room) : room.aliveCount ≤ room.totalLives := by
  unfold aliveCount alive totalLives
  induction room.players with
  | nil => exact Nat.le_refl 0
  | cons player rest ih =>
    rw [List.map_cons, List.sum_cons]
    cases living : room.isAlive player with
    | false =>
      rw [List.filter_cons_of_neg (Bool.eq_false_iff.mp living)]
      exact Nat.le_add_left_of_le ih
    | true =>
      have some : 0 < (room.livesOf player).toNat :=
        UInt32.lt_iff_toNat_lt.mp ((room.isAlive_iff player).mp living)
      rw [List.filter_cons_of_pos living, List.length_cons]
      omega

/-! ### A move -/

theorem isPenalty_expire_iff (ticket : Ticket) :
    room.isPenalty rules supply (.expire ticket) = true ↔ room.isRunning ticket = true := by
  unfold isPenalty
  rw [decide_eq_true_eq]
  constructor
  · intro something
    by_contra stale
    exact something (expire_of_stale (Bool.eq_false_iff.mpr stale))
  · intro running nothing
    have told : (room.expire rules supply ticket).outcome.messages ≠ [] :=
      messages_expire_ne_nil running
    rw [nothing] at told
    exact told rfl

theorem Ignores.not_isPenalty (ignores : room.Ignores move) :
    room.isPenalty rules supply move ≠ true := by
  cases move with
  | expire ticket =>
    intro penalty
    exact Bool.eq_false_iff.mp ignores ((isPenalty_expire_iff ticket).mp penalty)
  | answer player text => exact fun penalty => ignores (of_decide_eq_true penalty).1
  | add | start | advance | remove | check => exact Bool.false_ne_true

theorem Step.loses (step : room.Step rules supply move play)
    (penalty : room.isPenalty rules supply move = true) :
    ∃ player, room.current? = some player ∧ (room.loseLife player).SameStandings play.room := by
  cases step with
  | ignored ignores => exact absurd penalty ignores.not_isPenalty
  | reported | enrolled | revived | withdrawn | opened | passed | resigned | abandoned | left
  | decided => cases penalty
  | expired running passes =>
    have standings := (passes.closes (running_of_isRunning running)).standings
    exact ⟨_, current?_of_isRunning running, standings⟩
  | accepted _ accepts => cases accepts.symm.trans (of_decide_eq_true penalty).2
  | @lost player text current =>
    exact ⟨player, current, finish_standings (room.penalty player (Text.trim text)) _⟩
  | failed current _ _ _ passes =>
    exact ⟨_, current, (passes.closes (running_of_current? current)).standings⟩
  | erred current => exact ⟨_, current, .refl _⟩

theorem running_of_isPenalty (penalty : room.isPenalty rules supply move = true) :
    room.phase = .inProgress := by
  obtain ⟨_, current, _⟩ := (room.perform_step rules supply move).loses penalty
  exact running_of_current? current

theorem Alters.players_of_bringsNobody (alters : room.Alters move altered)
    (rostered : room.Rostered) (closed : room.bringsNobody move = true) :
    altered.players = room.players := by
  cases alters with
  | enrols new =>
    exact absurd (of_decide_eq_true closed) ((rostered.hasPlayer_eq_false_iff _).mp new)
  | not | revives | eliminates | expires | scores | penalises => rfl

/-- A game that has begun, as far as its rules have to do with the lives of its players. -/
structure Begun (room : Room) : Prop where
  rostered : room.Rostered
  held : room.TurnHeld
  begun : room.phase ≠ .waiting

namespace Begun

theorem perform (begun : room.Begun) (rules : Rules) (supply : Supply) (move : Move) :
    (room.perform rules supply move).room.Begun where
  rostered := perform_rostered rules supply move begun.rostered
  held := perform_turnHeld rules supply move begun.rostered begun.held
  begun waiting := begun.begun ((room.perform_sequel rules supply move).waiting waiting)

theorem two_le_totalLives (begun : room.Begun) (running : room.phase = .inProgress) :
    2 ≤ room.totalLives :=
  (begun.held running).1.trans room.aliveCount_le_totalLives

theorem players_perform (begun : room.Begun) (rules : Rules) (supply : Supply)
    (closed : room.bringsNobody move = true) :
    (room.perform rules supply move).room.players = room.players := by
  obtain ⟨altered, alters, same⟩ := (room.perform_step rules supply move).alters
  rw [same.players]
  exact alters.players_of_bringsNobody begun.rostered closed

theorem totalLives_perform_le (begun : room.Begun) (rules : Rules) (supply : Supply)
    (closed : room.bringsNobody move = true) :
    (room.perform rules supply move).room.totalLives ≤ room.totalLives := by
  have roster := begun.players_perform rules supply closed
  obtain ⟨altered, alters, same⟩ := (room.perform_step rules supply move).alters
  unfold totalLives
  rw [roster]
  refine List.sum_le_sum ?_
  intro player member
  rw [same.livesOf, ← UInt32.le_iff_toNat_le]
  exact alters.livesOf_le_of_begun begun.begun ((begun.rostered.hasPlayer_iff player).mpr member)

theorem totalLives_of_penalty (begun : room.Begun)
    (penalty : room.isPenalty rules supply move = true) :
    (room.perform rules supply move).room.totalLives + 1 = room.totalLives := by
  obtain ⟨player, current, lost⟩ := (room.perform_step rules supply move).loses penalty
  obtain ⟨_, holder, held, living⟩ := begun.held (running_of_current? current)
  cases current.symm.trans held
  rw [totalLives_of_same lost]
  exact totalLives_loseLife begun.rostered.nodup (mem_players_of_current? current) living

end Begun

end Room

namespace Course

def penalties (rules : Rules) : Course → List (Move × Supply) → Nat
  | _, [] => 0
  | course, move :: moves =>
    (course.room.isPenalty rules move.2 move.1).toNat +
      penalties rules (course.step rules move) moves

variable {rules : Rules} {course : Course} {moves : List (Move × Supply)}

/-- What the moves of a run leave behind, if none of them brings anybody. -/
structure Spends (rules : Rules) (course : Course) (moves : List (Move × Supply)) : Prop where
  begun : (course.run rules moves).room.Begun
  players : (course.run rules moves).room.players = course.room.players
  lives : (course.run rules moves).room.totalLives + course.penalties rules moves ≤
    course.room.totalLives
  /-- The last penalty finds two lives at least, and leaves one. -/
  penalties : course.penalties rules moves ≤ course.room.totalLives - 1

theorem run_spends (begun : course.room.Begun)
    (closed : ∀ move ∈ moves, course.room.bringsNobody move.1 = true) :
    Spends rules course moves := by
  induction moves generalizing course with
  | nil => exact ⟨begun, rfl, Nat.le_refl _, Nat.zero_le _⟩
  | cons move moves ih =>
    obtain ⟨first, supply⟩ := move
    have here : course.room.bringsNobody first = true := closed _ List.mem_cons_self
    have roster : (course.step rules (first, supply)).room.players = course.room.players :=
      begun.players_perform rules supply here
    have later : ∀ move ∈ moves,
        (course.step rules (first, supply)).room.bringsNobody move.1 = true := by
      intro move member
      unfold Room.bringsNobody
      rw [roster]
      exact closed move (List.mem_cons_of_mem _ member)
    have rest := ih (begun.perform rules supply first) later
    refine ⟨rest.begun, rest.players.trans roster, ?_, ?_⟩
    all_goals
      have lives := rest.lives
      have bound := rest.penalties
      change _ ≤ (course.room.perform rules supply first).room.totalLives at lives
      change _ ≤ (course.room.perform rules supply first).room.totalLives - 1 at bound
      rw [Course.penalties]
      cases penalty : course.room.isPenalty rules supply first with
      | false =>
        have kept := begun.totalLives_perform_le rules supply here
        simp only [Bool.toNat_false, run_cons]
        omega
      | true =>
        -- A penalty finds the game running, so it finds two lives at least.
        have taken := begun.totalLives_of_penalty penalty
        have two := begun.two_le_totalLives (Room.running_of_isPenalty penalty)
        simp only [Bool.toNat_true, run_cons]
        omega

/-- However a game is played from a turn on, if nobody new comes: there are fewer penalties than the
players have lives between them, and with one less than that the game is over. No move gives anybody
a life, and a penalty costs just one. -/
theorem game_cannot_drag_on (rules : Rules) (id : RoomId) (epoch : Epoch) (founder : PlayerId)
    (lives : UInt32) (moves : List (Move × Supply))
    (running : ((begin (Room.new id epoch founder lives)).run rules moves).room.phase =
      .inProgress) :
    let course := (begin (Room.new id epoch founder lives)).run rules moves
    let total := course.room.totalLives
    ∀ sequel : List (Move × Supply),
      (∀ move ∈ sequel, course.room.bringsNobody move.1 = true) →
        let later := (course.run rules sequel).room
        course.penalties rules sequel ≤ total - 1 ∧
          (course.penalties rules sequel = total - 1 → later.phase = .finished) ∧
          ∀ (move : Move) (supply : Supply), course.room.bringsNobody move = true →
            let next := (later.perform rules supply move).room
            next.totalLives ≤ later.totalLives ∧
              (later.isPenalty rules supply move = true →
                next.totalLives + 1 = later.totalLives) := by
  intro course total sequel closed later
  obtain ⟨rostered, held⟩ := run_rostered_turnHeld rules id epoch founder lives moves
  have unwaiting : course.room.phase ≠ .waiting := fun waiting => nomatch running.symm.trans waiting
  have begun : course.room.Begun := ⟨rostered, held, unwaiting⟩
  have spends : Spends rules course sequel := run_spends begun closed
  refine ⟨spends.penalties, ?_, ?_⟩
  · intro spent
    cases phase : later.phase with
    | finished => rfl
    | waiting => exact absurd phase spends.begun.begun
    | inProgress =>
      have two : 2 ≤ total := begun.two_le_totalLives running
      have left : 2 ≤ later.totalLives := spends.begun.two_le_totalLives phase
      have lives : later.totalLives + course.penalties rules sequel ≤ total := spends.lives
      omega
  · intro move supply closed next
    refine ⟨?_, spends.begun.totalLives_of_penalty⟩
    apply spends.begun.totalLives_perform_le rules supply
    unfold Room.bringsNobody
    rw [spends.players]
    exact closed

/-- Two players with two lives each. The first is late, joins once more, and is late again with the
same turn, which comes to nothing. Then a wrong answer and a timeout of the second end the game. -/
theorem game_cannot_drag_on_between_two :
    let rules : Rules := ⟨{}, ⟨fun _ => false, fun _ _ => false⟩⟩
    let supply (number : UInt64) : Supply := ⟨number, fun _ => "the"⟩
    let moves : List (Move × Supply) := [(.add 2 2, supply 1), (.start, supply 1)]
    let late : Move × Supply := (.expire ⟨0, 1, 0, 1, 19⟩, supply 2)
    let sequel : List (Move × Supply) :=
      [late, (.add 1 9, supply 3), late, (.answer 2 "other", supply 3),
        (.expire ⟨0, 2, 1, 2, 19⟩, supply 3)]
    let course := (begin (Room.new 42 0 1 2)).run rules moves
    course.room.phase = .inProgress ∧ course.room.totalLives = 4 ∧
      course.penalties rules sequel = 3 ∧
      (course.run rules sequel).room.phase = .finished := by
  refine ⟨by decide +kernel, by decide +kernel, by decide +kernel, ?_⟩
  refine And.left (And.right (game_cannot_drag_on _ 42 0 1 2 _ ?_ _ ?_)) ?_
  all_goals decide +kernel

end Course

end WordGame
