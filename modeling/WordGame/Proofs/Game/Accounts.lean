import WordGame.Proofs.Game.Lives
import WordGame.Proofs.Game.Transcript

/-!
The accounts of a game. A player has a point for every accepted answer that was announced, and has
lost a life for every timeout and every wrong answer, as long as they stay.
-/

namespace WordGame

namespace ServerMessage

def isAccepted : ServerMessage → Bool
  | .answer _ _ correct .. => correct
  | _ => false

def rewards (player : PlayerId) : ServerMessage → Bool
  | .answer _ other correct .. => correct && other = player
  | _ => false

def penalises (player : PlayerId) : ServerMessage → Bool
  | .turnEnded _ other reason .. => reason ≠ .correctAnswer && other = player
  | _ => false

section

variable (player other : PlayerId) (room : RoomId) (correct : Bool) (word fragment : String)
  (next : Option String) (reason : TurnEnd) (score lives round timeLimit : UInt32)

@[simp] theorem rewards_startGame :
    (startGame room fragment round timeLimit).rewards player = false := rfl

@[simp] theorem rewards_answer :
    (answer room other correct word next score lives).rewards player =
      (correct && other = player) := rfl

@[simp] theorem rewards_turnEnded :
    (turnEnded room other reason lives round score).rewards player = false := rfl

@[simp] theorem penalises_startGame :
    (startGame room fragment round timeLimit).penalises player = false := rfl

@[simp] theorem penalises_answer :
    (answer room other correct word next score lives).penalises player = false := rfl

@[simp] theorem penalises_turnEnded :
    (turnEnded room other reason lives round score).penalises player =
      (reason ≠ .correctAnswer && other = player) := rfl

end

theorem isAccepted_of_rewards {player : PlayerId} (message : ServerMessage)
    (rewards : message.rewards player = true) : message.isAccepted = true := by
  cases message with
  | answer => exact (Bool.and_eq_true_iff.mp rewards).1
  | _ => cases rewards

end ServerMessage

namespace Room

open ServerMessage

/-- What a message says of the lives and the points of a player is so. -/
def BearsOut (room : Room) : ServerMessage → Prop
  | .answer _ player _ _ _ score lives =>
    score = room.pointsOf player ∧ lives = room.livesOf player
  | .turnEnded _ player _ livesLeft _ score =>
    livesLeft = room.livesOf player ∧ score = room.pointsOf player
  | .nextTurn _ player _ _ _ lives => lives = room.livesOf player
  | _ => True

variable {room : Room} {move : Move} {play : Play} {news : List ServerMessage}

theorem GoesOn.bearsOut {message : ServerMessage} (goesOn : room.GoesOn message) :
    room.BearsOut message := by
  cases goesOn with
  | turn => rfl
  | ended => trivial

theorem GoesOn.unjudging {message : ServerMessage} (goesOn : room.GoesOn message)
    (query : PlayerId) : message.rewards query = false ∧ message.penalises query = false := by
  cases goesOn with
  | turn => exact ⟨rfl, rfl⟩
  | ended => exact ⟨rfl, rfl⟩

theorem Reports.bearsOut (reports : room.Reports play move news) :
    ∀ message ∈ news, play.room.BearsOut message := by
  cases reports with
  | quiet => exact fun _ member => nomatch member
  | opened _ _ goesOn => simpa using ⟨trivial, goesOn.bearsOut⟩
  | passed _ _ goesOn => simpa using goesOn.bearsOut
  | expired _ _ goesOn => simpa using ⟨⟨rfl, rfl⟩, goesOn.bearsOut⟩
  | accepted _ _ goesOn | failed _ _ goesOn =>
    simpa using ⟨⟨rfl, rfl⟩, ⟨rfl, rfl⟩, goesOn.bearsOut⟩
  | erred => simpa using ⟨⟨rfl, rfl⟩, ⟨rfl, rfl⟩⟩

theorem Reports.pointsOf (reports : room.Reports play move news) (query : PlayerId) :
    play.room.pointsOf query =
      room.pointsOf query + UInt32.ofNat (news.countP (rewards query)) := by
  cases reports with
  | quiet unjudged =>
    rw [unjudged.points]
    exact (UInt32.add_zero _).symm
  | opened _ unjudged goesOn | passed _ unjudged goesOn =>
    rw [unjudged.points]
    simp [(goesOn.unjudging query).1]
  | expired _ lost goesOn | failed _ lost goesOn =>
    rw [lost.pointsOf, pointsOf_loseLife]
    simp [(goesOn.unjudging query).1]
  | erred _ lost =>
    rw [lost.pointsOf, pointsOf_loseLife]
    simp
  | @accepted player _ _ _ _ _ _ scored goesOn =>
    rw [scored.pointsOf, pointsOf_score]
    by_cases same : player = query
    · subst same
      simp [(goesOn.unjudging player).1]
    · simp [(goesOn.unjudging query).1, same, Ne.symm same]

theorem toNat_livesOf_loseLife_eq_sub (room : Room) (player query : PlayerId) :
    ((room.loseLife player).livesOf query).toNat =
      (room.livesOf query).toNat - if player = query then 1 else 0 := by
  by_cases same : player = query
  · subst same
    rw [toNat_livesOf_loseLife, if_pos rfl]
  · rw [livesOf_loseLife_of_ne room (Ne.symm same), if_neg same]
    rfl

/-- A move that is not about a player's place in the room takes as many of their lives as it
announces failures of them, or all that are left. -/
theorem Reports.livesOf (reports : room.Reports play move news) {query : PlayerId}
    (joined : ∀ lives, move ≠ .add query lives) (left : move ≠ .remove query) :
    (play.room.livesOf query).toNat =
      (room.livesOf query).toNat - news.countP (penalises query) := by
  cases reports with
  | quiet unjudged =>
    rw [unjudged.lives query joined left]
    rfl
  | opened _ unjudged goesOn | passed _ unjudged goesOn =>
    rw [unjudged.lives query joined left]
    simp [(goesOn.unjudging query).2]
  | accepted _ scored goesOn =>
    rw [scored.livesOf, livesOf_score]
    simp [(goesOn.unjudging query).2]
  | expired _ lost goesOn | failed _ lost goesOn =>
    rw [lost.livesOf, toNat_livesOf_loseLife_eq_sub]
    simp [List.countP_cons, (goesOn.unjudging query).2]
  | erred _ lost =>
    rw [lost.livesOf, toNat_livesOf_loseLife_eq_sub]
    simp [List.countP_cons]

theorem Reports.unpenalised (reports : room.Reports play move news) {query : PlayerId}
    (absent : query ∉ room.players) : news.countP (penalises query) = 0 := by
  have other : ∀ player, room.current? = some player → player ≠ query := by
    rintro player current rfl
    exact absent (mem_players_of_current? current)
  cases reports with
  | quiet => rfl
  | opened _ _ goesOn | passed _ _ goesOn | accepted _ _ goesOn =>
    simp [(goesOn.unjudging query).2]
  | expired current _ goesOn | failed current _ goesOn =>
    simp [(goesOn.unjudging query).2, other _ current]
  | erred current => simp [other _ current]

/-- Whether a player is away after a move: they are from the moment they leave the countdown or the
running game, until they come back during the countdown. -/
def awayAfter (room : Room) (player : PlayerId) (away : Bool) : Move → Bool
  | .remove other => away || (other = player && room.hasPlayer player && room.phase ≠ .finished)
  | .add other _ => away && !(other = player && room.phase = .waiting)
  | _ => away

theorem awayAfter_of_elsewhere (room : Room) {player : PlayerId} (away : Bool)
    (joined : ∀ lives, move ≠ .add player lives) (left : move ≠ .remove player) :
    room.awayAfter player away move = away := by
  cases move with
  | add other lives =>
    have different : other ≠ player := by
      rintro rfl
      exact joined lives rfl
    simp [awayAfter, different]
  | remove other =>
    have different : other ≠ player := by
      rintro rfl
      exact left rfl
    simp [awayAfter, different]
  | start | advance | answer | expire | check => rfl

end Room

def Move.grants (lives : UInt32) : Move → Bool
  | .add _ granted => granted = lives
  | _ => true

namespace Course

open ServerMessage

/-- Whether a player who was away or not before a run is so after it. -/
def away (rules : Rules) (player : PlayerId) : Course → Bool → List (Move × Supply) → Bool
  | _, gone, [] => gone
  | course, gone, move :: moves =>
    away rules player (course.step rules move) (course.room.awayAfter player gone move.1) moves

/-- The lives that a player has left by what was announced. -/
def due (messages : List ServerMessage) (lives : UInt32) (player : PlayerId) (gone : Bool) : Nat :=
  if gone then 0 else lives.toNat - messages.countP (penalises player)

structure Balances (course : Course) (lives : UInt32) (player : PlayerId) (gone : Bool) : Prop where
  points : course.room.pointsOf player = UInt32.ofNat (course.messages.countP (rewards player))
  lives : player ∈ course.room.players →
    (course.room.livesOf player).toNat = due course.messages lives player gone
  absent : player ∉ course.room.players →
    gone = false ∧ course.messages.countP (penalises player) = 0

variable {rules : Rules} {supply : Supply} {course : Course} {move : Move} {lives : UInt32}
  {player : PlayerId} {gone : Bool}

theorem due_append (messages news : List ServerMessage) :
    due (messages ++ news) lives player gone =
      due messages lives player gone - news.countP (penalises player) := by
  unfold due
  rw [List.countP_append]
  cases gone with
  | true => exact (Nat.zero_sub _).symm
  | false => exact (Nat.sub_sub _ _ _).symm

namespace Balances

theorem lives_elsewhere (balances : course.Balances lives player gone)
    (rostered : course.room.Rostered) (joined : ∀ lives, move ≠ .add player lives)
    (left : move ≠ .remove player)
    (member : player ∈ (course.room.perform rules supply move).room.players) :
    ((course.room.perform rules supply move).room.livesOf player).toNat =
      due (course.step rules (move, supply)).messages lives player
        (course.room.awayAfter player gone move) := by
  have reports := Room.perform_reports rules supply move rostered
  have listed := (course.room.mem_players_perform rules supply joined).mp member
  change _ = due (course.messages ++ _) lives player _
  rw [course.room.awayAfter_of_elsewhere gone joined left, reports.livesOf joined left,
    balances.lives listed, due_append]

theorem lives_joined (balances : course.Balances lives player gone)
    (rostered : course.room.Rostered) (told : course.room.Told course.messages) :
    ((course.room.perform rules supply (.add player lives)).room.livesOf player).toNat =
      due (course.step rules (.add player lives, supply)).messages lives player
        (course.room.awayAfter player gone (.add player lives)) := by
  have quiet : (course.step rules (.add player lives, supply)).messages = course.messages :=
    List.append_nil _
  rw [quiet]
  have stepped := course.room.perform_step rules supply (.add player lives)
  generalize course.room.perform rules supply (.add player lives) = play at stepped ⊢
  cases stepped with
  | ignored ignores =>
    obtain ⟨present, settled⟩ := ignores
    have held := balances.lives ((rostered.hasPlayer_iff player).mp present)
    have unmoved : course.room.awayAfter player gone (.add player lives) = gone := by
      cases gone with
      | false => rfl
      | true =>
        -- Whoever is away has no lives, and would be let in during the countdown.
        have out : course.room.livesOf player = 0 := UInt32.toNat_inj.mp held
        have begun : course.room.phase ≠ .waiting := fun waiting => settled ⟨waiting, out⟩
        simp [Room.awayAfter, begun]
    rw [unmoved]
    exact held
  | enrolled new =>
    have missing := (rostered.hasPlayer_eq_false_iff player).mp new
    obtain ⟨rfl, unpenalised⟩ := balances.absent missing
    change ((course.room.enrol player lives).livesOf player).toNat = lives.toNat - _
    rw [Room.livesOf_enrol, if_pos rfl, unpenalised]
    rfl
  | revived waiting =>
    have back : course.room.awayAfter player gone (.add player lives) = false := by
      simp [Room.awayAfter, waiting]
    change ((course.room.setLives player lives).livesOf player).toNat = _
    rw [back, told.eq_nil_of_waiting waiting, Room.livesOf_setLives, if_pos rfl]
    rfl

theorem lives_left (balances : course.Balances lives player gone)
    (rostered : course.room.Rostered)
    (member : player ∈ (course.room.perform rules supply (.remove player)).room.players) :
    ((course.room.perform rules supply (.remove player)).room.livesOf player).toNat =
      due (course.step rules (.remove player, supply)).messages lives player
        (course.room.awayAfter player gone (.remove player)) := by
  have parted : ∀ granted, Move.remove player ≠ .add player granted := fun _ same => nomatch same
  have listed := (course.room.mem_players_perform rules supply parted).mp member
  have present := (rostered.hasPlayer_iff player).mpr listed
  by_cases finished : course.room.phase = .finished
  · have still : course.room.perform rules supply (.remove player) = Play.begin course.room := by
      change course.room.remove rules supply player = _
      unfold Room.remove
      rw [if_pos present, finished]
    have unmoved : course.room.awayAfter player gone (.remove player) = gone := by
      simp [Room.awayAfter, finished]
    unfold step
    rw [unmoved, still]
    change _ = due (course.messages ++ []) lives player gone
    rw [List.append_nil]
    exact balances.lives listed
  · have gone : course.room.awayAfter player gone (.remove player) = true := by
      simp [Room.awayAfter, present, finished]
    rw [gone, Room.livesOf_perform_remove rules supply player finished]
    rfl

theorem step (balances : course.Balances lives player gone) (rostered : course.room.Rostered)
    (told : course.room.Told course.messages) (grants : move.grants lives = true) :
    (course.step rules (move, supply)).Balances lives player
      (course.room.awayAfter player gone move) where
  points := by
    have reports := Room.perform_reports rules supply move rostered
    change (course.room.perform rules supply move).room.pointsOf player =
      UInt32.ofNat ((course.messages ++ _).countP (rewards player))
    rw [reports.pointsOf, balances.points, List.countP_append, UInt32.ofNat_add]
  lives member := by
    by_cases joined : ∃ granted, move = .add player granted
    · obtain ⟨granted, rfl⟩ := joined
      obtain rfl : granted = lives := of_decide_eq_true grants
      exact balances.lives_joined rostered told
    · have joined : ∀ granted, move ≠ .add player granted := not_exists.mp joined
      by_cases left : move = .remove player
      · subst left
        exact balances.lives_left rostered member
      · exact balances.lives_elsewhere rostered joined left member
  absent missing := by
    have missing : player ∉ course.room.players := fun member =>
      missing ((course.room.players_prefix_perform rules supply move).subset member)
    obtain ⟨rfl, unpenalised⟩ := balances.absent missing
    have absent := (rostered.hasPlayer_eq_false_iff player).mpr missing
    have reports := Room.perform_reports rules supply move rostered
    refine ⟨?_, ?_⟩
    · cases move with
      | remove => simp [Room.awayAfter, absent]
      | add | start | advance | answer | expire | check => rfl
    · change (course.messages ++ _).countP (penalises player) = 0
      rw [List.countP_append, unpenalised, reports.unpenalised missing]

end Balances

theorem new_balances (id : RoomId) (epoch : Epoch) (founder player : PlayerId) (lives : UInt32) :
    (begin (Room.new id epoch founder lives)).Balances lives player false where
  points := by
    change (Table.empty.insert founder (0 : UInt32)).getD player 0 = 0
    rw [Table.getD_insert]
    split
    · rfl
    · rfl
  lives member := by
    change player ∈ [founder] at member
    change ((Room.new id epoch founder lives).livesOf player).toNat = _
    rw [Room.livesOf_new, if_pos (List.mem_singleton.mp member)]
    rfl
  absent _ := ⟨rfl, rfl⟩

theorem run_balances (balances : course.Balances lives player gone)
    (rostered : course.room.Rostered) (told : course.room.Told course.messages)
    (moves : List (Move × Supply)) (grants : ∀ move ∈ moves, move.1.grants lives = true) :
    (course.run rules moves).Balances lives player (away rules player course gone moves) := by
  induction moves generalizing course gone with
  | nil => exact balances
  | cons move moves ih =>
    have reports := Room.perform_reports rules move.2 move.1 rostered
    refine ih ?_ ?_ ?_ ?_
    · exact balances.step rostered told (grants move List.mem_cons_self)
    · exact Room.perform_rostered rules move.2 move.1 rostered
    · exact told.step reports
    · exact fun later member => grants later (List.mem_cons_of_mem move member)

/-- However a game is played in which everybody is given the same lives, and with fewer accepted
answers than the points can count: whoever is in the room has a point for every accepted answer of
theirs that was announced, and the lives that their announced timeouts and wrong answers have left
them, but none while they are away. And what a report says of lives and points is so. -/
theorem messages_account_for_standings (rules : Rules) (id : RoomId) (epoch : Epoch)
    (founder : PlayerId) (lives : UInt32) (moves : List (Move × Supply))
    (grants : ∀ move ∈ moves, move.1.grants lives = true)
    (few : ((begin (Room.new id epoch founder lives)).run rules moves).messages.countP isAccepted <
      UInt32.size) :
    let origin := begin (Room.new id epoch founder lives)
    let course := origin.run rules moves
    (∀ player ∈ course.room.players,
      (course.room.pointsOf player).toNat = course.messages.countP (rewards player) ∧
        (course.room.livesOf player).toNat =
          if away rules player origin false moves then 0
          else lives.toNat - course.messages.countP (penalises player)) ∧
      ∀ (move : Move) (supply : Supply),
        let play := course.room.perform rules supply move
        ∀ message ∈ play.outcome.messages, play.room.BearsOut message := by
  intro origin course
  have rostered := Room.new_rostered id epoch founder lives
  refine ⟨?_, ?_⟩
  · intro player member
    have balances : course.Balances lives player (away rules player origin false moves) :=
      run_balances (new_balances id epoch founder player lives) rostered (.waiting rfl) moves grants
    have fits : course.messages.countP (rewards player) < UInt32.size :=
      Nat.lt_of_le_of_lt
        (List.countP_mono_left (fun message _ => isAccepted_of_rewards message)) few
    refine ⟨?_, balances.lives member⟩
    rw [balances.points]
    exact UInt32.toNat_ofNat_of_lt fits
  · intro move supply play
    exact (Room.perform_reports rules supply move
      (run_rostered rules id epoch founder lives moves)).bearsOut

/-- Three players with three lives: one answers right, wrong and right, one runs out of time, and one
leaves the countdown, comes back, and leaves the game. -/
theorem messages_account_for_standings_of_three :
    let rules : Rules := ⟨{}, ⟨fun word => word = "other", fun _ _ => true⟩⟩
    let supply (number : UInt64) : Supply := ⟨number, fun _ => "the"⟩
    let moves : List (Move × Supply) :=
      [(.add 2 3, supply 1), (.add 3 3, supply 1), (.remove 3, supply 1), (.add 3 3, supply 1),
        (.start, supply 1), (.answer 1 "other", supply 2), (.expire ⟨0, 2, 1, 2, 19⟩, supply 3),
        (.remove 3, supply 4), (.answer 1 "another", supply 5), (.answer 1 "other", supply 5)]
    let origin := begin (Room.new 42 0 1 3)
    let course := origin.run rules moves
    course.messages.countP isAccepted = 2 ∧ course.messages.countP (penalises 2) = 1 ∧
      away rules 3 origin false moves = true ∧
      (∀ player ∈ course.room.players,
        (course.room.pointsOf player).toNat = course.messages.countP (rewards player) ∧
          (course.room.livesOf player).toNat =
            if away rules player origin false moves then 0
            else (3 : UInt32).toNat - course.messages.countP (penalises player)) ∧
      ∀ (move : Move) (supply : Supply),
        let play := course.room.perform rules supply move
        ∀ message ∈ play.outcome.messages, play.room.BearsOut message :=
  ⟨by decide +kernel, by decide +kernel, by decide +kernel,
    messages_account_for_standings _ 42 0 1 3 _ (by decide +kernel) (by decide +kernel)⟩

end Course

end WordGame
