import WordGame.Proofs.Game.Report

/-!
The protocol of a game: what is announced in a room from its founding to the end of its game.

A game begins with its start. Then it is either over at once, or there are turns, and at last it is
over. In a turn its player may give wrong answers, until the turn ends by the right answer, by the
timeout, or by nothing that is said.
-/

namespace WordGame

namespace ServerMessage

def isStart : ServerMessage → Bool
  | .startGame .. => true
  | _ => false

def isEnd : ServerMessage → Bool
  | .gameOver .. => true
  | _ => false

def isInner (message : ServerMessage) : Bool := !message.isStart && !message.isEnd

def goesOn : ServerMessage → Bool
  | .nextTurn .. | .gameOver .. => true
  | _ => false

/-- After this message the turn cannot go on: it was answered, its time is up, or its player is out. -/
def endsTurn : ServerMessage → Bool
  | .turnEnded _ _ .wrongAnswer livesLeft _ _ => livesLeft = 0
  | .turnEnded .. => true
  | _ => false

end ServerMessage

namespace Transcript

/-- A turn of a player up to an answer that is yet to come. -/
inductive Attempts (id : RoomId) (player : PlayerId) : List ServerMessage → Prop
  | begun (fragment : String) (timeLimit round lives : UInt32) :
      Attempts id player [.nextTurn id player fragment timeLimit round lives]
  | erred {messages : List ServerMessage} (attempts : Attempts id player messages) (word : String)
      (score lives round : UInt32) :
      Attempts id player (messages ++
        [.answer id player false word none score lives,
          .turnEnded id player .wrongAnswer lives round score])

inductive Turn (id : RoomId) (player : PlayerId) : List ServerMessage → Prop
  | broken {messages : List ServerMessage} (attempts : Attempts id player messages) :
      Turn id player messages
  | answered {messages : List ServerMessage} (attempts : Attempts id player messages)
      (word fragment : String) (score lives round : UInt32) :
      Turn id player (messages ++
        [.answer id player true word (some fragment) score lives,
          .turnEnded id player .correctAnswer lives round score])
  | expired {messages : List ServerMessage} (attempts : Attempts id player messages)
      (lives round score : UInt32) :
      Turn id player (messages ++ [.turnEnded id player .timeout lives round score])

inductive Turns (id : RoomId) : List ServerMessage → Prop
  | none : Turns id []
  | next {player : PlayerId} {earlier messages : List ServerMessage} (turns : Turns id earlier)
      (turn : Turn id player messages) : Turns id (earlier ++ messages)

/-- All that is announced in a room whose game is over. -/
inductive Game (id : RoomId) : List ServerMessage → Prop
  | undecided (fragment : String) (round timeLimit : UInt32) (winner : PlayerId)
      (scores : Table String FinalScore) :
      Game id [.startGame id fragment round timeLimit, .gameOver id winner scores]
  | played {series : List ServerMessage} (fragment : String) (round timeLimit : UInt32)
      (turns : Turns id series) (some : series ≠ []) (winner : PlayerId)
      (scores : Table String FinalScore) :
      Game id (.startGame id fragment round timeLimit :: series ++ [.gameOver id winner scores])

variable {id : RoomId} {player : PlayerId} {messages : List ServerMessage}

theorem Attempts.ne_nil (attempts : Attempts id player messages) : messages ≠ [] := by
  cases attempts with
  | begun => exact List.cons_ne_nil _ _
  | erred => exact List.append_ne_nil_of_right_ne_nil _ (List.cons_ne_nil _ _)

/-! ### The first and the last message -/

theorem Attempts.inner (attempts : Attempts id player messages) :
    messages.all ServerMessage.isInner = true := by
  induction attempts with
  | begun => rfl
  | erred _ word score lives round ih =>
    rw [List.all_append, ih]
    rfl

theorem Turn.inner (turn : Turn id player messages) :
    messages.all ServerMessage.isInner = true := by
  cases turn with
  | broken attempts => exact attempts.inner
  | answered attempts | expired attempts =>
    rw [List.all_append, attempts.inner]
    rfl

theorem Turns.inner (turns : Turns id messages) : messages.all ServerMessage.isInner = true := by
  induction turns with
  | none => rfl
  | next _ turn ih =>
    rw [List.all_append, ih, turn.inner]
    rfl

theorem Game.framed (game : Game id messages) :
    ∃ first middle last, messages = first :: middle ++ [last] ∧ first.isStart = true ∧
      first.isEnd = false ∧ middle.all ServerMessage.isInner = true ∧ last.isStart = false := by
  cases game with
  | undecided => exact ⟨_, [], _, rfl, rfl, rfl, rfl, rfl⟩
  | played _ _ _ turns => exact ⟨_, _, _, rfl, rfl, rfl, turns.inner, rfl⟩

theorem mem_or_last {before middle tail : List ServerMessage}
    {message last : ServerMessage} (split : before ++ message :: tail = middle ++ [last]) :
    message ∈ middle ∨ message = last ∧ tail = [] := by
  rcases List.eq_nil_or_concat tail with rfl | ⟨others, other, rfl⟩
  · exact .inr ⟨List.singleton_inj.mp (List.append_inj' split rfl).2, rfl⟩
  · rw [List.concat_eq_append, ← List.cons_append, ← List.append_assoc] at split
    rw [← (List.append_inj' split rfl).1]
    exact .inl (List.mem_append_right _ List.mem_cons_self)

/-- Nothing is announced before the start of a game or after its end. -/
theorem Game.bounds {whole before after : List ServerMessage} {message : ServerMessage}
    (game : Game id whole) (begins : before ++ message :: after <+: whole) :
    (before = [] ↔ message.isStart = true) ∧ (message.isEnd = true → after = []) := by
  obtain ⟨first, middle, last, shape, starts, opens, inner, closes⟩ := game.framed
  obtain ⟨rest, split⟩ := begins
  rw [shape, List.append_assoc, List.cons_append] at split
  cases before with
  | nil =>
    obtain ⟨rfl, _⟩ := List.cons.inj split
    refine ⟨iff_of_true rfl starts, ?_⟩
    rw [opens]
    exact fun ends => nomatch ends
  | cons head before =>
    have started : ¬head :: before = [] := List.cons_ne_nil _ _
    rcases mem_or_last (List.cons.inj split).2 with inside | ⟨rfl, nothing⟩
    · have inside := List.all_eq_true.mp inner message inside
      unfold ServerMessage.isInner at inside
      rw [Bool.and_eq_true, Bool.not_eq_true', Bool.not_eq_true'] at inside
      rw [inside.1, inside.2]
      exact ⟨iff_of_false started Bool.false_ne_true, fun ends => nomatch ends⟩
    · rw [closes]
      exact ⟨iff_of_false started Bool.false_ne_true,
        fun _ => (List.append_eq_nil_iff.mp nothing).1⟩

/-- Whatever ends a turn is followed by what comes next. -/
def Settled (messages : List ServerMessage) : Prop :=
  ∀ before message after, messages = before ++ message :: after → message.endsTurn = true →
    ∃ next rest, after = next :: rest ∧ next.goesOn = true

theorem settled_nil : Settled [] := by
  intro before message after split
  exact absurd split.symm (List.append_ne_nil_of_right_ne_nil _ (List.cons_ne_nil _ _))

theorem settled_cons {head : ServerMessage} {rest : List ServerMessage} (settled : Settled rest)
    (followed : head.endsTurn = true → ∃ next others, rest = next :: others ∧ next.goesOn = true) :
    Settled (head :: rest) := by
  intro before message after split ends
  rcases List.cons_eq_append_iff.mp split with ⟨_, same⟩ | ⟨others, _, same⟩
  · cases same
    exact followed ends
  · exact settled others message after same ends

end Transcript

namespace Room

open Transcript

/-- What has been announced in a room, by the phase of its game. -/
inductive Told (room : Room) : List ServerMessage → Prop
  | waiting (phase : room.phase = .waiting) : Told room []
  | running {player : PlayerId} {series attempts : List ServerMessage} (fragment : String)
      (round timeLimit : UInt32) (current : room.current? = some player)
      (turns : Turns room.id series) (attempting : Attempts room.id player attempts) :
      Told room (.startGame room.id fragment round timeLimit :: (series ++ attempts))
  | ended {messages : List ServerMessage} (finished : room.phase = .finished)
      (game : Game room.id messages) : Told room messages

variable {room : Room} {move : Move} {play : Play} {messages news : List ServerMessage}

theorem Told.eq_nil_of_waiting (told : room.Told messages) (waiting : room.phase = .waiting) :
    messages = [] := by
  cases told with
  | waiting => rfl
  | running _ _ _ current => cases waiting.symm.trans (running_of_current? current)
  | ended finished => cases waiting.symm.trans finished

theorem Told.begins (told : room.Told messages) :
    ∃ whole, Game room.id whole ∧ messages <+: whole := by
  cases told with
  | waiting => exact ⟨_, .undecided "" 0 0 room.founder .empty, List.nil_prefix⟩
  | @running _ series last fragment round timeLimit _ turns attempts =>
    have turns : Turns room.id (series ++ last) := turns.next (.broken attempts)
    have some : series ++ last ≠ [] := List.append_ne_nil_of_right_ne_nil _ attempts.ne_nil
    exact ⟨_, .played fragment round timeLimit turns some room.founder .empty,
      List.prefix_append _ _⟩
  | ended _ game => exact ⟨messages, game, List.prefix_refl _⟩

/-- After any number of turns the game goes on, or it is over. -/
theorem told_of_goesOn {later : Room} {series : List ServerMessage} {message : ServerMessage}
    (fragment : String) (round timeLimit : UInt32) (goesOn : later.GoesOn message)
    (turns : Turns later.id series) :
    later.Told (.startGame later.id fragment round timeLimit :: (series ++ [message])) := by
  cases goesOn with
  | turn current => exact .running fragment round timeLimit current turns (.begun _ _ _ _)
  | ended finished =>
    refine .ended finished ?_
    by_cases none : series = []
    · rw [none]
      exact .undecided fragment round timeLimit _ _
    · exact .played fragment round timeLimit turns none _ _

/-- The turn is over, with a verdict or without one. -/
theorem Told.close {later : Room} (told : room.Told messages) (verdict : List ServerMessage)
    {message : ServerMessage} (running : room.phase = .inProgress) (same : later.id = room.id)
    (closes : ∀ player attempts, room.current? = some player →
      Attempts room.id player attempts → Turn room.id player (attempts ++ verdict))
    (goesOn : later.GoesOn message) : later.Told (messages ++ (verdict ++ [message])) := by
  cases told with
  | waiting waiting => cases running.symm.trans waiting
  | ended finished => cases running.symm.trans finished
  | @running player series attempts fragment round timeLimit current turns attempting =>
    have turns : Turns later.id (series ++ (attempts ++ verdict)) := by
      rw [same]
      exact turns.next (closes player attempts current attempting)
    have told := told_of_goesOn fragment round timeLimit goesOn turns
    rw [same] at told
    simpa only [List.cons_append, List.append_assoc] using told

theorem Told.step (told : room.Told messages) (reports : room.Reports play move news) :
    play.room.Told (messages ++ news) := by
  cases reports with
  | quiet unjudged phase current =>
    rw [List.append_nil]
    cases told with
    | waiting waiting => exact .waiting (phase.trans waiting)
    | running fragment round timeLimit held turns attempting =>
      rw [← unjudged.id] at turns attempting ⊢
      exact .running fragment round timeLimit (current _ held) turns attempting
    | ended finished game =>
      rw [← unjudged.id] at game
      exact .ended (phase.trans finished) game
  | @opened fragment round timeLimit message waiting unjudged goesOn =>
    cases told with
    | waiting =>
      rw [← unjudged.id]
      exact told_of_goesOn fragment round timeLimit goesOn .none
    | running _ _ _ current => cases waiting.symm.trans (running_of_current? current)
    | ended finished => cases waiting.symm.trans finished
  | passed running unjudged goesOn =>
    refine told.close [] running unjudged.id ?_ goesOn
    intro player attempts _ attempting
    rw [List.append_nil]
    exact .broken attempting
  | expired current lost goesOn =>
    refine told.close [_] (running_of_current? current) lost.id ?_ goesOn
    intro player attempts held attempting
    cases held.symm.trans current
    exact .expired attempting _ _ _
  | accepted current scored goesOn =>
    refine told.close [_, _] (running_of_current? current) scored.id ?_ goesOn
    intro player attempts held attempting
    cases held.symm.trans current
    exact .answered attempting _ _ _ _ _
  | failed current lost goesOn =>
    refine told.close [_, _] (running_of_current? current) lost.id ?_ goesOn
    intro player attempts held attempting
    cases held.symm.trans current
    exact .broken (attempting.erred _ _ _ _)
  | erred current lost _ still =>
    cases told with
    | waiting waiting => cases waiting.symm.trans (running_of_current? current)
    | ended finished => cases finished.symm.trans (running_of_current? current)
    | running fragment round timeLimit held turns attempting =>
      cases held.symm.trans current
      have same : play.room.id = room.id := lost.id
      rw [List.cons_append, List.append_assoc]
      rw [← same] at turns attempting ⊢
      exact .running fragment round timeLimit still turns (attempting.erred _ _ _ _)

theorem GoesOn.goesOn {message : ServerMessage} (goesOn : room.GoesOn message) :
    message.goesOn = true ∧ message.endsTurn = false := by
  cases goesOn with
  | turn => exact ⟨rfl, rfl⟩
  | ended => exact ⟨rfl, rfl⟩

theorem GoesOn.settled {message : ServerMessage} (goesOn : room.GoesOn message) :
    Settled [message] := by
  apply settled_cons settled_nil
  rw [goesOn.goesOn.2]
  exact fun ends => nomatch ends

theorem Reports.settled (reports : room.Reports play move news) : Settled news := by
  cases reports with
  | quiet => exact settled_nil
  | opened _ _ goesOn => exact settled_cons goesOn.settled (fun ends => nomatch ends)
  | passed _ _ goesOn => exact goesOn.settled
  | expired _ _ goesOn =>
    exact settled_cons goesOn.settled (fun _ => ⟨_, [], rfl, goesOn.goesOn.1⟩)
  | accepted _ _ goesOn | failed _ _ goesOn =>
    refine settled_cons (settled_cons goesOn.settled ?_) (fun ends => nomatch ends)
    exact fun _ => ⟨_, [], rfl, goesOn.goesOn.1⟩
  | erred _ _ left =>
    refine settled_cons (settled_cons settled_nil ?_) (fun ends => nomatch ends)
    intro ends
    exact absurd (of_decide_eq_true ends) left

end Room

namespace Course

theorem run_told (rules : Rules) (id : RoomId) (epoch : Epoch) (founder : PlayerId)
    (lives : UInt32) (moves : List (Move × Supply)) :
    let course := (begin (Room.new id epoch founder lives)).run rules moves
    course.room.Rostered ∧ course.room.id = id ∧ course.room.Told course.messages := by
  refine run_induction rules (fun course =>
    course.room.Rostered ∧ course.room.id = id ∧ course.room.Told course.messages) ?_ _ moves ?_
  · rintro course move ⟨rostered, same, told⟩
    refine ⟨Room.perform_rostered rules move.2 move.1 rostered, ?_, ?_⟩
    · exact (course.room.id_perform rules move.2 move.1).trans same
    · exact told.step (Room.perform_reports rules move.2 move.1 rostered)
  · exact ⟨Room.new_rostered id epoch founder lives, rfl, .waiting rfl⟩

/-- However a game is played, what is announced of it is the beginning of a game as the protocol has
it: nothing comes before its start or after its end. And whatever ends a turn is followed, in the same
report, by the next turn or the end of the game. -/
theorem messages_follow_protocol (rules : Rules) (id : RoomId) (epoch : Epoch)
    (founder : PlayerId) (lives : UInt32) (moves : List (Move × Supply)) :
    let course := (begin (Room.new id epoch founder lives)).run rules moves
    (∃ whole, Transcript.Game id whole ∧ course.messages <+: whole) ∧
      (∀ before message after, course.messages = before ++ message :: after →
        (before = [] ↔ message.isStart = true) ∧ (message.isEnd = true → after = [])) ∧
      ∀ (move : Move) (supply : Supply),
        Transcript.Settled (course.room.perform rules supply move).outcome.messages := by
  intro course
  obtain ⟨rostered, same, told⟩ := run_told rules id epoch founder lives moves
  obtain ⟨whole, game, begins⟩ := told.begins
  rw [same] at game
  refine ⟨⟨whole, game, begins⟩, ?_, ?_⟩
  · intro before message after split
    apply game.bounds
    rw [← split]
    exact begins
  · intro move supply
    exact (Room.perform_reports rules supply move rostered).settled

/-- Two players: the first gives a wrong answer and a right one, and the second, who has one life,
gives none in time. -/
theorem messages_follow_protocol_to_the_end :
    let rules : Rules := ⟨{}, ⟨fun word => word = "other", fun _ _ => true⟩⟩
    let supply (number : UInt64) : Supply := ⟨number, fun _ => "the"⟩
    let moves : List (Move × Supply) :=
      [(.add 2 1, supply 1), (.start, supply 1), (.answer 1 "another", supply 2),
        (.answer 1 "other", supply 2)]
    let last : Move × Supply := (.expire ⟨0, 2, 1, 2, 19⟩, supply 3)
    let room := ((begin (Room.new 42 0 1 3)).run rules moves).room
    let ended := (begin (Room.new 42 0 1 3)).run rules (moves ++ [last])
    ended.messages.map ServerMessage.kind =
        ["start_game", "next_turn", "answer", "turn_ended", "answer", "turn_ended", "next_turn",
          "turn_ended", "game_over"] ∧
      (∃ whole, Transcript.Game 42 whole ∧ ended.messages <+: whole) ∧
      (room.perform rules last.2 last.1).outcome.messages.map ServerMessage.endsTurn =
        [true, false] ∧
      Transcript.Settled (room.perform rules last.2 last.1).outcome.messages :=
  ⟨by decide +kernel, And.left (messages_follow_protocol _ 42 0 1 3 _), by decide +kernel,
    And.right (And.right (messages_follow_protocol _ 42 0 1 3 _)) _ _⟩

end Course

end WordGame
