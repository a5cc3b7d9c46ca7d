import Mathlib.Data.List.Chain
import WordGame.Proofs.Game.Sequel
import WordGame.Proofs.Game.Transcript

/-!
The end of a game. It comes once, it is the last thing that is announced, and after it nothing is done
in the room but to let newcomers in.
-/

namespace WordGame

inductive Phase.Leads : Phase → Phase → Prop
  | stays (phase : Phase) : Leads phase phase
  | begins : Leads .waiting .inProgress
  | ends : Leads .inProgress .finished

namespace Room

/-- The phases of a game before, in and after a move. The start of a game is made of its opening and
of what comes of it. -/
def stages (rules : Rules) (supply : Supply) (room : Room) (move : Move) : List Phase :=
  let later := (room.perform rules supply move).room.phase
  match move, room.phase with
  | .start, .waiting => [.waiting, (room.opening rules supply).room.phase, later]
  | _, phase => [phase, later]

/-- The later room differs by a newcomer at most. -/
structure Admits (room : Room) (player : PlayerId) (later : Room) : Prop where
  players : later.players = room.players ∨
    player ∉ room.players ∧ later.players = room.players ++ [player]
  lives : ∀ other ∈ room.players, later.livesOf other = room.livesOf other
  points : ∀ other ∈ room.players, later.pointsOf other = room.pointsOf other
  id : later.id = room.id
  epoch : later.epoch = room.epoch
  founder : later.founder = room.founder
  phase : later.phase = room.phase
  winner : later.winner = room.winner
  turnIndex : later.turnIndex = room.turnIndex
  turnNumber : later.turnNumber = room.turnNumber
  fragment : later.fragment = room.fragment
  round : later.round = room.round
  timeLimit : later.timeLimit = room.timeLimit

inductive Ends (room : Room) (play : Play) (news : List ServerMessage) : Prop
  | now (before : List ServerMessage) (last : ServerMessage) (told : news = before ++ [last])
      (quiet : before.countP ServerMessage.isEnd = 0) (ends : last.isEnd = true)
      (unfinished : room.phase ≠ .finished) (finished : play.room.phase = .finished) :
      Ends room play news
  | not (quiet : news.countP ServerMessage.isEnd = 0)
      (still : play.room.phase = .finished → room.phase = .finished) : Ends room play news

variable {rules : Rules} {supply : Supply} {room : Room} {move : Move} {play : Play}
  {news : List ServerMessage}

theorem GoesOn.ends (before : List ServerMessage) {last : ServerMessage}
    (goesOn : play.room.GoesOn last) (quiet : before.countP ServerMessage.isEnd = 0)
    (unfinished : room.phase ≠ .finished) : room.Ends play (before ++ [last]) := by
  cases goesOn with
  | ended finished => exact .now before _ rfl quiet rfl unfinished finished
  | turn current =>
    refine .not ?_ ?_
    · rw [List.countP_append, quiet]
      rfl
    · intro finished
      cases finished.symm.trans (running_of_current? current)

theorem Reports.ends (reports : room.Reports play move news) : room.Ends play news := by
  cases reports with
  | quiet _ phase => exact .not rfl (fun finished => phase.symm.trans finished)
  | @opened _ _ _ _ waiting _ goesOn =>
    have unfinished : room.phase ≠ .finished := by
      rw [waiting]
      decide
    exact goesOn.ends [_] rfl unfinished
  | passed running _ goesOn => exact goesOn.ends [] rfl (unfinished_of_running running)
  | expired current _ goesOn =>
    exact goesOn.ends [_] rfl (unfinished_of_running (running_of_current? current))
  | accepted current _ goesOn | failed current _ goesOn =>
    exact goesOn.ends [_, _] rfl (unfinished_of_running (running_of_current? current))
  | erred _ _ _ still =>
    refine .not rfl ?_
    intro finished
    cases finished.symm.trans (running_of_current? still)

theorem Ends.any_iff (ends : room.Ends play news) :
    (∃ message ∈ news, message.isEnd = true) ↔
      room.phase ≠ .finished ∧ play.room.phase = .finished := by
  rw [← List.countP_pos_iff]
  cases ends with
  | now before last told quiet ends unfinished finished =>
    refine iff_of_true ?_ ⟨unfinished, finished⟩
    rw [told, List.countP_append, quiet, List.countP_cons_of_pos ends]
    decide
  | not quiet still =>
    refine iff_of_false ?_ ?_
    · rw [quiet]
      exact Nat.lt_irrefl 0
    · rintro ⟨unfinished, finished⟩
      exact unfinished (still finished)

theorem Ends.last (ends : room.Ends play news) {before after : List ServerMessage}
    {message : ServerMessage} (split : news = before ++ message :: after)
    (closing : message.isEnd = true) : after = [] := by
  cases ends with
  | not quiet =>
    have none := List.countP_eq_zero.mp quiet message
    rw [split] at none
    exact absurd closing (none (List.mem_append_right _ List.mem_cons_self))
  | now earlier last told quiet =>
    rcases Transcript.mem_or_last (split.symm.trans told) with inside | ⟨_, nothing⟩
    · exact absurd closing (List.countP_eq_zero.mp quiet message inside)
    · exact nothing

theorem Sequel.ending (sequel : room.Sequel supply move play) (unfinished : room.phase ≠ .finished)
    (finished : play.room.phase = .finished) :
    play.outcome.gameOver = true ∧ play.outcome.turn = none := by
  cases sequel with
  | same _ phase => exact absurd (phase.symm.trans finished) unfinished
  | ended _ _ ticketless reported => exact ⟨reported, ticketless⟩
  | turn _ _ _ running => cases finished.symm.trans (running_of_runningTicket? running)

theorem stages_cases (room : Room) (rules : Rules) (supply : Supply) (move : Move) :
    (room.phase = .waiting ∧ move = .start ∧ room.stages rules supply move =
        [.waiting, .inProgress, (room.perform rules supply move).room.phase]) ∨
      ((room.phase = .waiting → move ≠ .start) ∧
        room.stages rules supply move =
          [room.phase, (room.perform rules supply move).room.phase]) := by
  unfold stages
  split
  · rename_i waiting
    exact .inl ⟨waiting, rfl, rfl⟩
  · rename_i other
    refine .inr ⟨?_, rfl⟩
    intro waiting start
    exact other start waiting

theorem isChain_stages (room : Room) (rules : Rules) (supply : Supply) (move : Move) :
    (room.stages rules supply move).IsChain Phase.Leads := by
  have sequel := room.perform_sequel rules supply move
  rcases room.stages_cases rules supply move with ⟨waiting, start, stages⟩ | ⟨unstarted, stages⟩
  · rw [stages]
    refine .cons_cons .begins (List.isChain_pair.mpr ?_)
    cases sequel with
    | same undisturbed =>
      rw [start] at undisturbed
      exact absurd waiting undisturbed
    | ended _ finished =>
      rw [finished]
      exact .ends
    | turn _ _ _ running =>
      rw [running_of_runningTicket? running]
      exact .stays _
  · rw [stages, List.isChain_pair]
    have begun (began : room.phase = .waiting → move = .start) : room.phase ≠ .waiting :=
      fun waiting => unstarted waiting (began waiting)
    cases sequel with
    | same _ phase =>
      rw [phase]
      exact .stays _
    | ended began finished =>
      rw [finished]
      cases phase : room.phase with
      | waiting => exact absurd phase (begun began)
      | inProgress => exact .ends
      | finished => exact .stays _
    | turn _ began unfinished running =>
      rw [running_of_runningTicket? running]
      cases phase : room.phase with
      | waiting => exact absurd phase (begun began)
      | inProgress => exact .stays _
      | finished => exact absurd phase unfinished

theorem ending_infix_stages_iff (room : Room) (rules : Rules) (supply : Supply) (move : Move) :
    [.inProgress, .finished] <:+: room.stages rules supply move ↔
      room.phase ≠ .finished ∧ (room.perform rules supply move).room.phase = .finished := by
  have chain := room.isChain_stages rules supply move
  rcases room.stages_cases rules supply move with ⟨waiting, _, stages⟩ | ⟨_, stages⟩
  · rw [stages, waiting]
    cases (room.perform rules supply move).room.phase with
    | waiting | inProgress | finished => decide
  · rw [stages, List.isChain_pair] at chain
    rw [stages]
    generalize (room.perform rules supply move).room.phase = later at chain ⊢
    generalize room.phase = phase at chain ⊢
    cases chain with
    | begins | ends => decide
    | stays =>
      cases later with
      | waiting | inProgress | finished => decide

theorem Step.of_finished (step : room.Step rules supply move play)
    (finished : room.phase = .finished) :
    (play.room = room ∨ ∃ player lives, move = .add player lives ∧
        room.hasPlayer player = false ∧ play.room = room.enrol player lives) ∧
      play.outcome.messages = [] ∧ play.outcome.turn = none := by
  cases step with
  | ignored | reported => exact ⟨.inl rfl, rfl, rfl⟩
  | enrolled new => exact ⟨.inr ⟨_, _, rfl, new, rfl⟩, rfl, rfl⟩
  | revived waiting | withdrawn waiting | opened waiting => cases finished.symm.trans waiting
  | passed running | abandoned running | left running | decided running =>
    cases finished.symm.trans running
  | expired running => cases finished.symm.trans (running_of_isRunning running)
  | accepted current | lost current | failed current | erred current | resigned _ current =>
    cases finished.symm.trans (running_of_current? current)

theorem admits_refl (room : Room) (player : PlayerId) : room.Admits player room :=
  ⟨.inl rfl, fun _ _ => rfl, fun _ _ => rfl, rfl, rfl, rfl, rfl, rfl, rfl, rfl, rfl, rfl, rfl⟩

theorem enrol_admits (rostered : room.Rostered) {player : PlayerId} (lives : UInt32)
    (new : room.hasPlayer player = false) : room.Admits player (room.enrol player lives) := by
  have absent := (rostered.hasPlayer_eq_false_iff player).mp new
  have different : ∀ other ∈ room.players, other ≠ player := by
    rintro other member rfl
    exact absent member
  refine ⟨.inr ⟨absent, rfl⟩, ?_, ?_, rfl, rfl, rfl, rfl, rfl, rfl, rfl, rfl, rfl, rfl⟩
  · intro other member
    rw [livesOf_enrol, if_neg (different other member)]
  · intro other member
    rw [pointsOf_enrol, if_neg (different other member)]

end Room

namespace Course

theorem run_countP_isEnd (rules : Rules) (id : RoomId) (epoch : Epoch) (founder : PlayerId)
    (lives : UInt32) (moves : List (Move × Supply)) :
    let course := (begin (Room.new id epoch founder lives)).run rules moves
    course.room.Rostered ∧ course.messages.countP ServerMessage.isEnd =
      if course.room.phase = .finished then 1 else 0 := by
  refine run_induction rules (fun course => course.room.Rostered ∧
    course.messages.countP ServerMessage.isEnd =
      if course.room.phase = .finished then 1 else 0) ?_ _ moves ?_
  · rintro course ⟨move, supply⟩ ⟨rostered, counted⟩
    have next := Room.perform_rostered rules supply move rostered
    refine ⟨next, ?_⟩
    have sequel := course.room.perform_sequel rules supply move
    have ends := (Room.perform_reports rules supply move rostered).ends
    change (course.messages ++ (course.room.perform rules supply move).outcome.messages).countP _ =
      if (course.room.perform rules supply move).room.phase = .finished then 1 else 0
    rw [List.countP_append, counted]
    -- A report of the end comes just with the move after which the phase says so, too.
    cases ends with
    | now before last told quiet ends unfinished finished =>
      rw [told, List.countP_append, quiet, List.countP_cons_of_pos ends, if_neg unfinished,
        if_pos finished]
      rfl
    | not quiet still =>
      rw [quiet, if_congr ⟨sequel.finished, still⟩ rfl rfl]
      rfl
  · exact ⟨Room.new_rostered id epoch founder lives, rfl⟩

/-- However a game is played, it ends once and stays so. Its phases come in order; its end is
announced by the move that brings it, with nothing after it and no ticket; and once it is over nothing
is done in the room but to let newcomers in, which touches nobody else. -/
theorem game_ends_once (rules : Rules) (id : RoomId) (epoch : Epoch) (founder : PlayerId)
    (lives : UInt32) (moves : List (Move × Supply)) :
    let course := (begin (Room.new id epoch founder lives)).run rules moves
    let room := course.room
    (course.messages.countP ServerMessage.isEnd = if room.phase = .finished then 1 else 0) ∧
      ∀ (move : Move) (supply : Supply),
        let play := room.perform rules supply move
        let stages := room.stages rules supply move
        stages.IsChain Phase.Leads ∧
          ((∃ message ∈ play.outcome.messages, message.isEnd = true) ↔
            [.inProgress, .finished] <:+: stages) ∧
          (∀ before message after, play.outcome.messages = before ++ message :: after →
            message.isEnd = true →
              after = [] ∧ play.outcome.gameOver = true ∧ play.outcome.turn = none) ∧
          (room.phase = .finished →
            play.outcome.messages = [] ∧ play.outcome.turn = none ∧
              ((∀ player lives, move ≠ .add player lives) → play.room = room) ∧
              ∀ player lives, move = .add player lives → room.Admits player play.room) := by
  intro course room
  obtain ⟨rostered, counted⟩ := run_countP_isEnd rules id epoch founder lives moves
  refine ⟨counted, ?_⟩
  intro move supply play stages
  have step : room.Step rules supply move play := room.perform_step rules supply move
  have sequel : room.Sequel supply move play := room.perform_sequel rules supply move
  have ends : room.Ends play play.outcome.messages :=
    (Room.perform_reports rules supply move rostered).ends
  refine ⟨room.isChain_stages rules supply move, ?_, ?_, ?_⟩
  · rw [ends.any_iff, room.ending_infix_stages_iff]
  · intro before message after split closing
    have member : message ∈ play.outcome.messages := by
      rw [split]
      exact List.mem_append_right _ List.mem_cons_self
    obtain ⟨unfinished, finished⟩ := ends.any_iff.mp ⟨message, member, closing⟩
    exact ⟨ends.last split closing, sequel.ending unfinished finished⟩
  · intro finished
    obtain ⟨kept, silent, ticketless⟩ := step.of_finished finished
    refine ⟨silent, ticketless, ?_, ?_⟩
    · intro closed
      rcases kept with same | ⟨player, lives, added, _⟩
      · exact same
      · exact absurd added (closed player lives)
    · intro player lives added
      rcases kept with same | ⟨other, count, joined, new, same⟩
      · rw [same]
        exact room.admits_refl player
      · cases added.symm.trans joined
        rw [same]
        exact Room.enrol_admits rostered lives new

/-- Two players: the second, who has one life, gives no answer in time. Then the first leaves and a
third comes. -/
theorem game_ends_once_by_timeout :
    let rules : Rules := ⟨{}, ⟨fun word => word = "other", fun _ _ => true⟩⟩
    let supply (number : UInt64) : Supply := ⟨number, fun _ => "the"⟩
    let moves : List (Move × Supply) :=
      [(.add 2 1, supply 1), (.start, supply 1), (.answer 1 "other", supply 2)]
    let last : Move × Supply := (.expire ⟨0, 2, 1, 2, 19⟩, supply 3)
    let running := ((begin (Room.new 42 0 1 3)).run rules moves).room
    let ended := (begin (Room.new 42 0 1 3)).run rules (moves ++ [last])
    running.stages rules last.2 last.1 = [.inProgress, .finished] ∧
      (∃ message ∈ (running.perform rules last.2 last.1).outcome.messages,
        message.isEnd = true) ∧
      ended.room.phase = .finished ∧
      (ended.messages.countP ServerMessage.isEnd =
        if ended.room.phase = .finished then 1 else 0) ∧
      (ended.room.perform rules (supply 3) (.remove 1)).room = ended.room ∧
      ended.room.Admits 3 (ended.room.perform rules (supply 3) (.add 3 3)).room := by
  refine ⟨by decide +kernel, ?_, by decide +kernel, And.left (game_ends_once _ 42 0 1 3 _), ?_, ?_⟩
  · obtain ⟨_, announced, _⟩ := And.right (game_ends_once _ 42 0 1 3 _) _ _
    apply announced.mpr
    decide +kernel
  · obtain ⟨_, _, _, left⟩ := And.right (game_ends_once _ 42 0 1 3 _) (.remove 1) _
    refine (left ?_).2.2.1 (fun _ _ other => nomatch other)
    decide +kernel
  · obtain ⟨_, _, _, joined⟩ := And.right (game_ends_once _ 42 0 1 3 _) (.add 3 3) _
    refine (joined ?_).2.2.2 3 3 rfl
    decide +kernel

end Course

end WordGame
