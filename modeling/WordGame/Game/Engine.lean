import WordGame.Dictionary.Basic
import WordGame.Game.Outcome
import WordGame.Text.Blank

/-!
The rules of the game, as functions from a room to what becomes of it.

A game starts when the countdown is over. The player whose turn it is has to send a word of the
dictionary that contains the fragment. Whoever does scores a point, and the turn passes on; a wrong
word costs a life but not the turn, and running out of time costs both. The game ends when at most
one player is left alive.
-/

namespace WordGame

structure Rules where
  config : GameConfig
  dictionary : Dictionary

/-- What one operation may use up: the number of the turn that it starts, and the fragments that it
draws, in order. -/
structure Supply where
  turnNumber : UInt64
  fragment : Nat → String

namespace Play

def begin (room : Room) : Play := ⟨room, .nothing⟩

def announce (play : Play) (message : ServerMessage) : Play :=
  { play with outcome := { play.outcome with messages := play.outcome.messages ++ [message] } }

def drawFragment (supply : Supply) (play : Play) : Play where
  room := { play.room with fragment := supply.fragment play.outcome.drawn }
  outcome := { play.outcome with drawn := play.outcome.drawn + 1 }

def finish (play : Play) (winner : PlayerId) : Play :=
  let room := { play.room with phase := .finished, winner := some winner }
  let outcome := { play.outcome with turn := none, gameOver := true }
  Play.announce ⟨room, outcome⟩ (.gameOver room.id winner room.finalScores)

/-- Ends a running game if at most one player is alive: the survivor wins, or the top scorer where
nobody survives. A game that is over already is reported as such. -/
def conclude (play : Play) : Play :=
  match play.room.phase with
  | .waiting => play
  | .finished => { play with outcome := { play.outcome with gameOver := true } }
  | .inProgress =>
    match play.room.alive with
    | [] => play.finish play.room.topScorer
    | [survivor] => play.finish survivor
    | _ :: _ :: _ => play

def startTurn (rules : Rules) (supply : Supply) (index : Nat) (player : PlayerId)
    (play : Play) : Play :=
  let timeLimit := rules.config.timeLimit play.room.round
  let room :=
    { play.room with turnIndex := index, turnNumber := supply.turnNumber, timeLimit := timeLimit }
  let play := drawFragment supply { play with room := room }
  let ticket : Ticket := ⟨room.epoch, room.turnNumber, index, player, timeLimit⟩
  let play := { play with outcome := { play.outcome with turn := some ticket } }
  play.announce
    (.nextTurn room.id player play.room.fragment timeLimit room.round (room.livesOf player))

/-- A new round begins when the turn comes round to the same position or an earlier one. -/
def countRound (index : Nat) (play : Play) : Play :=
  if index ≤ play.room.turnIndex then
    { play with room := { play.room with round := play.room.round + 1 } }
  else play

def advance (rules : Rules) (supply : Supply) (play : Play) : Play :=
  if play.room.phase = .inProgress then
    let play := play.conclude
    if play.room.phase = .finished then play
    else
      match play.room.next? with
      | some (index, player) => (play.countRound index).startTurn rules supply index player
      | none => play
  else play

end Play

namespace Room

def opening (rules : Rules) (supply : Supply) (room : Room) : Play :=
  let opened :=
    { room with
      phase := .inProgress, round := 1, turnIndex := 0, timeLimit := rules.config.timeLimit 1 }
  let play := (Play.begin opened).drawFragment supply
  play.announce (.startGame room.id play.room.fragment play.room.round play.room.timeLimit)

def start (rules : Rules) (supply : Supply) (room : Room) : Play :=
  if room.phase = .waiting then
    let play := (room.opening rules supply).conclude
    if play.room.phase = .finished then play
    else
      match play.room.firstAlive? (List.range play.room.players.length) with
      | some (index, player) => play.startTurn rules supply index player
      | none => play
  else Play.begin room

def advance (rules : Rules) (supply : Supply) (room : Room) : Play :=
  (Play.begin room).advance rules supply

def isRunning (room : Room) (ticket : Ticket) : Bool :=
  room.phase = .inProgress ∧ room.epoch = ticket.epoch ∧ room.turnNumber = ticket.number ∧
    room.turnIndex = ticket.turnIndex ∧ room.players[room.turnIndex]? = some ticket.player

def timeUp (room : Room) (player : PlayerId) : Play :=
  let room := room.loseLife player
  (Play.begin room).announce
    (.turnEnded room.id player .timeout (room.livesOf player) room.round (room.pointsOf player))

/-- The time of a turn is up. A ticket of any other turn changes nothing. -/
def expire (rules : Rules) (supply : Supply) (room : Room) (ticket : Ticket) : Play :=
  if room.isRunning ticket then (room.timeUp ticket.player).advance rules supply
  else Play.begin room

def accepts (rules : Rules) (room : Room) (word : String) : Bool :=
  !word.isEmpty && rules.dictionary.containsFragment word room.fragment &&
    rules.dictionary.isWord word

def reward (supply : Supply) (room : Room) (player : PlayerId) (word : String) : Play :=
  let play := (Play.begin (room.score player)).drawFragment supply
  let room := play.room
  let points := room.pointsOf player
  let lives := room.livesOf player
  let play := play.announce (.answer room.id player true word (some room.fragment) points lives)
  play.announce (.turnEnded room.id player .correctAnswer lives room.round points)

def penalty (room : Room) (player : PlayerId) (word : String) : Play :=
  let room := room.loseLife player
  let points := room.pointsOf player
  let lives := room.livesOf player
  let play := (Play.begin room).announce (.answer room.id player false word none points lives)
  play.announce (.turnEnded room.id player .wrongAnswer lives room.round points)

def answerRight (rules : Rules) (supply : Supply) (room : Room) (player : PlayerId)
    (word : String) : Play :=
  (room.reward supply player word).advance rules supply

/-- A refused answer of the player whose turn it is. The turn goes on, unless the player is out or
the game is over. -/
def answerWrong (rules : Rules) (supply : Supply) (room : Room) (player : PlayerId)
    (word : String) : Play :=
  let play := (room.penalty player word).conclude
  if play.room.phase = .finished then play
  else if play.room.livesOf player = 0 ∧ play.room.current? = some player then
    play.advance rules supply
  else play

/-- Judges an answer. Only the player whose turn it is may answer. -/
def answer (rules : Rules) (supply : Supply) (room : Room) (player : PlayerId)
    (text : String) : Play :=
  if room.current? = some player then
    let word := Text.trim text
    if room.accepts rules word then room.answerRight rules supply player word
    else room.answerWrong rules supply player word
  else Play.begin room

def remove (rules : Rules) (supply : Supply) (room : Room) (player : PlayerId) : Play :=
  if room.hasPlayer player then
    match room.phase with
    | .waiting => Play.begin (room.eliminate player)
    | .inProgress =>
      let play := Play.begin (room.eliminate player)
      if room.current? = some player then play.advance rules supply else play.conclude
    | .finished => Play.begin room
  else Play.begin room

def check (room : Room) : Play := (Play.begin room).conclude

end Room

end WordGame
