import WordGame.Game.Config
import WordGame.Number.Unsigned
import WordGame.Number.Word
import WordGame.Settings.Address
import WordGame.Text.Blank
import WordGame.Text.Utf8

/-!
The settings of a server, taken from the environment. A variable that is unset, is no text, or does
not hold what it should leaves the default in place.
-/

namespace WordGame

structure ServerSettings where
  address : SocketAddress := .v4 [0, 0, 0, 0] 8000
  wordListPath : String := "wordlist.txt"
  game : GameConfig := {}
  pingIntervalSecs : UInt64 := 30
  pongTimeoutSecs : UInt64 := 10
  deriving DecidableEq, Repr

abbrev Environment := String → Option (List UInt8)

namespace Environment

def text? (environment : Environment) (name : String) : Option String :=
  environment name >>= Text.Utf8.decode?

/-- The value of a variable, read after trimming, or the default. -/
def get {α : Type} (environment : Environment) (name : String) (read : List Char → Option α)
    (fallback : α) : α :=
  (environment.text? name >>= fun text => read (Text.trimChars text.toList)).getD fallback

def natural (bound : Nat) (cs : List Char) : Option Nat := (Unsigned.read bound cs).toOption

def word32 (cs : List Char) : Option UInt32 := (natural Word.size32 cs).map UInt32.ofNat

def word64 (cs : List Char) : Option UInt64 := (natural Word.size64 cs).map UInt64.ofNat

end Environment

/-- The settings of a server whose variable for the address begins with the given name. Pings are at
least a second apart. -/
def ServerSettings.ofEnvironment (name : String) (environment : Environment) : ServerSettings :=
  let defaults : ServerSettings := {}
  let game := defaults.game
  { address := environment.get (name ++ "_ADDR") SocketAddress.read? defaults.address
    wordListPath := (environment.text? "WORDLIST_PATH").getD defaults.wordListPath
    game :=
      { countdownSecs := environment.get "COUNTDOWN_SECS" Environment.word64 game.countdownSecs
        turnTimeCeiling :=
          environment.get "TURN_TIME_CEILING" Environment.word32 game.turnTimeCeiling
        turnTimeFloor := environment.get "TURN_TIME_FLOOR" Environment.word32 game.turnTimeFloor
        initialLives := environment.get "INITIAL_LIVES" Environment.word32 game.initialLives
        maxRoomCapacity :=
          environment.get "MAX_ROOM_CAPACITY" (Environment.natural Word.size64)
            game.maxRoomCapacity }
    pingIntervalSecs :=
      max (environment.get "PING_INTERVAL_SECS" Environment.word64 defaults.pingIntervalSecs) 1
    pongTimeoutSecs :=
      environment.get "PONG_TIMEOUT_SECS" Environment.word64 defaults.pongTimeoutSecs }

end WordGame
