import WordGame.Connection.Heartbeat
import WordGame.Game.Engine
import WordGame.Membership
import WordGame.Settings.Server

/-!
What a service is set up with.
-/

namespace WordGame

structure Setup where
  rules : Rules
  /-- The records of members as they are at first. -/
  membership : Membership
  fragments : Nat → String
  pingInterval : Millis := 30000
  pongTimeout : Millis := 10000
  /-- What the clock on the wall shows, in milliseconds. -/
  wallClock : Millis → Int64 := fun _ => 0

namespace Setup

def ofSettings (settings : ServerSettings) (dictionary : Dictionary) (membership : Membership)
    (fragments : Nat → String) : Setup where
  rules := ⟨settings.game, dictionary⟩
  membership := membership
  fragments := fragments
  pingInterval := settings.pingIntervalSecs.toNat * 1000
  pongTimeout := settings.pongTimeoutSecs.toNat * 1000

def heartbeat (setup : Setup) (now : Millis) : Heartbeat :=
  .start now setup.pingInterval setup.pongTimeout

end Setup

end WordGame
