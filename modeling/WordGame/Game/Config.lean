import WordGame.Basic

/-!
The settings of a game, and the time that a turn may take: it shrinks by a second each round, down
to a floor.
-/

namespace WordGame

structure GameConfig where
  /-- The seconds between the founding of a room and the start of its game. -/
  countdownSecs : UInt64 := 120
  turnTimeCeiling : UInt32 := 20
  turnTimeFloor : UInt32 := 5
  initialLives : UInt32 := 3
  maxRoomCapacity : Nat := 10
  deriving DecidableEq, Repr

def GameConfig.countdown (config : GameConfig) : Millis := config.countdownSecs.toNat * 1000

def truncatedSub (a b : UInt32) : UInt32 := if b ≤ a then a - b else 0

def GameConfig.timeLimit (config : GameConfig) (round : UInt32) : UInt32 :=
  max (truncatedSub config.turnTimeCeiling round) config.turnTimeFloor

theorem truncatedSub_toNat (a b : UInt32) : (truncatedSub a b).toNat = a.toNat - b.toNat := by
  unfold truncatedSub
  split
  · rename_i le
    exact UInt32.toNat_sub_of_le _ _ le
  · rename_i notLe
    have less : a.toNat < b.toNat := UInt32.lt_iff_toNat_lt.mp (UInt32.not_le.mp notLe)
    have zero : (0 : UInt32).toNat = 0 := rfl
    omega

end WordGame
