import WordGame.Identity

/-!
Who may join a room. The records of members are kept elsewhere; the server asks them before each
join and tells them of each leave.
-/

namespace WordGame

inductive Refusal where
  | notAllowed (room : RoomId) (player : String)
  | unavailable (reason : String)
  deriving DecidableEq, Repr

def Refusal.message : Refusal → String
  | notAllowed room player =>
    "player " ++ player ++ " is not allowed in room " ++ Decimal.write room.toNat
  | unavailable reason => "membership lookup failed: " ++ reason

/-- The answer to a request to join: nothing, or why not. -/
abbrev Membership := RoomId → Identity → Option Refusal

namespace Membership

def everybody : Membership := fun _ _ => none

/-- Keeps everybody out of the denied rooms, and has no records of the unavailable ones. -/
def except (denied unavailable : List RoomId) : Membership := fun room identity =>
  if denied.contains room then some (.notAllowed room identity.name)
  else if unavailable.contains room then
    some (.unavailable ("room " ++ Decimal.write room.toNat))
  else none

end Membership

end WordGame
