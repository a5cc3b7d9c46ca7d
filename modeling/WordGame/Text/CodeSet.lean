/-!
Sets of code points, given by the points where membership changes.

The tables of character properties are written this way: the first number is the first member, the
second the first non-member after it, and so on in ascending order.
-/

namespace WordGame.Text

/-- A set of code points as the ascending list of the points where membership changes. -/
structure CodeSet where
  changes : List Nat

/-- Whether the point lies on the inside after the changes up to it, starting from `inside`. -/
def CodeSet.walk (point : Nat) (inside : Bool) : List Nat → Bool
  | [] => inside
  | change :: rest => if point < change then inside else walk point (!inside) rest

def CodeSet.contains (set : CodeSet) (c : Char) : Bool := walk c.toNat false set.changes

end WordGame.Text
