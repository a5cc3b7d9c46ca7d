import WordGame.Number.Decimal

/-!
Whole numbers as settings and requests write them: decimal digits after at most one plus sign,
below a bound that the setting gives.
-/

namespace WordGame

inductive NumberFlaw where
  | empty
  | badDigit
  | tooLarge
  deriving DecidableEq, Repr

def NumberFlaw.message : NumberFlaw → String
  | .empty => "cannot parse integer from empty string"
  | .badDigit => "invalid digit found in string"
  | .tooLarge => "number too large to fit in target type"

namespace Unsigned

/-- Reads on after the digits whose value is `soFar`; the first character at fault decides. -/
def readFrom (bound soFar : Nat) : List Char → Except NumberFlaw Nat
  | [] => .ok soFar
  | c :: rest =>
    match Decimal.digit? c with
    | none => .error .badDigit
    | some d =>
      if bound ≤ 10 * soFar + d then .error .tooLarge else readFrom bound (10 * soFar + d) rest

def read (bound : Nat) : List Char → Except NumberFlaw Nat
  | [] => .error .empty
  | ['+'] => .error .badDigit
  | '+' :: rest => readFrom bound 0 rest
  | cs => readFrom bound 0 cs

end Unsigned

end WordGame
