/-!
Floating-point numbers with a significand of 53 bits and an exponent of eleven (binary64), in exact
arithmetic.

Only magnitudes are treated, the sign being a matter of those who write them. `ofRatio` rounds a
quotient to the nearest representable number, a tie to the even significand, and refuses what would
round past the largest; products and quotients are the exact ones, rounded.
-/

namespace WordGame

/-- The number `significand * 2 ^ exponent`: a normal number has a significand of 53 bits, one with
fewer has the least exponent. -/
structure Binary64 where
  significand : Nat
  exponent : Int
  deriving DecidableEq, Repr

namespace Binary64

def limit : Nat := 9007199254740992

def minExponent : Int := -1074

def maxExponent : Int := 971

def zero : Binary64 := ⟨0, minExponent⟩

/-- The quotient `num / den` divided by `2 ^ exponent`, as a quotient of natural numbers. -/
def scaled (num den : Nat) (exponent : Int) : Nat × Nat :=
  if 0 ≤ exponent then (num, den * Nat.pow 2 exponent.toNat)
  else (num * Nat.pow 2 (-exponent).toNat, den)

def roundHalfEven (num den : Nat) : Nat :=
  let floor := num / den
  let rest := num % den
  if 2 * rest < den then floor
  else if den < 2 * rest then floor + 1
  else if floor % 2 = 0 then floor else floor + 1

/-- The exponent at which the quotient has a significand of 53 bits, or the least one. -/
def exponentOf (num den : Nat) : Int :=
  let estimate := max ((num.log2 : Int) - den.log2 - 53) minExponent
  let (top, bottom) := scaled num den estimate
  if top / bottom < limit then estimate else estimate + 1

/-- The representable number nearest to `num / den`, if there is one. -/
def ofRatio (num den : Nat) : Option Binary64 :=
  if num = 0 then some zero
  else
    let exponent := exponentOf num den
    let (top, bottom) := scaled num den exponent
    let significand := roundHalfEven top bottom
    let (significand, exponent) :=
      if significand = limit then (limit / 2, exponent + 1) else (significand, exponent)
    if maxExponent < exponent then none else some ⟨significand, exponent⟩

def ratio (x : Binary64) : Nat × Nat :=
  if 0 ≤ x.exponent then (x.significand * Nat.pow 2 x.exponent.toNat, 1)
  else (x.significand, Nat.pow 2 (-x.exponent).toNat)

def ofNat (n : Nat) : Option Binary64 := ofRatio n 1

def mul (x y : Binary64) : Option Binary64 :=
  ofRatio (x.ratio.1 * y.ratio.1) (x.ratio.2 * y.ratio.2)

def div (x y : Binary64) : Option Binary64 :=
  ofRatio (x.ratio.1 * y.ratio.2) (x.ratio.2 * y.ratio.1)

end Binary64

end WordGame
