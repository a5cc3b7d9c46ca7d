import WordGame.Number.Binary64
import WordGame.Number.Decimal

/-!
The shortest decimal text of a floating-point number.

Among the decimals that round to the number, those with the fewest digits are taken, and of those
the nearest. They are found on the decimal grids of one digit, two digits, and so on: if a point of
a grid rounds to the number, then so does one of the two neighbours of the number on that grid.
-/

namespace WordGame.Shortest

/-- A decimal number `digits * 10 ^ exponent`. -/
structure Digits where
  digits : Nat
  exponent : Int
  deriving DecidableEq, Repr

def Digits.ratio (d : Digits) : Nat × Nat :=
  if 0 ≤ d.exponent then (d.digits * Nat.pow 10 d.exponent.toNat, 1)
  else (d.digits, Nat.pow 10 (-d.exponent).toNat)

/-- The distance between two quotients, over the product of their denominators. -/
def distance (left right : Nat × Nat) : Nat :=
  let a := left.1 * right.2
  let b := right.1 * left.2
  (a - b) + (b - a)

def reads (x : Binary64) (d : Digits) : Bool :=
  Binary64.ofRatio d.ratio.1 d.ratio.2 = some x

/-- The power of ten that begins the decade of the quotient: the greatest `e` with
`10 ^ e * den ≤ num`, searched for downwards from `start`. -/
def decade (num den : Nat) (start : Int) : Nat → Int
  | 0 => start
  | fuel + 1 =>
    let (top, bottom) := (Digits.mk 1 start).ratio
    if top * den ≤ num * bottom then start else decade num den (start - 1) fuel

/-- The nearer of the two neighbours on the grid of `10 ^ exponent` that rounds to the number. -/
def onGrid (x : Binary64) (exponent : Int) : Option Digits :=
  let (num, den) := x.ratio
  let (top, bottom) := (Digits.mk 1 exponent).ratio
  let floor := (num * bottom) / (den * top)
  let below : Digits := ⟨floor, exponent⟩
  let above : Digits := ⟨floor + 1, exponent⟩
  match reads x below, reads x above with
  | false, false => none
  | true, false => some below
  | false, true => some above
  | true, true =>
    let left := distance below.ratio (num, den) * above.ratio.2
    let right := distance above.ratio (num, den) * below.ratio.2
    if left < right then some below
    else if right < left then some above
    else if floor % 2 = 0 then some below else some above

def search (x : Binary64) (exponent : Int) : Nat → Digits
  | 0 => ⟨0, 0⟩
  | fuel + 1 =>
    match onGrid x exponent with
    | some found => found
    | none => search x (exponent - 1) fuel

def stripZeros (d : Digits) : Nat → Digits
  | 0 => d
  | fuel + 1 =>
    if d.digits ≠ 0 ∧ d.digits % 10 = 0 then stripZeros ⟨d.digits / 10, d.exponent + 1⟩ fuel else d

/-- The shortest decimal that rounds to a positive number; seventeen digits always do. -/
def digitsOf (x : Binary64) : Digits :=
  let (num, den) := x.ratio
  let first := decade num den 308 640
  stripZeros (search x first 18) 20

structure Layout where
  /-- The least power of ten that is still written without an exponent. -/
  least : Int
  greatest : Int
  positiveMark : String
  negativeMark : String

/-- Writes the point after the first `count` digits, with zeros where digits are missing. -/
def placePoint (ds : List Char) (count : Int) : List Char :=
  if count ≤ 0 then ['0', '.'] ++ List.replicate (-count).toNat '0' ++ ds
  else
    let places := count.toNat
    if ds.length ≤ places then ds ++ List.replicate (places - ds.length) '0' ++ ['.', '0']
    else ds.take places ++ '.' :: ds.drop places

def Layout.write (layout : Layout) (d : Digits) : List Char :=
  let ds := Decimal.text d.digits
  let power := d.exponent + ds.length - 1
  if layout.least ≤ power ∧ power ≤ layout.greatest then placePoint ds (power + 1)
  else
    let lead := match ds with
      | first :: second :: rest => first :: '.' :: second :: rest
      | short => short
    let mark := if 0 ≤ power then layout.positiveMark else layout.negativeMark
    lead ++ mark.toList ++ Decimal.text power.natAbs

/-- Numbers are written without an exponent from a hundred-thousandth up to sixteen digits. -/
def plain : Layout := ⟨-5, 15, "e+", "e-"⟩

def text (x : Binary64) : List Char :=
  if x.significand = 0 then ['0', '.', '0'] else plain.write (digitsOf x)

end WordGame.Shortest
