import WordGame.Json.Token
import WordGame.Number.Binary64
import WordGame.Number.Word

/-!
JSON values, and the values that numerals and quoted pieces stand for.

A numeral without fraction and exponent that fits in sixty-four bits, with or without a sign, is a
whole number; `-0` and everything else is a floating-point number. For those only the leading
digits count, as many as fit in sixty-four bits, and they are scaled by the power of ten in
floating-point steps. A numeral past the largest finite number stands for nothing.
-/

namespace WordGame.Json

inductive Number where
  /-- A whole number from `-2 ^ 63` to `2 ^ 64 - 1`. -/
  | integer (value : Int)
  | real (negative : Bool) (magnitude : Binary64)
  deriving DecidableEq, Repr

inductive Value where
  | null
  | bool (value : Bool)
  | number (value : Number)
  | text (value : String)
  | array (items : List Value)
  /-- The fields as they are written, repeated ones included. -/
  | object (fields : List (String × Value))
  deriving Repr, Inhabited

/-- Appends digits to a number as long as it fits in sixty-four bits, and leaves the others. -/
def gather (soFar : Nat) : List Nat → Nat × List Nat
  | [] => (soFar, [])
  | d :: rest => if 10 * soFar + d < Word.size64 then gather (10 * soFar + d) rest
    else (soFar, d :: rest)

def powerOfTen (power : Nat) : Binary64 := (Binary64.ofNat (Nat.pow 10 power)).getD Binary64.zero

def shrink (x : Binary64) (power : Nat) : Binary64 :=
  if power ≤ 308 then (x.div (powerOfTen power)).getD Binary64.zero
  else if x.significand = 0 then x
  else shrink ((x.div (powerOfTen 308)).getD Binary64.zero) (power - 308)
termination_by power
decreasing_by omega

def grow? (x : Binary64) (power : Nat) : Option Binary64 :=
  if power ≤ 308 then x.mul (powerOfTen power)
  else if x.significand = 0 then some x
  else none

def scale? (significand : Nat) (power : Int) : Option Binary64 :=
  let x := (Binary64.ofNat significand).getD Binary64.zero
  if 0 ≤ power then grow? x power.toNat else some (shrink x power.natAbs)

def Exponent.value (exponent : Exponent) : Int :=
  let magnitude : Int := Decimal.value exponent.digits
  if exponent.negative then -magnitude else magnitude

def Numeral.number? (numeral : Numeral) : Option Number :=
  let (whole, left) := gather 0 numeral.whole
  let real (significand : Nat) (power : Int) : Option Number :=
    (scale? significand power).map (Number.real numeral.negative)
  match numeral.fraction, numeral.exponent, left with
  | [], none, [] =>
    if !numeral.negative then some (.integer whole)
    else if 0 < whole ∧ whole ≤ Word.half64 then some (.integer (-whole))
    else real whole 0
  | fraction, exponent, left =>
    let (significand, unused) := gather whole fraction
    let places : Int := fraction.length - unused.length
    let power := (exponent.map Exponent.value).getD 0
    real significand (left.length - places + power)

def isHighSurrogate (unit : Nat) : Bool := 0xD800 ≤ unit && unit < 0xDC00

def isLowSurrogate (unit : Nat) : Bool := 0xDC00 ≤ unit && unit < 0xE000

/-- The characters of a quoted text whose last piece is followed by `flaw`: surrogates have to come
in pairs. -/
def readPieces (flaw : Option Flaw) : List Piece → Except Flaw (List Char)
  | [] =>
    match flaw with
    | some found => .error found
    | none => .ok []
  | .char c :: rest => (readPieces flaw rest).map (c :: ·)
  | [.unit value] =>
    if isHighSurrogate value then .error (flaw.getD .illFormed)
    else if isLowSurrogate value then .error .illFormed
    else (readPieces flaw []).map (Char.ofNat value :: ·)
  | .unit value :: .unit next :: rest =>
    if isHighSurrogate value then
      if isLowSurrogate next then
        (readPieces flaw rest).map
          (Char.ofNat (0x10000 + (value - 0xD800) * 0x400 + (next - 0xDC00)) :: ·)
      else .error .illFormed
    else if isLowSurrogate value then .error .illFormed
    else (readPieces flaw (.unit next :: rest)).map (Char.ofNat value :: ·)
  | .unit value :: .char c :: rest =>
    if isHighSurrogate value || isLowSurrogate value then .error .illFormed
    else (readPieces flaw (.char c :: rest)).map (Char.ofNat value :: ·)

end WordGame.Json
