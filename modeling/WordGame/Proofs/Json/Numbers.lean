import WordGame.Proofs.Json.Grammar

/-!
Which numerals are whole numbers: those without fraction and exponent that are not `-0`, as far as
they fit in sixty-four bits (`number?_eq_integer_iff`).
-/

namespace WordGame.Json

def valueFrom (soFar : Nat) (ds : List Nat) : Nat := ds.foldl (fun n d => 10 * n + d) soFar

theorem le_valueFrom (soFar : Nat) (ds : List Nat) : soFar ≤ valueFrom soFar ds := by
  induction ds generalizing soFar with
  | nil => exact Nat.le_refl _
  | cons d rest ih =>
    have later : 10 * soFar + d ≤ valueFrom soFar (d :: rest) := ih (10 * soFar + d)
    omega

theorem gather_eq_of_lt {soFar : Nat} {ds : List Nat} (fits : valueFrom soFar ds < Word.size64) :
    gather soFar ds = (valueFrom soFar ds, []) := by
  induction ds generalizing soFar with
  | nil => rfl
  | cons d rest ih =>
    have later : 10 * soFar + d ≤ valueFrom (10 * soFar + d) rest := le_valueFrom _ rest
    have here : 10 * soFar + d < Word.size64 := Nat.lt_of_le_of_lt later fits
    rw [gather, if_pos here]
    exact ih fits

theorem gather_lt {soFar : Nat} {ds : List Nat} (small : soFar < Word.size64)
    (all : (gather soFar ds).2 = []) : valueFrom soFar ds < Word.size64 := by
  induction ds generalizing soFar with
  | nil => exact small
  | cons d rest ih =>
    rw [gather] at all
    split at all
    · rename_i here
      exact ih here all
    · cases all

/-- A numeral is taken as a whole number only if nothing of it is left over. -/
theorem number?_plain {numeral : Numeral} {n : Int} (read : numeral.number? = some (.integer n)) :
    numeral.fraction = [] ∧ numeral.exponent = none ∧
      Decimal.value numeral.whole < Word.size64 := by
  unfold Numeral.number? at read
  dsimp only at read
  split at read
  · rename_i noFraction noExponent nothingLeft
    exact ⟨noFraction, noExponent, gather_lt (by decide) nothingLeft⟩
  · obtain ⟨magnitude, _, impossible⟩ := Option.map_eq_some_iff.mp read
    cases impossible

theorem number?_whole {numeral : Numeral} (noFraction : numeral.fraction = [])
    (noExponent : numeral.exponent = none) (fits : Decimal.value numeral.whole < Word.size64) :
    numeral.number? =
      if !numeral.negative then some (.integer (Decimal.value numeral.whole))
      else if 0 < Decimal.value numeral.whole ∧ Decimal.value numeral.whole ≤ Word.half64 then
        some (.integer (-(Decimal.value numeral.whole : Int)))
      else (scale? (Decimal.value numeral.whole) 0).map (Number.real numeral.negative) := by
  have gathered : gather 0 numeral.whole = (Decimal.value numeral.whole, []) := gather_eq_of_lt fits
  unfold Numeral.number?
  rw [gathered, noFraction, noExponent]

theorem number?_eq_integer_iff {numeral : Numeral} {n : Int} :
    numeral.number? = some (.integer n) ↔
      numeral.IsInteger n ∧ -(Word.half64 : Int) ≤ n ∧ n < Word.size64 := by
  unfold Numeral.IsInteger
  constructor
  · intro read
    obtain ⟨noFraction, noExponent, fits⟩ := number?_plain read
    rw [number?_whole noFraction noExponent fits] at read
    cases negative : numeral.negative with
    | false =>
      rw [negative] at read
      cases read
      refine ⟨⟨noFraction, noExponent, rfl⟩, ?_⟩
      omega
    | true =>
      rw [negative] at read
      simp only [Bool.not_true, Bool.false_eq_true, if_false] at read
      split at read
      · rename_i small
        cases read
        have whole : -(Decimal.value numeral.whole : Int) ≠ 0 := by omega
        refine ⟨⟨noFraction, noExponent, rfl, whole⟩, ?_⟩
        omega
      · obtain ⟨magnitude, _, impossible⟩ := Option.map_eq_some_iff.mp read
        cases impossible
  · rintro ⟨⟨noFraction, noExponent, same⟩, least, most⟩
    cases negative : numeral.negative with
    | false =>
      rw [negative] at same
      simp only [Bool.false_eq_true, if_false] at same
      have fits : Decimal.value numeral.whole < Word.size64 := by omega
      rw [number?_whole noFraction noExponent fits, negative, same]
      rfl
    | true =>
      rw [negative] at same
      simp only [if_true] at same
      have small : 0 < Decimal.value numeral.whole ∧ Decimal.value numeral.whole ≤ Word.half64 := by
        omega
      have fits : Decimal.value numeral.whole < Word.size64 :=
        Nat.lt_of_le_of_lt small.2 (by decide)
      rw [number?_whole noFraction noExponent fits, negative, same.1]
      simp [small]

end WordGame.Json
