import WordGame.Proofs.Json.Grammar

/-!
The words of a text: what the scanner makes of a number or of a quoted text is what the grammar says
of it. A number is read up to where it can go on no further, so what follows it must not go on.
-/

namespace WordGame

namespace Decimal

theorem digit?_eq_some {c : Char} {d : Nat} (isDigit : digit? c = some d) :
    d < 10 ∧ c = digitChar d := by
  unfold digit? at isDigit
  split at isDigit
  · rename_i range
    have least : 48 ≤ c.toNat := range.1
    have greatest : c.toNat ≤ 57 := range.2
    cases isDigit
    constructor
    · omega
    · have restored : 48 + (c.toNat - 48) = c.toNat := by omega
      rw [digitChar, restored, Char.ofNat_toNat]
  · cases isDigit

theorem eq_of_takeDigits {cs rest : List Char} {ds : List Nat}
    (taken : takeDigits cs = (ds, rest)) :
    (∀ d ∈ ds, d < 10) ∧ cs = ds.map digitChar ++ rest := by
  induction cs generalizing ds with
  | nil =>
    cases taken
    simp
  | cons c cs ih =>
    rw [takeDigits] at taken
    cases isDigit : digit? c with
    | none =>
      rw [isDigit] at taken
      cases taken
      simp
    | some d =>
      rw [isDigit] at taken
      obtain ⟨small, same⟩ := digit?_eq_some isDigit
      cases later : takeDigits cs with
      | mk tail after =>
        simp only [later] at taken
        cases taken
        obtain ⟨smallTail, sameTail⟩ := ih later
        constructor
        · simpa [small] using smallTail
        · rw [sameTail, same]
          rfl

theorem digitChar_unmarked {d : Nat} (small : d < 10) :
    digitChar d ≠ '+' ∧ digitChar d ≠ '-' ∧ digitChar d ≠ '.' := by
  have all : ∀ d < 10, digitChar d ≠ '+' ∧ digitChar d ≠ '-' ∧ digitChar d ≠ '.' := by decide
  exact all d small

end Decimal

namespace Json

open Decimal

/-! ### Numbers -/

/-- Nothing follows with which a number could go on. -/
def Ends (rest : List Char) : Prop :=
  ∀ c, rest.head? = some c → digit? c = none ∧ c ≠ '.' ∧ c ≠ 'e' ∧ c ≠ 'E'

theorem Ends.noDigit {rest : List Char} (ends : Ends rest) :
    ∀ c, rest.head? = some c → digit? c = none :=
  fun c first => (ends c first).1

theorem scanDigits_spelled {ds : List Nat} {rest : List Char} (digits : IsDigits ds)
    (stops : ∀ c, rest.head? = some c → digit? c = none) :
    scanDigits (ds.map digitChar ++ rest) = .ok (ds, rest) := by
  unfold scanDigits
  rw [takeDigits_map digits.2 stops]
  cases ds with
  | nil => exact absurd rfl digits.1
  | cons d tail => rfl

theorem spelled_of_scanDigits {cs rest : List Char} {ds : List Nat}
    (scanned : scanDigits cs = .ok (ds, rest)) :
    IsDigits ds ∧ cs = ds.map digitChar ++ rest := by
  unfold scanDigits at scanned
  split at scanned
  · cases scanned
  · rename_i found after notEmpty taken
    cases scanned
    obtain ⟨small, same⟩ := eq_of_takeDigits taken
    exact ⟨⟨notEmpty, small⟩, same⟩

theorem scanWhole_spelled {ds : List Nat} {rest : List Char} (digits : IsDigits ds)
    (noLeadingZero : ds.head? = some 0 → ds = [0])
    (stops : ∀ c, rest.head? = some c → digit? c = none) :
    scanWhole (ds.map digitChar ++ rest) = .ok (ds, rest) := by
  unfold scanWhole
  rw [takeDigits_map digits.2 stops]
  split
  · rename_i taken
    cases taken
    exact absurd rfl digits.1
  · rename_i taken
    cases taken
    cases noLeadingZero rfl
  · rename_i taken
    cases taken
    rfl

theorem spelled_of_scanWhole {cs rest : List Char} {ds : List Nat}
    (scanned : scanWhole cs = .ok (ds, rest)) :
    IsDigits ds ∧ (ds.head? = some 0 → ds = [0]) ∧ cs = ds.map digitChar ++ rest := by
  unfold scanWhole at scanned
  split at scanned
  · cases scanned
  · cases scanned
  · rename_i found after notEmpty notZero taken
    cases scanned
    obtain ⟨small, same⟩ := eq_of_takeDigits taken
    refine ⟨⟨notEmpty, small⟩, ?_, same⟩
    intro zero
    cases ds with
    | nil => cases zero
    | cons d tail =>
      cases zero
      cases tail with
      | nil => rfl
      | cons e others => exact absurd rfl (notZero e others)

theorem scanFraction_spelled {ds : List Nat} {word rest : List Char}
    (spelled : FractionSpelled ds word) (noDigit : ∀ c, rest.head? = some c → digit? c = none)
    (noPoint : ∀ c, rest.head? = some c → c ≠ '.') :
    scanFraction (word ++ rest) = .ok (ds, rest) := by
  cases spelled with
  | absent =>
    unfold scanFraction
    split
    · rename_i after same
      have first : rest.head? = some '.' := by
        rw [List.nil_append] at same
        rw [same]
        rfl
      exact absurd rfl (noPoint '.' first)
    · rfl
  | present digits => exact scanDigits_spelled digits noDigit

theorem spelled_of_scanFraction {cs rest : List Char} {ds : List Nat}
    (scanned : scanFraction cs = .ok (ds, rest)) :
    ∃ word, cs = word ++ rest ∧ FractionSpelled ds word := by
  unfold scanFraction at scanned
  split at scanned
  · rename_i after
    obtain ⟨digits, same⟩ := spelled_of_scanDigits scanned
    exact ⟨'.' :: ds.map digitChar, by rw [same, List.cons_append], .present digits⟩
  · cases scanned
    exact ⟨[], rfl, .absent⟩

theorem scanPower_spelled {negative : Bool} {ds : List Nat} {sign rest : List Char}
    (signed : SignSpelled negative sign) (digits : IsDigits ds)
    (stops : ∀ c, rest.head? = some c → digit? c = none) :
    scanPower (sign ++ ds.map digitChar ++ rest) = .ok (⟨negative, ds⟩, rest) := by
  have scanned := scanDigits_spelled digits stops
  cases signed with
  | absent =>
    cases ds with
    | nil => exact absurd rfl digits.1
    | cons d tail =>
      obtain ⟨noPlus, noMinus, _⟩ := digitChar_unmarked (digits.2 d List.mem_cons_self)
      rw [List.map_cons, List.cons_append] at scanned
      simp [scanPower, noPlus, noMinus, scanned, Except.map]
  | plus => simp [scanPower, scanned, Except.map]
  | minus => simp [scanPower, scanned, Except.map]

theorem spelled_of_scanPower {cs rest : List Char} {power : Exponent}
    (scanned : scanPower cs = .ok (power, rest)) :
    ∃ sign, SignSpelled power.negative sign ∧ IsDigits power.digits ∧
      cs = sign ++ power.digits.map digitChar ++ rest := by
  -- The three forms of the sign differ in what is scanned and in the flag that is set.
  have digits {negative : Bool} {after : List Char}
      (here : (scanDigits after).map (fun found => (Exponent.mk negative found.1, found.2)) =
        .ok (power, rest)) :
      power.negative = negative ∧ IsDigits power.digits ∧
        after = power.digits.map digitChar ++ rest := by
    cases found : scanDigits after with
    | error flaw =>
      rw [found] at here
      cases here
    | ok pair =>
      rw [found] at here
      cases here
      exact ⟨rfl, spelled_of_scanDigits found⟩
  unfold scanPower at scanned
  split at scanned
  · obtain ⟨sign, isDigits, same⟩ := digits scanned
    exact ⟨['+'], sign ▸ .plus, isDigits, by simp [same]⟩
  · obtain ⟨sign, isDigits, same⟩ := digits scanned
    exact ⟨['-'], sign ▸ .minus, isDigits, by simp [same]⟩
  · obtain ⟨sign, isDigits, same⟩ := digits scanned
    exact ⟨[], sign ▸ .absent, isDigits, by simp [same]⟩

theorem scanExponent_spelled {exponent : Option Exponent} {word rest : List Char}
    (spelled : ExponentSpelled exponent word) (ends : Ends rest) :
    scanExponent (word ++ rest) = .ok (exponent, rest) := by
  cases spelled with
  | absent =>
    cases rest with
    | nil => rfl
    | cons c after =>
      obtain ⟨_, _, lower, upper⟩ := ends c rfl
      simp [scanExponent, lower, upper]
  | present marked signed digits =>
    have scanned := scanPower_spelled signed digits ends.noDigit
    rw [List.append_assoc] at scanned
    simp [scanExponent, marked, scanned, Except.map]

theorem spelled_of_scanExponent {cs rest : List Char} {exponent : Option Exponent}
    (scanned : scanExponent cs = .ok (exponent, rest)) :
    ∃ word, cs = word ++ rest ∧ ExponentSpelled exponent word := by
  unfold scanExponent at scanned
  split at scanned
  · rename_i c after
    split at scanned
    · rename_i marked
      cases found : scanPower after with
      | error flaw =>
        rw [found] at scanned
        cases scanned
      | ok pair =>
        rw [found] at scanned
        cases scanned
        obtain ⟨sign, signed, digits, same⟩ := spelled_of_scanPower found
        exact ⟨_, by simp [same], .present marked signed digits⟩
    · cases scanned
      exact ⟨[], rfl, .absent⟩
  · cases scanned
    exact ⟨[], rfl, .absent⟩

/-- A fraction or an exponent begins with a mark of its own. -/
theorem ExponentSpelled.begins {exponent : Option Exponent} {word rest : List Char}
    (spelled : ExponentSpelled exponent word) (ends : Ends rest) :
    ∀ c, (word ++ rest).head? = some c → digit? c = none ∧ c ≠ '.' := by
  intro c first
  cases spelled with
  | absent => exact ⟨(ends c first).1, (ends c first).2.1⟩
  | present marked signed digits =>
    cases first
    rcases marked with rfl | rfl
    · decide
    · decide

theorem FractionSpelled.begins {ds : List Nat} {word rest : List Char}
    (spelled : FractionSpelled ds word)
    (follows : ∀ c, rest.head? = some c → digit? c = none) :
    ∀ c, (word ++ rest).head? = some c → digit? c = none := by
  intro c first
  cases spelled with
  | absent => exact follows c first
  | present digits =>
    cases first
    decide

theorem scanMagnitude_spelled {numeral : Numeral} {word rest : List Char}
    (spelled : MagnitudeSpelled numeral word) (ends : Ends rest) :
    scanMagnitude numeral.negative (word ++ rest) = .ok (numeral, rest) := by
  obtain ⟨digits, noLeadingZero, fraction, exponent, fractionSpelled, exponentSpelled, rfl⟩ :=
    spelled
  have begins := exponentSpelled.begins ends
  have noDigit := fractionSpelled.begins (fun c first => (begins c first).1)
  have whole := scanWhole_spelled digits noLeadingZero noDigit
  have point := scanFraction_spelled fractionSpelled (fun c first => (begins c first).1)
    (fun c first => (begins c first).2)
  have power := scanExponent_spelled exponentSpelled ends
  unfold scanMagnitude
  rw [List.append_assoc, List.append_assoc, whole]
  dsimp only
  rw [point]
  dsimp only
  rw [power]

theorem spelled_of_scanMagnitude {negative : Bool} {cs rest : List Char} {numeral : Numeral}
    (scanned : scanMagnitude negative cs = .ok (numeral, rest)) :
    numeral.negative = negative ∧ ∃ word, cs = word ++ rest ∧ MagnitudeSpelled numeral word := by
  unfold scanMagnitude at scanned
  split at scanned
  · cases scanned
  · rename_i whole afterWhole wholeScanned
    split at scanned
    · cases scanned
    · rename_i fraction afterFraction fractionScanned
      split at scanned
      · cases scanned
      · rename_i exponent left exponentScanned
        cases scanned
        obtain ⟨digits, noLeadingZero, sameWhole⟩ := spelled_of_scanWhole wholeScanned
        obtain ⟨point, samePoint, fractionSpelled⟩ := spelled_of_scanFraction fractionScanned
        obtain ⟨power, samePower, exponentSpelled⟩ := spelled_of_scanExponent exponentScanned
        refine ⟨rfl, whole.map digitChar ++ (point ++ power), ?_, digits, noLeadingZero,
          point, power, fractionSpelled, exponentSpelled, rfl⟩
        rw [sameWhole, samePoint, samePower]
        simp only [List.append_assoc]

/-! ### Texts -/

theorem scanText_piece {piece : Piece} {word rest : List Char} (spelled : piece.Spelled word) :
    scanText (word ++ rest) = (scanText rest).after piece := by
  cases spelled with
  | @plain c unquoted unescaped visible =>
    have shown : ¬ c.toNat < 0x20 := by omega
    simp [scanText, unescaped, shown]
  | @short c value known =>
    have notUnit : c ≠ 'u' := by
      intro same
      subst same
      cases known
    simp [scanText, notUnit, known]
  | unit digits => simp [scanText, digits]

theorem scanText_spelled {pieces : List Piece} {inner : List Char} (rest : List Char)
    (spelled : PiecesSpelled pieces inner) :
    scanText (inner ++ '"' :: rest) = ⟨pieces, none, rest⟩ := by
  induction spelled with
  | nil => simp [scanText]
  | cons here later ih =>
    rw [List.append_assoc, scanText_piece here, ih]
    rfl

/-- A quoted text whose first piece was taken off is one whose rest is spelled. -/
theorem spelled_of_after {piece : Piece} {pieces : List Piece} {word after rest : List Char}
    {scan : TextScan} (here : piece.Spelled word)
    (later : ∀ {pieces : List Piece}, scan = ⟨pieces, none, rest⟩ →
      ∃ inner, after = inner ++ '"' :: rest ∧ PiecesSpelled pieces inner)
    (both : scan.after piece = ⟨pieces, none, rest⟩) :
    ∃ inner, word ++ after = inner ++ '"' :: rest ∧ PiecesSpelled pieces inner := by
  obtain ⟨found, flaw, left⟩ := scan
  cases both
  obtain ⟨inner, same, spelled⟩ := later rfl
  exact ⟨word ++ inner, by rw [same, List.append_assoc], .cons here spelled⟩

theorem spelled_of_scanText {cs rest : List Char} {pieces : List Piece}
    (scanned : scanText cs = ⟨pieces, none, rest⟩) :
    ∃ inner, cs = inner ++ '"' :: rest ∧ PiecesSpelled pieces inner := by
  fun_induction scanText cs generalizing pieces with
  | case1 | case4 | case5 | case7 | case8 | case9 => cases scanned
  | case2 after =>
    cases scanned
    exact ⟨[], rfl, .nil⟩
  | case3 a b c d after value digits ih => exact spelled_of_after (.unit digits) ih scanned
  | case6 c after _ _ value known ih => exact spelled_of_after (.short known) ih scanned
  | case10 c after unquoted _ _ escaped escapedLast visible ih =>
    have unescaped : c ≠ '\\' := by
      intro same
      cases after with
      | nil => exact escapedLast same rfl
      | cons next others => exact escaped next others same rfl
    exact spelled_of_after (.plain unquoted unescaped (Nat.not_lt.mp visible)) ih scanned

end Json

end WordGame
