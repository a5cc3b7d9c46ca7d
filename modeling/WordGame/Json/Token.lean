import WordGame.Number.Decimal

/-!
The words of JSON: punctuation, literals, numbers and quoted texts, with the blanks between them
left out.

Scanning never fails. A word that is broken off or ill-formed is itself a token that records what
is wrong with it, so that whoever reads the tokens meets the faults in the order of the text and
decides which of them matter. Nothing is scanned behind such a token.
-/

namespace WordGame.Json

inductive Flaw where
  /-- It breaks the grammar, or a limit on numbers, escapes or nesting. -/
  | illFormed
  | cutShort
  /-- It is JSON as far as it was read, but not of the shape that is wanted. -/
  | misshapen
  deriving DecidableEq, Repr

/-- One element of a quoted text: a character, written as itself or by a short escape, or a unit of
sixteen bits, written by its number. -/
inductive Piece where
  | char (value : Char)
  | unit (value : Nat)
  deriving DecidableEq, Repr

structure Exponent where
  negative : Bool
  digits : List Nat
  deriving DecidableEq, Repr

structure Numeral where
  negative : Bool
  whole : List Nat
  fraction : List Nat
  exponent : Option Exponent
  deriving DecidableEq, Repr

inductive Token where
  | beginObject
  | endObject
  | beginArray
  | endArray
  | colon
  | comma
  | null
  | bool (value : Bool)
  | number (numeral : Numeral)
  | brokenNumber (flaw : Flaw)
  | brokenWord (flaw : Flaw)
  /-- A quoted text, with what is wrong behind its last piece if it is not closed properly. -/
  | text (pieces : List Piece) (flaw : Option Flaw)
  | stray (c : Char)
  deriving DecidableEq, Repr

def endFlaw (rest : List Char) : Flaw := if rest.isEmpty then .cutShort else .illFormed

def scanWhole (cs : List Char) : Except Flaw (List Nat × List Char) :=
  match Decimal.takeDigits cs with
  | ([], rest) => .error (endFlaw rest)
  | (0 :: _ :: _, _) => .error .illFormed
  | (ds, rest) => .ok (ds, rest)

def scanDigits (cs : List Char) : Except Flaw (List Nat × List Char) :=
  match Decimal.takeDigits cs with
  | ([], rest) => .error (endFlaw rest)
  | (ds, rest) => .ok (ds, rest)

def scanFraction : List Char → Except Flaw (List Nat × List Char)
  | '.' :: rest => scanDigits rest
  | cs => .ok ([], cs)

def scanPower : List Char → Except Flaw (Exponent × List Char)
  | '+' :: rest => (scanDigits rest).map (fun (ds, after) => (⟨false, ds⟩, after))
  | '-' :: rest => (scanDigits rest).map (fun (ds, after) => (⟨true, ds⟩, after))
  | cs => (scanDigits cs).map (fun (ds, after) => (⟨false, ds⟩, after))

def scanExponent : List Char → Except Flaw (Option Exponent × List Char)
  | c :: rest =>
    if c = 'e' ∨ c = 'E' then (scanPower rest).map (fun (power, after) => (some power, after))
    else .ok (none, c :: rest)
  | [] => .ok (none, [])

def scanMagnitude (negative : Bool) (cs : List Char) : Except Flaw (Numeral × List Char) :=
  match scanWhole cs with
  | .error flaw => .error flaw
  | .ok (whole, afterWhole) =>
    match scanFraction afterWhole with
    | .error flaw => .error flaw
    | .ok (fraction, afterFraction) =>
      match scanExponent afterFraction with
      | .error flaw => .error flaw
      | .ok (exponent, rest) => .ok (⟨negative, whole, fraction, exponent⟩, rest)

def unitOf? (a b c d : Char) : Option Nat := do
  let first ← hexDigit? a
  let second ← hexDigit? b
  let third ← hexDigit? c
  let fourth ← hexDigit? d
  return ((first * 16 + second) * 16 + third) * 16 + fourth
where
  hexDigit? (c : Char) : Option Nat :=
    if '0' ≤ c ∧ c ≤ '9' then some (c.toNat - 48)
    else if 'a' ≤ c ∧ c ≤ 'f' then some (c.toNat - 87)
    else if 'A' ≤ c ∧ c ≤ 'F' then some (c.toNat - 55)
    else none

def shortEscape? : Char → Option Char
  | '"' => some '"'
  | '\\' => some '\\'
  | '/' => some '/'
  | 'b' => some '\x08'
  | 'f' => some '\x0c'
  | 'n' => some '\n'
  | 'r' => some '\r'
  | 't' => some '\t'
  | _ => none

structure TextScan where
  pieces : List Piece
  flaw : Option Flaw
  rest : List Char

def TextScan.after (piece : Piece) (scan : TextScan) : TextScan :=
  { scan with pieces := piece :: scan.pieces }

/-- The flaw of an escape by number with fewer than four characters behind it: four bytes are
enough to see that they are no digits. -/
def unitFlaw (cs : List Char) : Flaw :=
  if cs.foldl (fun size c => size + c.utf8Size) 0 < 4 then .cutShort else .illFormed

def scanText : List Char → TextScan
  | [] => ⟨[], some .cutShort, []⟩
  | '"' :: rest => ⟨[], none, rest⟩
  | '\\' :: 'u' :: a :: b :: c :: d :: rest =>
    match unitOf? a b c d with
    | some value => (scanText rest).after (.unit value)
    | none => ⟨[], some .illFormed, []⟩
  | '\\' :: 'u' :: rest => ⟨[], some (unitFlaw rest), []⟩
  | '\\' :: c :: rest =>
    match shortEscape? c with
    | some value => (scanText rest).after (.char value)
    | none => ⟨[], some .illFormed, []⟩
  | ['\\'] => ⟨[], some .cutShort, []⟩
  | c :: rest =>
    if c.toNat < 0x20 then ⟨[], some .illFormed, []⟩ else (scanText rest).after (.char c)

def scanWord : List Char → List Char → Except Flaw (List Char)
  | [], cs => .ok cs
  | _ :: _, [] => .error .cutShort
  | expected :: word, c :: cs => if c = expected then scanWord word cs else .error .illFormed

def isSpace (c : Char) : Bool := c = ' ' ∨ c = '\t' ∨ c = '\n' ∨ c = '\r'

def numberToken : Except Flaw (Numeral × List Char) → Token × List Char
  | .ok (numeral, rest) => (.number numeral, rest)
  | .error flaw => (.brokenNumber flaw, [])

def wordToken (token : Token) : Except Flaw (List Char) → Token × List Char
  | .ok rest => (token, rest)
  | .error flaw => (.brokenWord flaw, [])

def scanToken (c : Char) (rest : List Char) : Token × List Char :=
  match c with
  | '\x7b' => (.beginObject, rest)
  | '\x7d' => (.endObject, rest)
  | '[' => (.beginArray, rest)
  | ']' => (.endArray, rest)
  | ':' => (.colon, rest)
  | ',' => (.comma, rest)
  | 'n' => wordToken .null (scanWord ['u', 'l', 'l'] rest)
  | 't' => wordToken (.bool true) (scanWord ['r', 'u', 'e'] rest)
  | 'f' => wordToken (.bool false) (scanWord ['a', 'l', 's', 'e'] rest)
  | '"' =>
    let scan := scanText rest
    (.text scan.pieces scan.flaw, scan.rest)
  | '-' => numberToken (scanMagnitude true rest)
  | c =>
    if (Decimal.digit? c).isSome then numberToken (scanMagnitude false (c :: rest))
    else (.stray c, [])

theorem scanText_length (cs : List Char) : (scanText cs).rest.length ≤ cs.length := by
  fun_induction scanText cs <;> simp_all [TextScan.after] <;> omega

theorem scanWord_length {word cs rest : List Char} (success : scanWord word cs = .ok rest) :
    rest.length ≤ cs.length := by
  fun_induction scanWord word cs with
  | case1 cs => cases success; exact Nat.le_refl _
  | case2 => cases success
  | case3 _ _ _ ih =>
    have shorter := ih success
    simp only [List.length_cons]
    omega
  | case4 => cases success

theorem wordToken_length {token : Token} {word cs : List Char} :
    (wordToken token (scanWord word cs)).2.length ≤ cs.length := by
  cases scanned : scanWord word cs with
  | ok rest => exact scanWord_length scanned
  | error flaw => simp [wordToken]

theorem scanWhole_length {cs rest : List Char} {ds : List Nat}
    (success : scanWhole cs = .ok (ds, rest)) : rest.length ≤ cs.length := by
  have bound := Decimal.takeDigits_length cs
  unfold scanWhole at success
  split at success <;> rename_i taken
  · cases success
  · cases success
  · cases success
    rw [taken] at bound
    exact bound

theorem scanWhole_length_lt {c : Char} {cs rest : List Char} {ds : List Nat}
    (success : scanWhole (c :: cs) = .ok (ds, rest)) : rest.length < (c :: cs).length := by
  have bound := Decimal.takeDigits_length cs
  unfold scanWhole at success
  rw [Decimal.takeDigits] at success
  cases isDigit : Decimal.digit? c with
  | none => rw [isDigit] at success; cases success
  | some d =>
    rw [isDigit] at success
    simp only at success
    split at success <;> rename_i taken
    · cases success
    · cases success
    · cases success
      cases taken
      simp only [List.length_cons]
      omega

theorem scanDigits_length {cs rest : List Char} {ds : List Nat}
    (success : scanDigits cs = .ok (ds, rest)) : rest.length ≤ cs.length := by
  have bound := Decimal.takeDigits_length cs
  unfold scanDigits at success
  split at success <;> rename_i taken
  · cases success
  · cases success
    rw [taken] at bound
    exact bound

theorem scanFraction_length {cs rest : List Char} {ds : List Nat}
    (success : scanFraction cs = .ok (ds, rest)) : rest.length ≤ cs.length := by
  unfold scanFraction at success
  split at success
  · have bound := scanDigits_length success
    simp only [List.length_cons]
    omega
  · cases success
    exact Nat.le_refl _

theorem scanPower_length {cs rest : List Char} {power : Exponent}
    (success : scanPower cs = .ok (power, rest)) : rest.length ≤ cs.length := by
  have mapped {negative : Bool} {after : List Char}
      (here : (scanDigits after).map (fun (ds, left) => (Exponent.mk negative ds, left)) =
        .ok (power, rest)) : rest.length ≤ after.length := by
    cases scanned : scanDigits after with
    | error flaw => rw [scanned] at here; cases here
    | ok pair =>
      rw [scanned] at here
      cases here
      exact scanDigits_length scanned
  unfold scanPower at success
  split at success
  · have bound := mapped success
    simp only [List.length_cons]
    omega
  · have bound := mapped success
    simp only [List.length_cons]
    omega
  · exact mapped success

theorem scanExponent_length {cs rest : List Char} {exponent : Option Exponent}
    (success : scanExponent cs = .ok (exponent, rest)) : rest.length ≤ cs.length := by
  unfold scanExponent at success
  split at success
  · split at success
    · rename_i c after marked
      cases scanned : scanPower after with
      | error flaw => rw [scanned] at success; cases success
      | ok pair =>
        rw [scanned] at success
        cases success
        have bound := scanPower_length scanned
        simp only [List.length_cons]
        omega
    · cases success
      exact Nat.le_refl _
  · cases success
    exact Nat.le_refl _

theorem scanMagnitude_rest {negative : Bool} {cs rest : List Char} {numeral : Numeral}
    (success : scanMagnitude negative cs = .ok (numeral, rest)) :
    ∃ ds afterWhole, scanWhole cs = .ok (ds, afterWhole) ∧ rest.length ≤ afterWhole.length := by
  unfold scanMagnitude at success
  split at success
  · cases success
  · rename_i whole afterWhole wholeScanned
    split at success
    · cases success
    · rename_i fraction afterFraction fractionScanned
      split at success
      · cases success
      · rename_i exponent left exponentScanned
        cases success
        have first := scanFraction_length fractionScanned
        have second := scanExponent_length exponentScanned
        exact ⟨whole, afterWhole, wholeScanned, by omega⟩

theorem scanToken_length (c : Char) (rest : List Char) :
    (scanToken c rest).2.length ≤ rest.length := by
  have magnitude (negative : Bool) :
      (numberToken (scanMagnitude negative rest)).2.length ≤ rest.length := by
    cases scanned : scanMagnitude negative rest with
    | error flaw => simp [numberToken]
    | ok pair =>
      obtain ⟨ds, afterWhole, wholeScanned, bound⟩ := scanMagnitude_rest scanned
      have earlier := scanWhole_length wholeScanned
      simp only [numberToken]
      omega
  unfold scanToken
  split
  · exact Nat.le_refl _
  · exact Nat.le_refl _
  · exact Nat.le_refl _
  · exact Nat.le_refl _
  · exact Nat.le_refl _
  · exact Nat.le_refl _
  · exact wordToken_length
  · exact wordToken_length
  · exact wordToken_length
  · exact scanText_length rest
  · exact magnitude true
  · split
    · cases scanned : scanMagnitude false (c :: rest) with
      | error flaw => simp [numberToken]
      | ok pair =>
        obtain ⟨ds, afterWhole, wholeScanned, bound⟩ := scanMagnitude_rest scanned
        have earlier := scanWhole_length_lt wholeScanned
        simp only [numberToken]
        simp only [List.length_cons] at earlier
        omega
    · simp

def tokens : List Char → List Token
  | [] => []
  | c :: rest =>
    if isSpace c then tokens rest
    else (scanToken c rest).1 :: tokens (scanToken c rest).2
termination_by cs => cs.length
decreasing_by
  · simp
  · have bound := scanToken_length c rest
    simp only [List.length_cons]
    omega

end WordGame.Json
