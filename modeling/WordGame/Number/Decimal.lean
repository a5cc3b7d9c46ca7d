/-!
Natural numbers in base ten.

`value_digits` says that the digits of a number have that number as their value, and
`takeDigits_text` that a number written before something that is no digit is read back whole.
-/

namespace WordGame.Decimal

/-- The digits of a number, the most significant first. -/
def digits (n : Nat) : List Nat :=
  if n < 10 then [n] else digits (n / 10) ++ [n % 10]
termination_by n
decreasing_by omega

def value (ds : List Nat) : Nat := ds.foldl (fun n d => 10 * n + d) 0

def digitChar (d : Nat) : Char := Char.ofNat (48 + d)

def digit? (c : Char) : Option Nat :=
  if '0' ≤ c ∧ c ≤ '9' then some (c.toNat - 48) else none

def text (n : Nat) : List Char := (digits n).map digitChar

def write (n : Nat) : String := String.ofList (text n)

def takeDigits : List Char → List Nat × List Char
  | [] => ([], [])
  | c :: rest =>
    match digit? c with
    | some d =>
      let (ds, after) := takeDigits rest
      (d :: ds, after)
    | none => ([], c :: rest)

theorem takeDigits_length (cs : List Char) : (takeDigits cs).2.length ≤ cs.length := by
  induction cs with
  | nil => simp [takeDigits]
  | cons c rest ih =>
    rw [takeDigits]
    split
    · simp only [List.length_cons]
      omega
    · simp

theorem value_digits (n : Nat) : value (digits n) = n := by
  rw [digits]
  split
  · simp [value]
  · have shorter := value_digits (n / 10)
    simp only [value, List.foldl_append, List.foldl_cons, List.foldl_nil] at shorter ⊢
    rw [shorter]
    omega
termination_by n
decreasing_by omega

theorem digits_lt_ten (n : Nat) : ∀ d ∈ digits n, d < 10 := by
  rw [digits]
  split
  · rename_i small
    simpa using small
  · intro d member
    rcases List.mem_append.mp member with earlier | last
    · exact digits_lt_ten (n / 10) d earlier
    · rw [List.mem_singleton] at last
      omega
termination_by n
decreasing_by omega

theorem digits_ne_nil (n : Nat) : digits n ≠ [] := by
  rw [digits]
  split <;> simp

theorem digit?_digitChar {d : Nat} (small : d < 10) : digit? (digitChar d) = some d := by
  have all : ∀ d < 10, digit? (digitChar d) = some d := by decide
  exact all d small

theorem takeDigits_map {ds : List Nat} {rest : List Char} (small : ∀ d ∈ ds, d < 10)
    (stops : ∀ c, rest.head? = some c → digit? c = none) :
    takeDigits (ds.map digitChar ++ rest) = (ds, rest) := by
  induction ds with
  | nil =>
    cases rest with
    | nil => rfl
    | cons c after => simp [takeDigits, stops c rfl]
  | cons d tail ih =>
    have here := digit?_digitChar (small d List.mem_cons_self)
    have later := ih (fun e member => small e (List.mem_cons_of_mem _ member))
    simp [takeDigits, here, later]

theorem takeDigits_text (n : Nat) {rest : List Char}
    (stops : ∀ c, rest.head? = some c → digit? c = none) :
    takeDigits (text n ++ rest) = (digits n, rest) :=
  takeDigits_map (digits_lt_ten n) stops

theorem text_injective {n m : Nat} (same : text n = text m) : n = m := by
  have digits : digits n = digits m := by
    have read (k : Nat) : takeDigits (text k ++ []) = (digits k, []) :=
      takeDigits_text k (fun _ nothing => nomatch nothing)
    have both : (digits n, ([] : List Char)) = (digits m, []) := by
      rw [← read n, ← read m, same]
    exact (Prod.mk.injEq ..).mp both |>.1
  rw [← value_digits n, digits, value_digits m]

end WordGame.Decimal
