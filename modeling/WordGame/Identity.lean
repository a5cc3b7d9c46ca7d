import WordGame.Basic
import WordGame.Number.Decimal
import WordGame.Text.Blank

/-!
Who is behind a connection. Requests that carry an account number keep it; all others become guests
and are numbered from a base that lies above the usual accounts.
-/

namespace WordGame

structure Identity where
  id : PlayerId
  name : String
  guest : Bool
  deriving DecidableEq, Repr

def guestBase : PlayerId := 281474976710656

/-- The numbers that have been given to guests: all from the base up to this one. -/
structure Guests where
  next : PlayerId
  deriving DecidableEq, Repr

namespace Guests

def initial : Guests := ⟨guestBase⟩

/-- A name that counts: trimmed and not blank. -/
def givenName (name : Option String) : Option String :=
  match name.map Text.trim with
  | some trimmed => if trimmed.isEmpty then none else some trimmed
  | none => none

/-- The identity of a request; `invented` is the name for a guest who brings none. -/
def resolve (guests : Guests) (account : Option PlayerId) (name : Option String)
    (invented : String) : Identity × Guests :=
  match account with
  | some id =>
    (⟨id, (givenName name).getD ("user-" ++ Decimal.write id.toNat), false⟩, guests)
  | none => (⟨guests.next, (givenName name).getD invented, true⟩, ⟨guests.next + 1⟩)

end Guests

end WordGame
