import WordGame.Basic
import WordGame.Number.Unsigned
import WordGame.Number.Word
import WordGame.Text.Utf8

/-!
The query of the request that opens a connection: form fields with the account number and the name
of the player, both optional.
-/

namespace WordGame

structure UpgradeRequest where
  account : Option PlayerId
  name : Option String
  deriving DecidableEq, Repr

inductive QueryError where
  | repeated (field : String)
  | badAccount (flaw : NumberFlaw)
  deriving DecidableEq, Repr

def QueryError.message (error : QueryError) : String :=
  "Failed to deserialize query string: " ++
    match error with
    | repeated field => "duplicate field `" ++ field ++ "`"
    | badAccount flaw => "user_id: " ++ flaw.message

def QueryError.status (_ : QueryError) : Nat := 400

namespace Form

def hexValue? (byte : UInt8) : Option UInt8 :=
  if 48 ≤ byte ∧ byte ≤ 57 then some (byte - 48)
  else if 97 ≤ byte ∧ byte ≤ 102 then some (byte - 87)
  else if 65 ≤ byte ∧ byte ≤ 70 then some (byte - 55)
  else none

/-- Undoes the escapes: a plus sign is a space, a percent sign with two digits the byte they name;
other percent signs stay. -/
def unescape : List UInt8 → List UInt8
  | [] => []
  | 37 :: high :: low :: rest =>
    match hexValue? high, hexValue? low with
    | some a, some b => (a * 16 + b) :: unescape rest
    | _, _ => 37 :: unescape (high :: low :: rest)
  | byte :: rest => (if byte = 43 then 32 else byte) :: unescape rest

def decodePart (part : List UInt8) : String := Text.Utf8.decodeLossy (unescape part)

def pair (part : List UInt8) : String × String :=
  (decodePart (part.takeWhile (· ≠ 61)), decodePart ((part.dropWhile (· ≠ 61)).drop 1))

def split : List UInt8 → List (List UInt8)
  | [] => [[]]
  | byte :: rest =>
    if byte = 38 then [] :: split rest
    else
      match split rest with
      | [] => [[byte]]
      | part :: later => (byte :: part) :: later

def pairs (bytes : List UInt8) : List (String × String) :=
  ((split bytes).filter (!·.isEmpty)).map pair

end Form

namespace UpgradeRequest

/-- One field more; fields of other names are passed over. -/
def add (request : UpgradeRequest) (entry : String × String) : Except QueryError UpgradeRequest :=
  if entry.1 = "user_id" then
    if request.account.isSome then .error (.repeated entry.1)
    else
      match Unsigned.read Word.size64 entry.2.toList with
      | .ok id => .ok { request with account := some (UInt64.ofNat id) }
      | .error flaw => .error (.badAccount flaw)
  else if entry.1 = "user_name" then
    if request.name.isSome then .error (.repeated entry.1)
    else .ok { request with name := some entry.2 }
  else .ok request

/-- Reads a query, up to the mark of a fragment; the first field at fault decides. -/
def read (query : Option String) : Except QueryError UpgradeRequest :=
  let text := (query.getD "").toList.takeWhile (· ≠ '#')
  (Form.pairs (String.ofList text).toUTF8.toList).foldlM add ⟨none, none⟩

end UpgradeRequest

end WordGame
