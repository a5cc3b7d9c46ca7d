import WordGame.Message.Client
import WordGame.Proofs.Json.Grammar

/-!
The grammar of messages: which trees are envelopes, and which payloads give a message.
-/

namespace WordGame

open Json

/-! ### Fields -/

/-- The values of the fields with that name, in their order; every key has to be a name. -/
inductive ValuesOf (name : String) : List (List Json.Piece × Tree) → List Tree → Prop
  | nil : ValuesOf name [] []
  | here {key : List Json.Piece} {tree : Tree} {fields : List (List Json.Piece × Tree)}
      {values : List Tree}
      (named : Spells key name) (later : ValuesOf name fields values) :
      ValuesOf name ((key, tree) :: fields) (tree :: values)
  | other {key : List Json.Piece} {tree : Tree} {fields : List (List Json.Piece × Tree)}
      {values : List Tree} {another : String} (named : Spells key another)
      (different : another ≠ name) (later : ValuesOf name fields values) :
      ValuesOf name ((key, tree) :: fields) values

/-- The last field with that name has this value; without one, none. -/
def LastField (name : String) (fields : List (List Json.Piece × Tree)) (value : Option Tree) : Prop :=
  ∃ values, ValuesOf name fields values ∧ values.getLast? = value

/-! ### Envelopes -/

/-- An envelope with that type and perhaps a payload. The type stands there once and is a text, the
payload stands there at most once. What else stands there has a proper name, and any value that is
JSON. -/
inductive IsEnvelope : Tree → List Json.Piece → Option Tree → Prop
  | object {fields : List (List Json.Piece × Tree)} {kind : List Json.Piece} {payload : Option Tree}
      (kinds : ValuesOf "type" fields [.text kind])
      (payloads : ValuesOf "payload" fields payload.toList) :
      IsEnvelope (.object fields) kind payload
  | kind {kind : List Json.Piece} : IsEnvelope (.array [.text kind]) kind none
  | pair {kind : List Json.Piece} {payload : Tree} :
      IsEnvelope (.array [.text kind, payload]) kind (some payload)

/-- So many containers may be open at once in a payload: 127 with the envelope around it. -/
def payloadRoom : Nat := 126

/-! ### Messages -/

def ClientMessage.kind : ClientMessage → ClientKind
  | .join _ => .join
  | .answer _ => .answer
  | .leave => .leave
  | .typing _ => .typing
  | .ping _ _ => .ping
  | .pong _ => .pong

def IsText (word : String) (tree : Tree) : Prop := ∃ pieces, tree = .text pieces ∧ Spells pieces word

def IsUnsigned (n : UInt64) (tree : Tree) : Prop := tree.IsInteger n.toNat

def IsSigned (n : Int64) (tree : Tree) : Prop := tree.IsInteger n.toInt

/-- A number that may be left out or null. -/
def IsOptional : Option UInt64 → Option Tree → Prop
  | none, value => value = none ∨ value = some .null
  | some n, value => ∃ tree, value = some tree ∧ IsUnsigned n tree

/-- A payload of one field: an object in which its last value is right, or an array of one item. -/
inductive SoleField (name : String) (right : Tree → Prop) : Tree → Prop
  | object {fields : List (List Json.Piece × Tree)} {value : Tree}
      (last : LastField name fields (some value)) (isRight : right value) :
      SoleField name right (.object fields)
  | array {value : Tree} (isRight : right value) : SoleField name right (.array [value])

inductive PingFields (timestamp : Int64) (id : Option UInt64) : Tree → Prop
  | object {fields : List (List Json.Piece × Tree)} {stamp : Tree} {number : Option Tree}
      (lastStamp : LastField "timestamp" fields (some stamp)) (stamped : IsSigned timestamp stamp)
      (lastNumber : LastField "ping_id" fields number) (numbered : IsOptional id number) :
      PingFields timestamp id (.object fields)
  | stamp {stamp : Tree} (stamped : IsSigned timestamp stamp) (unnumbered : id = none) :
      PingFields timestamp id (.array [stamp])
  | pair {stamp number : Tree} (stamped : IsSigned timestamp stamp)
      (numbered : IsOptional id (some number)) : PingFields timestamp id (.array [stamp, number])

/-- What the payload of a message has to be; that of `leave` may be missing or anything. -/
def ClientMessage.GivenBy : ClientMessage → Option Tree → Prop
  | .join room, payload => ∃ tree, payload = some tree ∧ SoleField "room_id" (IsUnsigned room) tree
  | .answer word, payload => ∃ tree, payload = some tree ∧ SoleField "answer" (IsText word) tree
  | .leave, _ => True
  | .typing text, payload => ∃ tree, payload = some tree ∧ SoleField "text" (IsText text) tree
  | .ping timestamp id, payload => ∃ tree, payload = some tree ∧ PingFields timestamp id tree
  | .pong timestamp, payload =>
    ∃ tree, payload = some tree ∧ SoleField "timestamp" (IsSigned timestamp) tree

end WordGame
