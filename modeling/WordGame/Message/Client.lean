import WordGame.Basic
import WordGame.Message.Envelope
import WordGame.Text.Quoted
import WordGame.Json.Printer

/-!
The messages that clients send, read from an envelope.

A payload is an object of the fields, of which the last of several with one name counts, or an array
of the fields in their order. Fields of an object are looked at in the alphabetical order of their
names.
-/

namespace WordGame

open Json

inductive ClientMessage where
  | join (room : RoomId)
  | answer (word : String)
  | leave
  | typing (text : String)
  | ping (timestamp : Int64) (id : Option UInt64)
  | pong (timestamp : Int64)
  deriving DecidableEq, Repr

inductive ClientKind where
  | join
  | answer
  | leave
  | typing
  | ping
  | pong
  deriving DecidableEq, Repr

namespace ClientKind

def name : ClientKind → String
  | join => "join"
  | answer => "answer"
  | leave => "leave"
  | typing => "typing"
  | ping => "ping"
  | pong => "pong"

def all : List ClientKind := [join, answer, leave, typing, ping, pong]

def ofName? (name : String) : Option ClientKind := all.find? (fun kind => kind.name == name)

def title : ClientKind → String
  | join => "JoinPayload"
  | answer => "AnswerPayload"
  | leave => "LeavePayload"
  | typing => "TypingPayload"
  | ping => "PingPayload"
  | pong => "PongPayload"

def fieldCount : ClientKind → Nat
  | leave => 0
  | ping => 2
  | _ => 1

end ClientKind

inductive Expected where
  | unsigned
  | signed
  | text
  | payload (kind : ClientKind)
  deriving DecidableEq, Repr

def Expected.phrase : Expected → String
  | .unsigned => "u64"
  | .signed => "i64"
  | .text => "a string"
  | .payload kind => "struct " ++ kind.title

inductive PayloadError where
  | missingField (name : String)
  | wrongType (found : Value) (expected : Expected)
  | outOfRange (found : Int) (expected : Expected)
  | tooShort (length : Nat) (kind : ClientKind)
  | tooLong (length : Nat)

def signedText (n : Int) : String :=
  if n < 0 then "-" ++ Decimal.write n.natAbs else Decimal.write n.natAbs

def unexpected : Value → String
  | .null => "null"
  | .bool true => "boolean `true`"
  | .bool false => "boolean `false`"
  | .number (.integer n) => "integer `" ++ signedText n ++ "`"
  | .number (.real negative magnitude) =>
    "floating point `" ++ String.ofList (Number.real negative magnitude).write ++ "`"
  | .text value => "string " ++ Text.quoted value
  | .array _ => "sequence"
  | .object _ => "map"

def PayloadError.message : PayloadError → String
  | missingField name => "missing field `" ++ name ++ "`"
  | wrongType found expected =>
    "invalid type: " ++ unexpected found ++ ", expected " ++ expected.phrase
  | outOfRange found expected =>
    "invalid value: integer `" ++ signedText found ++ "`, expected " ++ expected.phrase
  | tooShort length kind =>
    "invalid length " ++ Decimal.write length ++ ", expected struct " ++ kind.title ++ " with " ++
      Decimal.write kind.fieldCount ++ (if kind.fieldCount = 1 then " element" else " elements")
  | tooLong length =>
    "invalid length " ++ Decimal.write length ++ ", expected fewer elements in array"

inductive DecodeError where
  | malformed (flaw : Flaw)
  | unknownType (name : String)
  | missingPayload (kind : ClientKind)
  | invalidPayload (kind : ClientKind) (error : PayloadError)

/-- The explanation of an error; that of a malformed text is its category alone. -/
def DecodeError.message : DecodeError → Option String
  | malformed _ => none
  | unknownType name => some ("unknown message type: " ++ name)
  | missingPayload kind => some ("missing payload for " ++ kind.name ++ " message")
  | invalidPayload kind error =>
    some ("invalid payload for " ++ kind.name ++ " message: " ++ error.message)

namespace Payload

def unsigned : Value → Except PayloadError UInt64
  | .number (.integer n) =>
    if 0 ≤ n ∧ n < Word.size64 then .ok (UInt64.ofNat n.toNat) else .error (.outOfRange n .unsigned)
  | found => .error (.wrongType found .unsigned)

def signed : Value → Except PayloadError Int64
  | .number (.integer n) =>
    if -Word.half64 ≤ n ∧ n < Word.half64 then .ok (Int64.ofInt n) else .error (.outOfRange n .signed)
  | found => .error (.wrongType found .signed)

def text : Value → Except PayloadError String
  | .text value => .ok value
  | found => .error (.wrongType found .text)

/-- A number that may be left out or null. -/
def optional : Option Value → Except PayloadError (Option UInt64)
  | none => .ok none
  | some .null => .ok none
  | some value => (unsigned value).map some

/-- The last field of that name. -/
def field? (name : String) (fields : List (String × Value)) : Option Value :=
  (fields.reverse.find? (fun entry => entry.1 == name)).map Prod.snd

def required (name : String) (fields : List (String × Value)) : Except PayloadError Value :=
  match field? name fields with
  | some value => .ok value
  | none => .error (.missingField name)

def one {α : Type} (kind : ClientKind) (name : String) (read : Value → Except PayloadError α) :
    Value → Except PayloadError α
  | .object fields => required name fields >>= read
  | .array [] => .error (.tooShort 0 kind)
  | .array (item :: rest) =>
    match read item with
    | .error error => .error error
    | .ok value => if rest.isEmpty then .ok value else .error (.tooLong (rest.length + 1))
  | found => .error (.wrongType found (.payload kind))

def ping : Value → Except PayloadError (Int64 × Option UInt64)
  | .object fields => do
    let id ← optional (field? "ping_id" fields)
    let timestamp ← required "timestamp" fields >>= signed
    return (timestamp, id)
  | .array [] => .error (.tooShort 0 .ping)
  | .array (item :: rest) => do
    let timestamp ← signed item
    let id ← optional rest.head?
    if 1 < rest.length then .error (.tooLong (rest.length + 1)) else return (timestamp, id)
  | found => .error (.wrongType found (.payload .ping))

end Payload

def ClientKind.read (kind : ClientKind) (value : Value) : Except PayloadError ClientMessage :=
  match kind with
  | .join => (Payload.one .join "room_id" Payload.unsigned value).map .join
  | .answer => (Payload.one .answer "answer" Payload.text value).map .answer
  | .leave => .ok .leave
  | .typing => (Payload.one .typing "text" Payload.text value).map .typing
  | .ping => (Payload.ping value).map (fun (timestamp, id) => .ping timestamp id)
  | .pong => (Payload.one .pong "timestamp" Payload.signed value).map .pong

/-- The message in an envelope; `leave` needs no payload. -/
def Envelope.message (envelope : Envelope) : Except DecodeError ClientMessage :=
  match ClientKind.ofName? envelope.kind with
  | none => .error (.unknownType envelope.kind)
  | some .leave => .ok .leave
  | some kind =>
    match envelope.payload with
    | none => .error (.missingPayload kind)
    | some .null => .error (.missingPayload kind)
    | some value =>
      match kind.read value with
      | .ok message => .ok message
      | .error error => .error (.invalidPayload kind error)

def ClientMessage.decode (text : String) : Except DecodeError ClientMessage :=
  match Envelope.read text with
  | .error flaw => .error (.malformed flaw)
  | .ok envelope => envelope.message

end WordGame
