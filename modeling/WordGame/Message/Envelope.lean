import WordGame.Json.Reader

/-!
The envelope around every message from a client: an object with a `type`, a text, and perhaps a
`payload`, any value; other keys are skipped. The same may come as an array of one or two items.

The envelope is read token by token, so the first fault in the order of the text decides, whether
it is one of grammar or one of shape: a repeated key or a type that is no text is refused where it
stands.
-/

namespace WordGame

open Json

structure Envelope where
  kind : String
  payload : Option Value

namespace Envelope

structure Draft where
  kind : Option String
  payload : Option Value

inductive Slot where
  | kind
  | payload
  | ignored

inductive Stage where
  | start
  /-- Behind the opening brace: a key or the end. -/
  | first
  | key (draft : Draft)
  | colon (draft : Draft) (slot : Slot)
  /-- Before the text of `type`. -/
  | kind (draft : Draft)
  | value (draft : Draft) (slot : Slot) (reading : Reading)
  | separator (draft : Draft)
  | itemKind
  /-- Behind the first item of an array. -/
  | afterKind (kind : String)
  | itemPayload (kind : String) (reading : Reading)
  | itemsEnd (envelope : Envelope)
  | done (envelope : Envelope)

def notText : Token → Flaw
  | .null => .misshapen
  | .bool _ => .misshapen
  | .beginArray => .misshapen
  | .beginObject => .misshapen
  | .number numeral => if numeral.number?.isSome then .misshapen else .illFormed
  | .brokenNumber flaw => flaw
  | .brokenWord flaw => flaw
  | _ => .illFormed

def readText : Token → Except Flaw String
  | .text pieces flaw => Care.kept.readText pieces flaw
  | token => .error (notText token)

def notEnvelope : Token → Flaw
  | .text pieces flaw =>
    match Care.kept.readText pieces flaw with
    | .ok _ => .misshapen
    | .error found => found
  | token => notText token

/-- The slot of a key, unless it is taken. -/
def Draft.slot (draft : Draft) (name : String) : Except Flaw Slot :=
  if name = "type" then
    if draft.kind.isSome then .error .misshapen else .ok .kind
  else if name = "payload" then
    if draft.payload.isSome then .error .misshapen else .ok .payload
  else .ok .ignored

def Draft.put (draft : Draft) (slot : Slot) (value : Value) : Draft :=
  match slot with
  | .payload => { draft with payload := some value }
  | _ => draft

def Draft.finish (draft : Draft) : Except Flaw Stage :=
  match draft.kind with
  | some kind => .ok (.done ⟨kind, draft.payload⟩)
  | none => .error .misshapen

def readKey (draft : Draft) : Token → Except Flaw Stage
  | .text pieces flaw =>
    match Care.kept.readText pieces flaw with
    | .error found => .error found
    | .ok name => (draft.slot name).map (Stage.colon draft)
  | _ => .error .illFormed

def Slot.stage (draft : Draft) : Slot → Stage
  | .kind => .kind draft
  | .payload => .value draft .payload (Reading.start .kept)
  | .ignored => .value draft .ignored (Reading.start .skipped)

def Stage.step : Stage → Token → Except Flaw Stage
  | .start, .beginObject => .ok .first
  | .start, .beginArray => .ok .itemKind
  | .start, token => .error (notEnvelope token)
  | .first, .endObject => Draft.finish ⟨none, none⟩
  | .first, token => readKey ⟨none, none⟩ token
  | .key draft, token => readKey draft token
  | .colon draft slot, .colon => .ok (slot.stage draft)
  | .colon _ _, _ => .error .illFormed
  | .kind draft, token =>
    (readText token).map (fun name => .separator { draft with kind := some name })
  | .value draft slot reading, token =>
    (reading.step 1 token).map (fun progress =>
      match progress with
      | .more next => .value draft slot next
      | .done found => .separator (draft.put slot found))
  | .separator draft, .comma => .ok (.key draft)
  | .separator draft, .endObject => draft.finish
  | .separator _, _ => .error .illFormed
  | .itemKind, .endArray => .error .misshapen
  | .itemKind, token => (readText token).map .afterKind
  | .afterKind name, .endArray => .ok (.done ⟨name, none⟩)
  | .afterKind name, .comma => .ok (.itemPayload name (Reading.start .kept))
  | .afterKind _, _ => .error .illFormed
  | .itemPayload name reading, token =>
    (reading.step 1 token).map (fun progress =>
      match progress with
      | .more next => .itemPayload name next
      | .done found => .itemsEnd ⟨name, some found⟩)
  | .itemsEnd envelope, .endArray => .ok (.done envelope)
  | .itemsEnd _, _ => .error .illFormed
  | .done _, _ => .error .illFormed

/-- Reads tokens one after the other, up to the first fault. -/
def Stage.run (stage : Stage) (tokens : List Token) : Except Flaw Stage :=
  tokens.foldlM Stage.step stage

def read (text : String) : Except Flaw Envelope :=
  match Stage.start.run (tokens text.toList) with
  | .error flaw => .error flaw
  | .ok (.done envelope) => .ok envelope
  | .ok _ => .error .cutShort

end Envelope

end WordGame
