import WordGame.Json.Value

/-!
Reading one JSON value from tokens.

The reader is a machine: its state is the stack of containers that are still open and what may come
next, and each token takes it one step. A value can be read in earnest or only skipped. What is
skipped has to follow the grammar, but its texts, numbers and depth are not looked at.
-/

namespace WordGame.Json

/-- Whether a value is kept or only skipped. -/
inductive Care where
  | kept
  | skipped
  deriving DecidableEq, Repr

/-- A container that is still open, with its contents so far in reverse order. -/
inductive Frame where
  | array (items : List Value)
  | object (fields : List (String × Value))
  | field (fields : List (String × Value)) (key : String)

inductive Want where
  | value
  | valueOrEnd
  | key
  | keyOrEnd
  | colon
  | separator

structure Reading where
  care : Care
  stack : List Frame
  want : Want

inductive Progress where
  | more (reading : Reading)
  | done (value : Value)

/-- At most this many containers may be open at once around and inside a value that is kept. -/
def maxDepth : Nat := 127

def Reading.start (care : Care) : Reading := ⟨care, [], .value⟩

/-- The characters of a quoted text; a text that is skipped only has to be closed properly. -/
def Care.readText (care : Care) (pieces : List Piece) (flaw : Option Flaw) : Except Flaw String :=
  match care, flaw with
  | .kept, flaw => (readPieces flaw pieces).map String.ofList
  | .skipped, some found => .error found
  | .skipped, none => .ok ""

/-- The value of a numeral; one that is skipped may be out of range. -/
def Care.readNumber (care : Care) (numeral : Numeral) : Except Flaw Value :=
  match care with
  | .skipped => .ok .null
  | .kept =>
    match numeral.number? with
    | some value => .ok (.number value)
    | none => .error .illFormed

/-- A number that breaks off at the end of the text counts as ill-formed where it is skipped. -/
def Care.numberFlaw (care : Care) (flaw : Flaw) : Flaw :=
  match care with
  | .kept => flaw
  | .skipped => .illFormed

def Reading.put (reading : Reading) (value : Value) : Progress :=
  match reading.stack with
  | [] => .done value
  | .array items :: outer =>
    .more { reading with stack := .array (value :: items) :: outer, want := .separator }
  | .field fields key :: outer =>
    .more { reading with stack := .object ((key, value) :: fields) :: outer, want := .separator }
  | .object fields :: outer =>
    .more { reading with stack := .object fields :: outer, want := .separator }

def Reading.open (enclosing : Nat) (reading : Reading) (frame : Frame) (want : Want) :
    Except Flaw Progress :=
  if reading.care = .kept ∧ maxDepth ≤ enclosing + reading.stack.length then .error .illFormed
  else .ok (.more { reading with stack := frame :: reading.stack, want := want })

def Reading.close (reading : Reading) : Progress :=
  match reading.stack with
  | .array items :: outer => { reading with stack := outer }.put (.array items.reverse)
  | .object fields :: outer => { reading with stack := outer }.put (.object fields.reverse)
  | .field fields _ :: outer => { reading with stack := outer }.put (.object fields.reverse)
  | [] => .done .null

def Reading.begin (enclosing : Nat) (reading : Reading) : Token → Except Flaw Progress
  | .null => .ok (reading.put .null)
  | .bool value => .ok (reading.put (.bool value))
  | .number numeral => (reading.care.readNumber numeral).map reading.put
  | .text pieces flaw =>
    (reading.care.readText pieces flaw).map (fun value => reading.put (.text value))
  | .beginArray => reading.open enclosing (.array []) .valueOrEnd
  | .beginObject => reading.open enclosing (.object []) .keyOrEnd
  | .brokenNumber flaw => .error (reading.care.numberFlaw flaw)
  | .brokenWord flaw => .error flaw
  | _ => .error .illFormed

def Reading.key (reading : Reading) : Token → Except Flaw Progress
  | .text pieces flaw =>
    match reading.stack with
    | .object fields :: outer =>
      (reading.care.readText pieces flaw).map (fun name =>
        .more { reading with stack := .field fields name :: outer, want := .colon })
    | _ => .error .illFormed
  | _ => .error .illFormed

def Reading.separate (reading : Reading) : Token → Except Flaw Progress
  | .comma =>
    match reading.stack with
    | .array _ :: _ => .ok (.more { reading with want := .value })
    | _ => .ok (.more { reading with want := .key })
  | .endArray =>
    match reading.stack with
    | .array _ :: _ => .ok reading.close
    | _ => .error .illFormed
  | .endObject =>
    match reading.stack with
    | .array _ :: _ => .error .illFormed
    | _ => .ok reading.close
  | _ => .error .illFormed

/-- One token, read inside `enclosing` containers that are open around the value. -/
def Reading.step (enclosing : Nat) (reading : Reading) (token : Token) : Except Flaw Progress :=
  match reading.want with
  | .value => reading.begin enclosing token
  | .valueOrEnd =>
    match token with
    | .endArray => .ok reading.close
    | token => reading.begin enclosing token
  | .key => reading.key token
  | .keyOrEnd =>
    match token with
    | .endObject => .ok reading.close
    | token => reading.key token
  | .colon =>
    match token with
    | .colon => .ok (.more { reading with want := .value })
    | _ => .error .illFormed
  | .separator => reading.separate token

end WordGame.Json
