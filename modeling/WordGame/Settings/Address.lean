import WordGame.Number.Decimal

/-!
Socket addresses: an address of four bytes or of eight groups in brackets, then a port.

Groups are written in lower case, without leading zeros, and the longest run of two or more zero
groups, the first of several, is written as two colons; an address that maps one of four bytes shows
that one.
-/

namespace WordGame

inductive SocketAddress where
  | v4 (octets : List Nat) (port : Nat)
  | v6 (groups : List Nat) (scope port : Nat)
  deriving DecidableEq, Repr

namespace SocketAddress

def digit? (base : Nat) (c : Char) : Option Nat :=
  let value :=
    if '0' ≤ c ∧ c ≤ '9' then c.toNat - 48
    else if 'a' ≤ c ∧ c ≤ 'f' then c.toNat - 87
    else if 'A' ≤ c ∧ c ≤ 'F' then c.toNat - 55
    else 16
  if value < base then some value else none

def takeDigits (base : Nat) : List Char → List Nat × List Char
  | [] => ([], [])
  | c :: rest =>
    match digit? base c with
    | some d =>
      let (ds, after) := takeDigits base rest
      (d :: ds, after)
    | none => ([], c :: rest)

structure Field where
  base : Nat
  maxDigits : Option Nat
  leadingZero : Bool
  bound : Nat

def octet : Field := ⟨10, some 3, false, 256⟩

def group : Field := ⟨16, some 4, true, 65536⟩

def port : Field := ⟨10, none, true, 65536⟩

def scope : Field := ⟨10, none, true, 4294967296⟩

def Field.read (field : Field) (cs : List Char) : Option (Nat × List Char) :=
  let (ds, rest) := takeDigits field.base cs
  let value := ds.foldl (fun n d => field.base * n + d) 0
  let fits := match field.maxDigits with
    | some most => ds.length ≤ most
    | none => true
  let zeroFirst := ds.head? = some 0 ∧ 1 < ds.length
  if ds.isEmpty ∨ !fits ∨ (!field.leadingZero ∧ zeroFirst) ∨ field.bound ≤ value then none
  else some (value, rest)

def skip? (expected : Char) : List Char → Option (List Char)
  | [] => none
  | c :: rest => if c = expected then some rest else none

def readV4 (cs : List Char) : Option (List Nat × List Char) := do
  let (a, cs) ← octet.read cs
  let (b, cs) ← skip? '.' cs >>= octet.read
  let (c, cs) ← skip? '.' cs >>= octet.read
  let (d, cs) ← skip? '.' cs >>= octet.read
  return ([a, b, c, d], cs)

/-- At most `room` groups between colons, and whether the last two are written as four bytes. -/
def readGroups : Nat → Bool → List Char → List Nat × Bool × List Char
  | 0, _, cs => ([], false, cs)
  | room + 1, first, cs =>
    match if first then some cs else skip? ':' cs with
    | none => ([], false, cs)
    | some start =>
      match if 0 < room then readV4 start else none with
      | some ([a, b, c, d], rest) => ([a * 256 + b, c * 256 + d], true, rest)
      | _ =>
        match group.read start with
        | none => ([], false, cs)
        | some (value, rest) =>
          let (groups, embedded, after) := readGroups room false rest
          (value :: groups, embedded, after)

/-- Eight groups, of which a run may be left out between two colons. -/
def readV6 (cs : List Char) : Option (List Nat × List Char) :=
  let (head, embedded, rest) := readGroups 8 true cs
  if head.length = 8 then some (head, rest)
  else if embedded then none
  else do
    let rest ← skip? ':' rest >>= skip? ':'
    let (tail, _, rest) := readGroups (7 - head.length) true rest
    return (head ++ List.replicate (8 - head.length - tail.length) 0 ++ tail, rest)

def readScope (cs : List Char) : Nat × List Char :=
  match skip? '%' cs >>= scope.read with
  | some found => found
  | none => (0, cs)

def readPort (cs : List Char) : Option Nat :=
  match skip? ':' cs >>= port.read with
  | some (value, []) => some value
  | _ => none

def read? (cs : List Char) : Option SocketAddress :=
  match readV4 cs with
  | some (octets, rest) => (readPort rest).map (.v4 octets)
  | none => do
    let (groups, rest) ← skip? '[' cs >>= readV6
    let (scope, rest) := readScope rest
    let rest ← skip? ']' rest
    return .v6 groups scope (← readPort rest)

def writeV4 (octets : List Nat) : List Char :=
  ['.'].intercalate (octets.map Decimal.text)

def writeGroups (groups : List Nat) : List Char :=
  [':'].intercalate (groups.map (Nat.toDigits 16))

/-- The longest run of zeros in a list, the first of several: where it starts and how long it is. -/
def longestZeros (groups : List Nat) : Nat × Nat :=
  let runAt (start : Nat) : Nat := ((groups.drop start).takeWhile (· = 0)).length
  (List.range groups.length).foldl
    (fun best start => if best.2 < runAt start then (start, runAt start) else best) (0, 0)

def writeV6 (groups : List Nat) : List Char :=
  match groups with
  | [0, 0, 0, 0, 0, 65535, high, low] =>
    "::ffff:".toList ++ writeV4 [high / 256, high % 256, low / 256, low % 256]
  | groups =>
    let (start, length) := longestZeros groups
    if 1 < length then
      writeGroups (groups.take start) ++ [':', ':'] ++ writeGroups (groups.drop (start + length))
    else writeGroups groups

def write : SocketAddress → List Char
  | .v4 octets port => writeV4 octets ++ ':' :: Decimal.text port
  | .v6 groups scope port =>
    let scopeText := if scope = 0 then [] else '%' :: Decimal.text scope
    '[' :: writeV6 groups ++ scopeText ++ ']' :: ':' :: Decimal.text port

end SocketAddress

end WordGame
