/-!
Reading bytes as UTF-8.

`scan` splits the bytes into characters and malformed stretches, a stretch being as many bytes as
could still have begun a character. Strict reading wants no stretch at all, lenient reading puts
one replacement character for each.
-/

namespace WordGame.Text.Utf8

/-- A character whose first bytes have been read: the bits so far, the number of bytes still to
come, and the range in which the next of them has to lie. -/
structure Begun where
  bits : Nat
  missing : Nat
  low : UInt8
  high : UInt8

inductive Lead where
  | whole (c : Char)
  | begun (start : Begun)
  | malformed

/-- The ranges keep out overlong forms, surrogates and points past the last one. -/
def lead (byte : UInt8) : Lead :=
  let value := byte.toNat
  if value < 0x80 then .whole (Char.ofNat value)
  else if value < 0xC2 then .malformed
  else if value < 0xE0 then .begun ⟨value - 0xC0, 1, 0x80, 0xBF⟩
  else if value = 0xE0 then .begun ⟨0, 2, 0xA0, 0xBF⟩
  else if value = 0xED then .begun ⟨0xD, 2, 0x80, 0x9F⟩
  else if value < 0xF0 then .begun ⟨value - 0xE0, 2, 0x80, 0xBF⟩
  else if value = 0xF0 then .begun ⟨0, 3, 0x90, 0xBF⟩
  else if value < 0xF4 then .begun ⟨value - 0xF0, 3, 0x80, 0xBF⟩
  else if value = 0xF4 then .begun ⟨4, 3, 0x80, 0x8F⟩
  else .malformed

/-- The characters of a byte sequence, with `none` for each malformed stretch. -/
def scan : Option Begun → List UInt8 → List (Option Char)
  | none, [] => []
  | some _, [] => [none]
  | none, byte :: rest =>
    match lead byte with
    | .whole c => some c :: scan none rest
    | .begun start => scan (some start) rest
    | .malformed => none :: scan none rest
  | some start, byte :: rest =>
    if start.low ≤ byte && byte ≤ start.high then
      let bits := start.bits * 64 + (byte.toNat - 0x80)
      if start.missing ≤ 1 then some (Char.ofNat bits) :: scan none rest
      else scan (some ⟨bits, start.missing - 1, 0x80, 0xBF⟩) rest
    else
      match lead byte with
      | .whole c => none :: some c :: scan none rest
      | .begun next => none :: scan (some next) rest
      | .malformed => none :: none :: scan none rest

def decode? (bytes : List UInt8) : Option String :=
  ((scan none bytes).mapM id).map String.ofList

def decodeLossy (bytes : List UInt8) : String :=
  String.ofList ((scan none bytes).map (·.getD '\ufffd'))

end WordGame.Text.Utf8
