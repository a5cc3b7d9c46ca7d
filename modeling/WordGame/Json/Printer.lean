import WordGame.Json.Value
import WordGame.Number.Shortest

/-!
Writing JSON values: no blanks, fields in their order, and in texts only the quotation mark, the
backslash and the control characters escaped.
-/

namespace WordGame.Json

def escape (c : Char) : List Char :=
  if c = '"' then ['\\', '"']
  else if c = '\\' then ['\\', '\\']
  else if c = '\x08' then ['\\', 'b']
  else if c = '\x0c' then ['\\', 'f']
  else if c = '\n' then ['\\', 'n']
  else if c = '\r' then ['\\', 'r']
  else if c = '\t' then ['\\', 't']
  else if c.toNat < 0x20 then
    ['\\', 'u', '0', '0', hexDigit (c.toNat / 16), hexDigit (c.toNat % 16)]
  else [c]
where
  hexDigit (n : Nat) : Char := if n < 10 then Char.ofNat (48 + n) else Char.ofNat (87 + n)

def writeText (text : String) : List Char := '"' :: text.toList.flatMap escape ++ ['"']

def Number.write : Number → List Char
  | .integer value =>
    if value < 0 then '-' :: Decimal.text value.natAbs else Decimal.text value.natAbs
  | .real negative magnitude =>
    if negative then '-' :: Shortest.text magnitude else Shortest.text magnitude

mutual

def Value.write : Value → List Char
  | .null => ['n', 'u', 'l', 'l']
  | .bool true => ['t', 'r', 'u', 'e']
  | .bool false => ['f', 'a', 'l', 's', 'e']
  | .number value => value.write
  | .text value => writeText value
  | .array items => '[' :: writeItems items ++ [']']
  | .object fields => '\x7b' :: writeFields fields ++ ['\x7d']

def writeItems : List Value → List Char
  | [] => []
  | [item] => item.write
  | item :: next :: rest => item.write ++ ',' :: writeItems (next :: rest)

def writeFields : List (String × Value) → List Char
  | [] => []
  | [(key, value)] => writeText key ++ ':' :: value.write
  | (key, value) :: next :: rest =>
    writeText key ++ ':' :: value.write ++ ',' :: writeFields (next :: rest)

end

def Value.render (value : Value) : String := String.ofList value.write

end WordGame.Json
