import WordGame.Json.Value

/-!
The grammar of JSON: what a text consists of, apart from any way of reading it.

A tree is a value as it is written. It keeps the digits of its numbers, the pieces of its texts and
all of its keys, and leaves out only the blanks and the choice between spellings of one piece. The
grammar says which texts a tree has; whether the value can be kept is another matter, and depends on
`Tree.Bounded`.
-/

namespace WordGame.Json

inductive Tree where
  | null
  | bool (value : Bool)
  | number (numeral : Numeral)
  | text (pieces : List Piece)
  | array (items : List Tree)
  | object (fields : List (List Piece × Tree))

/-- Spaces, tabs and line ends, and nothing else. -/
def Blank (cs : List Char) : Prop := ∀ c ∈ cs, c = ' ' ∨ c = '\t' ∨ c = '\n' ∨ c = '\r'

/-- One of the texts, with blanks on both sides. -/
def Padded (texts : List Char → Prop) (cs : List Char) : Prop :=
  ∃ before inner after, cs = before ++ inner ++ after ∧ Blank before ∧ texts inner ∧ Blank after

/-! ### Numbers -/

def IsDigits (ds : List Nat) : Prop := ds ≠ [] ∧ ∀ d ∈ ds, d < 10

inductive FractionSpelled : List Nat → List Char → Prop
  | absent : FractionSpelled [] []
  | present {ds : List Nat} (digits : IsDigits ds) :
      FractionSpelled ds ('.' :: ds.map Decimal.digitChar)

inductive SignSpelled : Bool → List Char → Prop
  | absent : SignSpelled false []
  | plus : SignSpelled false ['+']
  | minus : SignSpelled true ['-']

inductive ExponentSpelled : Option Exponent → List Char → Prop
  | absent : ExponentSpelled none []
  | present {negative : Bool} {ds : List Nat} {mark : Char} {sign : List Char}
      (marked : mark = 'e' ∨ mark = 'E') (signed : SignSpelled negative sign)
      (digits : IsDigits ds) :
      ExponentSpelled (some ⟨negative, ds⟩) (mark :: (sign ++ ds.map Decimal.digitChar))

/-- A number behind its sign: no zero stands before other digits of the whole part. -/
structure MagnitudeSpelled (numeral : Numeral) (cs : List Char) : Prop where
  digits : IsDigits numeral.whole
  noLeadingZero : numeral.whole.head? = some 0 → numeral.whole = [0]
  parts : ∃ fraction exponent,
    FractionSpelled numeral.fraction fraction ∧ ExponentSpelled numeral.exponent exponent ∧
      cs = numeral.whole.map Decimal.digitChar ++ (fraction ++ exponent)

def Numeral.Spelled (numeral : Numeral) (cs : List Char) : Prop :=
  if numeral.negative then ∃ magnitude, cs = '-' :: magnitude ∧ MagnitudeSpelled numeral magnitude
  else MagnitudeSpelled numeral cs

/-! ### Texts -/

inductive Piece.Spelled : Piece → List Char → Prop
  | plain {c : Char} (unquoted : c ≠ '"') (unescaped : c ≠ '\\') (visible : 0x20 ≤ c.toNat) :
      Spelled (.char c) [c]
  | short {c value : Char} (known : shortEscape? c = some value) :
      Spelled (.char value) ['\\', c]
  | unit {a b c d : Char} {value : Nat} (digits : unitOf? a b c d = some value) :
      Spelled (.unit value) ['\\', 'u', a, b, c, d]

inductive PiecesSpelled : List Piece → List Char → Prop
  | nil : PiecesSpelled [] []
  | cons {piece : Piece} {pieces : List Piece} {first rest : List Char}
      (here : piece.Spelled first) (later : PiecesSpelled pieces rest) :
      PiecesSpelled (piece :: pieces) (first ++ rest)

def Quoted (pieces : List Piece) (cs : List Char) : Prop :=
  ∃ inner, cs = '"' :: inner ++ ['"'] ∧ PiecesSpelled pieces inner

/-- The characters that pieces stand for. A unit by itself is a character, unless it is a surrogate;
those come in pairs. -/
inductive StandsFor : List Piece → List Char → Prop
  | nil : StandsFor [] []
  | char {c : Char} {pieces : List Piece} {cs : List Char} (later : StandsFor pieces cs) :
      StandsFor (.char c :: pieces) (c :: cs)
  | unit {value : Nat} {pieces : List Piece} {cs : List Char}
      (notHigh : isHighSurrogate value = false) (notLow : isLowSurrogate value = false)
      (later : StandsFor pieces cs) :
      StandsFor (.unit value :: pieces) (Char.ofNat value :: cs)
  | pair {high low : Nat} {pieces : List Piece} {cs : List Char}
      (isHigh : isHighSurrogate high = true) (isLow : isLowSurrogate low = true)
      (later : StandsFor pieces cs) :
      StandsFor (.unit high :: .unit low :: pieces)
        (Char.ofNat (0x10000 + (high - 0xD800) * 0x400 + (low - 0xDC00)) :: cs)

def Spells (pieces : List Piece) (name : String) : Prop := StandsFor pieces name.toList

/-! ### Values -/

/-- A key, a colon and a value, with blanks around each. -/
def FieldSpelled (key : List Piece) (value : List Char → Prop) (cs : List Char) : Prop :=
  ∃ name content, cs = name ++ ':' :: content ∧ Padded (Quoted key) name ∧ Padded value content

mutual

def Tree.Spelled : Tree → List Char → Prop
  | .null, cs => cs = ['n', 'u', 'l', 'l']
  | .bool true, cs => cs = ['t', 'r', 'u', 'e']
  | .bool false, cs => cs = ['f', 'a', 'l', 's', 'e']
  | .number numeral, cs => numeral.Spelled cs
  | .text pieces, cs => Quoted pieces cs
  | .array [], cs => ∃ blank, cs = '[' :: blank ++ [']'] ∧ Blank blank
  | .array (item :: items), cs =>
    ∃ first rest, cs = '[' :: (first ++ rest) ++ [']'] ∧ Padded item.Spelled first ∧
      MoreItemsSpelled items rest
  | .object [], cs => ∃ blank, cs = '\x7b' :: blank ++ ['\x7d'] ∧ Blank blank
  | .object ((key, value) :: fields), cs =>
    ∃ first rest, cs = '\x7b' :: (first ++ rest) ++ ['\x7d'] ∧
      FieldSpelled key value.Spelled first ∧ MoreFieldsSpelled fields rest

def MoreItemsSpelled : List Tree → List Char → Prop
  | [], cs => cs = []
  | item :: items, cs =>
    ∃ first rest, cs = ',' :: (first ++ rest) ∧ Padded item.Spelled first ∧
      MoreItemsSpelled items rest

def MoreFieldsSpelled : List (List Piece × Tree) → List Char → Prop
  | [], cs => cs = []
  | (key, value) :: fields, cs =>
    ∃ first rest, cs = ',' :: (first ++ rest) ∧ FieldSpelled key value.Spelled first ∧
      MoreFieldsSpelled fields rest

end

/-- A text that holds one value and nothing else. -/
def Tree.Document (tree : Tree) (text : String) : Prop := Padded tree.Spelled text.toList

mutual

/-- A value within the limits of what can be kept: its numbers are finite, its texts and keys stand
for something, and no more containers are open at once than there is room for. -/
def Tree.Bounded : Nat → Tree → Prop
  | _, .null => True
  | _, .bool _ => True
  | _, .number numeral => numeral.number?.isSome = true
  | _, .text pieces => ∃ name, Spells pieces name
  | room, .array items => 0 < room ∧ ItemsBounded (room - 1) items
  | room, .object fields => 0 < room ∧ FieldsBounded (room - 1) fields

def ItemsBounded : Nat → List Tree → Prop
  | _, [] => True
  | room, item :: items => item.Bounded room ∧ ItemsBounded room items

def FieldsBounded : Nat → List (List Piece × Tree) → Prop
  | _, [] => True
  | room, (key, value) :: fields =>
    (∃ name, Spells key name) ∧ value.Bounded room ∧ FieldsBounded room fields

end

/-- A number without fraction and exponent, and other than `-0`. -/
def Numeral.IsInteger (numeral : Numeral) (n : Int) : Prop :=
  numeral.fraction = [] ∧ numeral.exponent = none ∧
    if numeral.negative then n = -Decimal.value numeral.whole ∧ n ≠ 0
    else n = Decimal.value numeral.whole

def Tree.IsInteger (tree : Tree) (n : Int) : Prop :=
  ∃ numeral, tree = .number numeral ∧ numeral.IsInteger n

end WordGame.Json
