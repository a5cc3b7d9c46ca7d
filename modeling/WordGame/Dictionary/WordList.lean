import WordGame.Dictionary.Basic
import WordGame.Table
import WordGame.Text.Blank
import WordGame.Text.Utf8

/-!
A dictionary made from a list of words.

Words are compared trimmed and in lower case. A fragment is a stretch of two or three characters of
a word; a list without a word of two characters has no fragment to offer and is refused.
-/

namespace WordGame

inductive WordListError where
  | notFound
  | isDirectory
  | invalidPath
  | nameTooLong
  | notText
  | empty
  deriving DecidableEq, Repr

def WordListError.message : WordListError → String
  | .notFound => "there is no such file"
  | .isDirectory => "a directory is not a word list"
  | .invalidPath => "the path is not valid"
  | .nameTooLong => "the path or a name in it is too long"
  | .notText => "the file is not text"
  | .empty => "word list contains no words long enough to draw fragments from"

def normalize (word : String) : String := Text.lowercase (Text.trim word)

def minFragment : Nat := 2

def maxFragment : Nat := 3

structure WordList where
  /-- The normal forms of the words, without repetition. -/
  words : List String
  deriving DecidableEq, Repr

namespace WordList

def add (words : List String) (word : String) : List String :=
  let normal := normalize word
  if normal.isEmpty || words.contains normal then words else words ++ [normal]

def offersFragment (word : String) : Bool := minFragment ≤ word.length

def sources (list : WordList) : List String := list.words.filter offersFragment

def ofWords (words : List String) : Except WordListError WordList :=
  let list : WordList := ⟨words.foldl add []⟩
  if list.sources.isEmpty then .error .empty else .ok list

def size (list : WordList) : Nat := list.words.length

def isEmpty (list : WordList) : Bool := list.words.isEmpty

def isWord (list : WordList) (word : String) : Bool := list.words.contains (normalize word)

/-- The fragments of one word: the word itself if it is short, otherwise every stretch of an
admissible length from every position. -/
def fragmentsOf (word : List Char) : List (List Char) :=
  if word.length ≤ minFragment then [word]
  else
    (List.range (min word.length maxFragment + 1 - minFragment)).flatMap fun extra =>
      let length := minFragment + extra
      (List.range (word.length - length + 1)).map fun start => (word.drop start).take length

/-- The fragments that can be drawn, once each and in ascending order. -/
def fragments (list : WordList) : List String :=
  let drawn := list.sources.flatMap fun word => (fragmentsOf word.toList).map String.ofList
  (Table.ofList (drawn.map fun fragment => (fragment, ()))).keys

/-- The random numbers of one draw. Each is counted round the choices that are open to it. -/
structure Draw where
  word : Nat
  length : Nat
  start : Nat
  deriving DecidableEq, Repr

def fragmentOf (draw : Draw) (word : List Char) : List Char :=
  if word.length ≤ minFragment then word
  else
    let length := minFragment + draw.length % (min word.length maxFragment + 1 - minFragment)
    (word.drop (draw.start % (word.length - length + 1))).take length

def randomFragment (list : WordList) (draw : Draw) : String :=
  match list.sources[draw.word % list.sources.length]? with
  | some word => String.ofList (fragmentOf draw word.toList)
  | none => ""

def dictionary (list : WordList) : Dictionary := ⟨list.isWord, containsFragment⟩

/-- The lines of a text: each ends with a line feed, and a carriage return before that belongs to
the end. Nothing behind the last line feed is no line. -/
def lines (text : List Char) : List (List Char) :=
  match text with
  | [] => []
  | c :: rest =>
    if c = '\n' then [] :: lines rest
    else
      match rest, lines rest with
      | '\n' :: _, later => if c = '\r' then later else prepend c later
      | _, later => prepend c later
where
  prepend (c : Char) : List (List Char) → List (List Char)
    | [] => [[c]]
    | line :: later => (c :: line) :: later

/-- What a path leads to, by its bytes or why there are none. -/
abbrev FileTree := String → Except WordListError (List UInt8)

/-- Whether a path component stays at a directory that is already there: an empty one, the directory
itself, or the one above. -/
def isStep (component : List Char) : Bool :=
  component = [] || component = ['.'] || component = ['.', '.']

def maxNameBytes : Nat := 255

def maxPathBytes : Nat := 4095

/-- A tree without files: the components of a path to a directory can only stay where they are or go
up, and every other path ends at the first name in it. -/
def bareTree : FileTree := fun path =>
  if path.toList.contains '\x00' then .error .invalidPath
  else if path.isEmpty then .error .notFound
  else if maxPathBytes < path.utf8ByteSize then .error .nameTooLong
  else
    match (path.toList.splitOn '/').find? (!isStep ·) with
    | none => .error .isDirectory
    | some name =>
      if maxNameBytes < (String.ofList name).utf8ByteSize then .error .nameTooLong
      else .error .notFound

def ofBytes (bytes : List UInt8) : Except WordListError WordList :=
  match Text.Utf8.decode? bytes with
  | none => .error .notText
  | some text => ofWords ((lines text.toList).map String.ofList)

def load (tree : FileTree) (path : String) : Except WordListError WordList := tree path >>= ofBytes

end WordList

end WordGame
