import WordGame.Text.Cased
import WordGame.Text.CaseMap

/-!
Lower-casing of whole texts.

Each character goes to its lower-case form on its own, with two exceptions: the dotted capital I
becomes an i followed by a combining dot, and a capital sigma becomes the final form when a cased
character stands before it and none follows, case-ignorable characters being passed over on both
sides (the condition Final_Sigma).
-/

namespace WordGame.Text

/-- Whether a cased character comes first, once the case-ignorable ones are passed over. -/
def casedFirst (cs : List Char) : Bool :=
  match cs.dropWhile isCaseIgnorable with
  | [] => false
  | c :: _ => isCased c

/-- The lower-case form of one character between what stands before it, read backwards, and what
follows it. -/
def lowerChar (before : List Char) (c : Char) (after : List Char) : List Char :=
  if c = '\u03a3' then
    if casedFirst before && !casedFirst after then ['\u03c2'] else ['\u03c3']
  else if c = '\u0130' then ['i', '\u0307']
  else [toLowerSimple c]

/-- Lower-cases what follows the characters `before`, which are listed backwards. -/
def lowerAfter (before : List Char) : List Char → List Char
  | [] => []
  | c :: rest => lowerChar before c rest ++ lowerAfter (c :: before) rest

def lowerChars (cs : List Char) : List Char := lowerAfter [] cs

def lowercase (text : String) : String := String.ofList (lowerChars text.toList)

end WordGame.Text
