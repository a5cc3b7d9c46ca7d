import WordGame.Text.Lowercase
import WordGame.Text.Occurs

/-!
What a game asks of a dictionary: whether a text is a word, and whether a fragment occurs in it.
-/

namespace WordGame

structure Dictionary where
  isWord : String → Bool
  containsFragment : String → String → Bool

def containsFragment (word fragment : String) : Bool :=
  Text.occurs (Text.lowerChars fragment.toList) (Text.lowerChars word.toList)

end WordGame
