import WordGame.Proofs.Dictionary.Normal
import WordGame.Proofs.Text.Sigma

/-!
Letters around a fragment. They hide it only by giving one of its capital sigmas another form, so a
fragment that was drawn from a word list is found wherever it stands.
-/

namespace WordGame

theorem containsFragment_iff (word fragment : String) :
    containsFragment word fragment = true ↔
      Text.lowerChars fragment.toList <:+: Text.lowerChars word.toList :=
  Text.occurs_iff

/-- A fragment is found in the word that it was put into, if its capital sigmas have the same form
there as in the fragment alone. -/
theorem surrounded_fragment_is_found (before fragment after : String)
    (keeps : Text.KeepsSigmas before.toList fragment.toList after.toList) :
    containsFragment (before ++ fragment ++ after) fragment = true := by
  rw [containsFragment_iff, String.toList_append, String.toList_append]
  exact keeps.isInfix

/-- Capital sigmas inside the fragment, and a final one at its end and that of the word. -/
theorem surrounded_fragment_is_found_at_word_end :
    Text.KeepsSigmas "ΟΔ".toList "ΥΣΣΕΥΣ".toList "!".toList ∧
      containsFragment ("ΟΔ" ++ "ΥΣΣΕΥΣ" ++ "!") "ΥΣΣΕΥΣ" = true := by
  have keeps : Text.KeepsSigmas "ΟΔ".toList "ΥΣΣΕΥΣ".toList "!".toList := by
    decide +kernel
  exact ⟨keeps, surrounded_fragment_is_found _ _ _ keeps⟩

/-- A letter before a capital sigma makes it final, and then it is not found where it stands. -/
theorem letter_before_sigma_hides_it :
    ¬∀ before fragment after : String,
      containsFragment (before ++ fragment ++ after) fragment = true := by
  intro always
  have found := always "Α" "Σ" ""
  exact absurd found (by decide +kernel)

/-- Whatever is put around a fragment that was drawn from a word list, it is found. -/
theorem drawn_fragment_is_found {words : List String} {list : WordList} {fragment : String}
    (made : WordList.ofWords words = .ok list) (drawn : fragment ∈ list.fragments)
    (before after : String) : containsFragment (before ++ fragment ++ after) fragment = true := by
  obtain ⟨word, member, _, inside⟩ := WordList.exists_word_of_mem_fragments drawn
  have normal := WordList.isNormal_of_mem made member
  have notSigma : '\u03a3' ∉ fragment.toList :=
    fun sigma => (normal.settled _ (inside.subset sigma)).notSigma rfl
  rw [containsFragment_iff, String.toList_append, String.toList_append]
  exact (Text.keepsSigmas_of_notMem notSigma before.toList after.toList).isInfix

end WordGame
