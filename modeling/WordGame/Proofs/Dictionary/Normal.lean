import WordGame.Dictionary.WordList
import WordGame.Proofs.Text.Lowercase

/-!
The words of a word list and the fragments that are drawn from them. The words are in normal form:
trimmed, and in lower case wherever they are cut. So a word that a fragment was drawn from contains
it, and both are found again when they are compared.
-/

namespace WordGame

/-- No blank stands at either end, and all is in lower case. -/
structure IsNormal (word : String) : Prop where
  trimmed : Text.Trimmed word.toList
  settled : ∀ c ∈ word.toList, Text.Settled c

theorem toList_normalize (word : String) :
    (normalize word).toList = Text.lowerChars (Text.trimChars word.toList) := by
  rw [normalize, Text.lowercase, String.toList_ofList, Text.trim, String.toList_ofList]

theorem normalize_isNormal (word : String) : IsNormal (normalize word) := by
  constructor
  · rw [toList_normalize]
    exact (Text.trimChars_trimmed word.toList).lowerChars
  · intro c member
    rw [toList_normalize] at member
    exact Text.settled_of_mem_lowerChars member

namespace IsNormal

variable {word : String}

theorem lowerChars (normal : IsNormal word) : Text.lowerChars word.toList = word.toList :=
  Text.lowerChars_of_settled normal.settled

theorem normalize (normal : IsNormal word) : normalize word = word := by
  apply String.toList_inj.mp
  rw [toList_normalize, normal.trimmed.trimChars, normal.lowerChars]

theorem trim (normal : IsNormal word) {before after : String}
    (leading : ∀ c ∈ before.toList, Text.isBlank c = true)
    (trailing : ∀ c ∈ after.toList, Text.isBlank c = true) :
    Text.trim (before ++ word ++ after) = word := by
  rw [Text.trim, String.toList_append, String.toList_append,
    Text.trimChars_append_blanks leading trailing, normal.trimmed.trimChars, String.ofList_toList]

theorem containsFragment (normal : IsNormal word) {fragment : String}
    (inside : fragment.toList <:+: word.toList) : containsFragment word fragment = true := by
  have settled : ∀ c ∈ fragment.toList, Text.Settled c :=
    fun c member => normal.settled c (inside.subset member)
  rw [WordGame.containsFragment, normal.lowerChars, Text.lowerChars_of_settled settled,
    Text.occurs_iff]
  exact inside

end IsNormal

namespace WordList

variable {words : List String} {list : WordList} {word fragment : String}

theorem isNormal_of_mem_foldl_add (known : List String) (normal : ∀ word ∈ known, IsNormal word) :
    ∀ word ∈ words.foldl add known, IsNormal word := by
  induction words generalizing known with
  | nil => exact normal
  | cons first rest ih =>
    rw [List.foldl_cons]
    refine ih (add known first) ?_
    intro word member
    unfold add at member
    dsimp only at member
    split at member
    · exact normal word member
    · rcases List.mem_append.mp member with already | new
      · exact normal word already
      · rw [List.mem_singleton.mp new]
        exact normalize_isNormal first

theorem words_of_ok (made : ofWords words = .ok list) : list.words = words.foldl add [] := by
  unfold ofWords at made
  dsimp only at made
  split at made
  · cases made
  · cases made
    rfl

theorem isNormal_of_mem (made : ofWords words = .ok list) (member : word ∈ list.words) :
    IsNormal word := by
  rw [words_of_ok made] at member
  exact isNormal_of_mem_foldl_add [] (List.forall_mem_nil _) word member

theorem isWord_of_mem (normal : IsNormal word) (member : word ∈ list.words) :
    list.isWord word = true := by
  rw [isWord, normal.normalize]
  exact List.contains_iff_mem.mpr member

theorem mem_fragments :
    fragment ∈ list.fragments ↔
      ∃ word ∈ list.sources, fragment.toList ∈ fragmentsOf word.toList := by
  rw [fragments, Table.mem_keys, Table.contains_ofList, List.map_map]
  simp only [List.mem_map, List.mem_flatMap, Function.comp_apply]
  constructor
  · rintro ⟨_, ⟨word, source, part, drawn, rfl⟩, rfl⟩
    refine ⟨word, source, ?_⟩
    rw [String.toList_ofList]
    exact drawn
  · rintro ⟨word, source, drawn⟩
    exact ⟨fragment, ⟨word, source, fragment.toList, drawn, String.ofList_toList⟩, rfl⟩

theorem infix_of_mem_fragmentsOf {chars part : List Char} (drawn : part ∈ fragmentsOf chars) :
    part <:+: chars := by
  unfold fragmentsOf at drawn
  split at drawn
  · obtain rfl := List.mem_singleton.mp drawn
    exact List.infix_rfl
  · obtain ⟨extra, _, cut⟩ := List.mem_flatMap.mp drawn
    obtain ⟨start, _, rfl⟩ := List.mem_map.mp cut
    exact (List.take_prefix _ _).isInfix.trans (List.drop_suffix _ _).isInfix

theorem exists_word_of_mem_fragments (drawn : fragment ∈ list.fragments) :
    ∃ word ∈ list.words, word.isEmpty = false ∧ fragment.toList <:+: word.toList := by
  obtain ⟨word, source, part⟩ := mem_fragments.mp drawn
  obtain ⟨member, long⟩ := List.mem_filter.mp source
  refine ⟨word, member, ?_, infix_of_mem_fragmentsOf part⟩
  rw [String.isEmpty_eq_false_iff]
  rintro rfl
  cases long

end WordList

end WordGame
