import Mathlib.Data.Finset.Card
import Mathlib.Data.Set.Operations
import WordGame.Proofs.Dictionary.Normal

/-!
What a word list consists of. The words that it was made from count by their normal forms alone:
which texts are words, how many there are and which fragments can be drawn does not hang on their
order, nor on how often they are named (`contents_are_exact`).
-/

namespace WordGame

namespace WordList

/-- What can be learnt of a word list: which texts it takes for words, how many words it has, and
which fragments can be drawn. -/
structure Contents where
  words : Set String
  size : Nat
  fragments : Set String

def contents (list : WordList) : Contents where
  words := {text | list.isWord text = true}
  size := list.size
  fragments := Set.range list.randomFragment

def normals (words : List String) : Finset String := (words.map normalize).toFinset

/-- The contents that come of normal forms: these are the words, except for the empty one, and their
stretches of two or three characters the fragments. -/
def Contents.ofNormals (normals : Finset String) : Contents where
  words := {text | normalize text ≠ "" ∧ normalize text ∈ normals}
  size := (normals.erase "").card
  fragments :=
    {fragment | (fragment.length = 2 ∨ fragment.length = 3) ∧
      ∃ normal ∈ normals, fragment.toList <:+: normal.toList}

variable {words known : List String} {list : WordList} {word fragment : String}
  {chars part : List Char}

/-! ### The words -/

theorem add_eq (known : List String) (given : String) :
    add known given =
      if normalize given = "" ∨ normalize given ∈ known then known
      else known ++ [normalize given] := by
  unfold add
  simp only [Bool.or_eq_true, String.isEmpty_iff, List.contains_iff_mem]

theorem mem_add (known : List String) (given word : String) :
    word ∈ add known given ↔ word ∈ known ∨ word ≠ "" ∧ word = normalize given := by
  rw [add_eq]
  split
  · rename_i notNew
    refine (or_iff_left_of_imp ?_).symm
    rintro ⟨filled, rfl⟩
    exact notNew.resolve_left filled
  · rename_i new
    rw [List.mem_append, List.mem_singleton]
    refine or_congr_right (and_iff_right_of_imp ?_).symm
    rintro rfl blank
    exact new (.inl blank)

theorem nodup_add (distinct : known.Nodup) (given : String) : (add known given).Nodup := by
  rw [add_eq]
  split
  · exact distinct
  · rename_i new
    rw [← List.concat_eq_append]
    exact distinct.concat fun already => new (.inr already)

theorem mem_foldl_add (words known : List String) (word : String) :
    word ∈ words.foldl add known ↔ word ∈ known ∨ word ≠ "" ∧ word ∈ words.map normalize := by
  induction words generalizing known with
  | nil => simp
  | cons given rest ih =>
    rw [List.foldl_cons, ih, mem_add, List.map_cons, List.mem_cons, or_assoc, and_or_left]

theorem nodup_foldl_add (words : List String) (distinct : known.Nodup) :
    (words.foldl add known).Nodup := by
  induction words generalizing known with
  | nil => exact distinct
  | cons given rest ih =>
    rw [List.foldl_cons]
    exact ih (nodup_add distinct given)

theorem mem_foldl_add_nil : word ∈ words.foldl add [] ↔ word ≠ "" ∧ word ∈ normals words := by
  rw [mem_foldl_add, normals, List.mem_toFinset]
  exact or_iff_right List.not_mem_nil

theorem mem_words_of_ok (made : ofWords words = .ok list) :
    word ∈ list.words ↔ word ≠ "" ∧ word ∈ normals words := by
  rw [words_of_ok made, mem_foldl_add_nil]

theorem size_of_ok (made : ofWords words = .ok list) :
    list.size = ((normals words).erase "").card := by
  have distinct : list.words.Nodup := by
    rw [words_of_ok made]
    exact nodup_foldl_add words List.nodup_nil
  rw [size, ← List.toFinset_card_of_nodup distinct]
  refine congrArg Finset.card (Finset.ext ?_)
  intro word
  rw [List.mem_toFinset, mem_words_of_ok made, Finset.mem_erase]

theorem mem_sources : word ∈ list.sources ↔ word ∈ list.words ∧ 2 ≤ word.length := by
  rw [sources, List.mem_filter, offersFragment, decide_eq_true_eq]
  rfl

theorem sources_foldl_add_eq_nil_iff :
    (⟨words.foldl add []⟩ : WordList).sources = [] ↔
      ∀ normal ∈ normals words, normal.length < 2 := by
  rw [List.eq_nil_iff_forall_not_mem]
  constructor
  · intro none normal given
    refine Nat.lt_of_not_le fun long => none normal (mem_sources.mpr ⟨?_, long⟩)
    refine mem_foldl_add_nil.mpr ⟨?_, given⟩
    rintro rfl
    cases long
  · intro short word source
    obtain ⟨member, long⟩ := mem_sources.mp source
    exact Nat.not_le_of_lt (short word (mem_foldl_add_nil.mp member).2) long

/-! ### The fragments -/

theorem exists_take_drop_of_infix (inside : part <:+: chars) :
    ∃ start, start + part.length ≤ chars.length ∧ (chars.drop start).take part.length = part := by
  obtain ⟨before, after, rfl⟩ := inside
  refine ⟨before.length, ?_, ?_⟩
  · simp only [List.length_append]
    omega
  · rw [List.append_assoc, List.drop_left, List.take_left]

theorem length_of_mem_fragmentsOf (long : 2 ≤ chars.length) (drawn : part ∈ fragmentsOf chars) :
    part.length = 2 ∨ part.length = 3 := by
  have two : minFragment = 2 := rfl
  have three : maxFragment = 3 := rfl
  unfold fragmentsOf at drawn
  split at drawn
  · rw [List.mem_singleton.mp drawn]
    omega
  · obtain ⟨extra, fewer, cut⟩ := List.mem_flatMap.mp drawn
    obtain ⟨start, early, rfl⟩ := List.mem_map.mp cut
    rw [List.mem_range] at fewer early
    rw [List.length_take, List.length_drop]
    omega

theorem mem_fragmentsOf_of_infix (size : part.length = 2 ∨ part.length = 3)
    (inside : part <:+: chars) : part ∈ fragmentsOf chars := by
  have two : minFragment = 2 := rfl
  have three : maxFragment = 3 := rfl
  have shorter : part.length ≤ chars.length := inside.length_le
  unfold fragmentsOf
  split
  · exact List.mem_singleton.mpr (inside.eq_of_length_le (by omega))
  · obtain ⟨start, fits, cut⟩ := exists_take_drop_of_infix inside
    have length : minFragment + (part.length - minFragment) = part.length := by omega
    refine List.mem_flatMap.mpr ⟨part.length - minFragment, List.mem_range.mpr (by omega), ?_⟩
    refine List.mem_map.mpr ⟨start, List.mem_range.mpr (by omega), ?_⟩
    rw [length]
    exact cut

/-- The fragments of a word are its stretches of two or three characters. -/
theorem mem_fragmentsOf_iff (long : 2 ≤ chars.length) :
    part ∈ fragmentsOf chars ↔ (part.length = 2 ∨ part.length = 3) ∧ part <:+: chars := by
  constructor
  · intro drawn
    exact ⟨length_of_mem_fragmentsOf long drawn, infix_of_mem_fragmentsOf drawn⟩
  · intro both
    exact mem_fragmentsOf_of_infix both.1 both.2

theorem fragmentOf_mem (draw : Draw) (chars : List Char) :
    fragmentOf draw chars ∈ fragmentsOf chars := by
  unfold fragmentOf fragmentsOf
  split
  · exact List.mem_singleton_self chars
  · rename_i longer
    have lengths : 0 < min chars.length maxFragment + 1 - minFragment := by
      have two : minFragment = 2 := rfl
      have three : maxFragment = 3 := rfl
      omega
    refine List.mem_flatMap.mpr ⟨_, List.mem_range.mpr (Nat.mod_lt draw.length lengths), ?_⟩
    exact List.mem_map.mpr ⟨_, List.mem_range.mpr (Nat.mod_lt draw.start (Nat.succ_pos _)), rfl⟩

/-- No choice is left out: some draw leads to each fragment of a word, whatever number picks the
word. -/
theorem exists_draw_of_mem (number : Nat) (drawn : part ∈ fragmentsOf chars) :
    ∃ draw : Draw, draw.word = number ∧ fragmentOf draw chars = part := by
  unfold fragmentsOf at drawn
  unfold fragmentOf
  split at drawn
  · rename_i short
    refine ⟨⟨number, 0, 0⟩, rfl, ?_⟩
    rw [if_pos short]
    exact (List.mem_singleton.mp drawn).symm
  · rename_i longer
    obtain ⟨extra, fewer, cut⟩ := List.mem_flatMap.mp drawn
    obtain ⟨start, early, rfl⟩ := List.mem_map.mp cut
    refine ⟨⟨number, extra, start⟩, rfl, ?_⟩
    rw [if_neg longer]
    dsimp only
    rw [Nat.mod_eq_of_lt (List.mem_range.mp fewer), Nat.mod_eq_of_lt (List.mem_range.mp early)]

theorem mem_range_randomFragment (offers : list.sources ≠ []) :
    fragment ∈ Set.range list.randomFragment ↔ fragment ∈ list.fragments := by
  rw [mem_fragments]
  constructor
  · rintro ⟨draw, rfl⟩
    have within : draw.word % list.sources.length < list.sources.length :=
      Nat.mod_lt _ (List.length_pos_iff.mpr offers)
    rw [randomFragment, List.getElem?_eq_getElem within]
    refine ⟨_, List.getElem_mem within, ?_⟩
    rw [String.toList_ofList]
    exact fragmentOf_mem draw _
  · rintro ⟨word, source, drawn⟩
    obtain ⟨place, within, here⟩ := List.getElem_of_mem source
    obtain ⟨draw, same, cut⟩ := exists_draw_of_mem place drawn
    refine ⟨draw, ?_⟩
    rw [randomFragment, same, Nat.mod_eq_of_lt within, List.getElem?_eq_getElem within, here]
    change String.ofList (fragmentOf draw word.toList) = fragment
    rw [cut, String.ofList_toList]

theorem mem_fragments_of_ok (made : ofWords words = .ok list) :
    fragment ∈ list.fragments ↔
      (fragment.length = 2 ∨ fragment.length = 3) ∧
        ∃ normal ∈ normals words, fragment.toList <:+: normal.toList := by
  rw [mem_fragments]
  constructor
  · rintro ⟨word, source, drawn⟩
    obtain ⟨member, long⟩ := mem_sources.mp source
    obtain ⟨size, inside⟩ := (mem_fragmentsOf_iff long).mp drawn
    exact ⟨size, word, ((mem_words_of_ok made).mp member).2, inside⟩
  · rintro ⟨size, normal, given, inside⟩
    have long : 2 ≤ normal.length := by
      have shorter : fragment.length ≤ normal.length := inside.length_le
      omega
    refine ⟨normal, mem_sources.mpr ⟨(mem_words_of_ok made).mpr ⟨?_, given⟩, long⟩,
      (mem_fragmentsOf_iff long).mpr ⟨size, inside⟩⟩
    rintro rfl
    cases long

/-! ### The list -/

theorem contents_of_ok (made : ofWords words = .ok list) (offers : list.sources ≠ []) :
    list.contents = .ofNormals (normals words) := by
  unfold contents Contents.ofNormals
  congr 1
  · refine Set.ext fun text => ?_
    change list.words.contains (normalize text) = true ↔ _
    rw [List.contains_iff_mem, mem_words_of_ok made]
    rfl
  · exact size_of_ok made
  · refine Set.ext fun fragment => ?_
    rw [mem_range_randomFragment offers, mem_fragments_of_ok made]
    rfl

theorem ofWords_of_short (short : ∀ normal ∈ normals words, normal.length < 2) :
    ofWords words = .error .empty := by
  unfold ofWords
  exact if_pos (List.isEmpty_iff.mpr (sources_foldl_add_eq_nil_iff.mpr short))

theorem exists_ofWords_of_long (long : ∃ normal ∈ normals words, 2 ≤ normal.length) :
    ∃ list, ofWords words = .ok list ∧ list.contents = .ofNormals (normals words) := by
  obtain ⟨normal, given, size⟩ := long
  have offers : (⟨words.foldl add []⟩ : WordList).sources ≠ [] := fun none =>
    Nat.not_lt.mpr size (sources_foldl_add_eq_nil_iff.mp none normal given)
  have made : ofWords words = .ok ⟨words.foldl add []⟩ := by
    unfold ofWords
    exact if_neg (mt List.isEmpty_iff.mp offers)
  exact ⟨_, made, contents_of_ok made offers⟩

theorem ofWords_eq_error_iff :
    ofWords words = .error .empty ↔ ∀ normal ∈ normals words, normal.length < 2 := by
  refine ⟨?_, ofWords_of_short⟩
  intro refused normal given
  refine Nat.lt_of_not_le fun long => ?_
  obtain ⟨list, made, _⟩ := exists_ofWords_of_long ⟨normal, given, long⟩
  cases refused.symm.trans made

/-- A list of words is refused exactly if no normal form has two characters, and otherwise consists
of the normal forms. So another list with the same normal forms, in whatever order and however
often, makes no difference. -/
theorem contents_are_exact (words : List String) :
    (ofWords words = .error .empty ↔ ∀ normal ∈ normals words, normal.length < 2) ∧
      ((∃ normal ∈ normals words, 2 ≤ normal.length) →
        ∃ list, ofWords words = .ok list ∧ list.contents = .ofNormals (normals words)) ∧
        ∀ others, normals others = normals words →
          (ofWords others).map contents = (ofWords words).map contents := by
  refine ⟨ofWords_eq_error_iff, exists_ofWords_of_long, ?_⟩
  intro others same
  by_cases long : ∃ normal ∈ normals words, 2 ≤ normal.length
  · obtain ⟨list, made, consists⟩ := exists_ofWords_of_long long
    rw [← same] at long
    obtain ⟨other, madeToo, consistsToo⟩ := exists_ofWords_of_long long
    rw [made, madeToo]
    change Except.ok other.contents = Except.ok list.contents
    rw [consists, consistsToo, same]
  · have short : ∀ normal ∈ normals words, normal.length < 2 := fun normal given =>
      Nat.lt_of_not_le fun size => long ⟨normal, given, size⟩
    rw [ofWords_of_short short, ofWords_of_short (same ▸ short)]

/-- Words of which two come to the same, one becomes longer and one is blank, and the same in other
letters. -/
theorem contents_are_exact_of_greek :
    let words := [" ΟΔΟΣ\u3000", "\u0130Z", "οδος", "A", " "]
    let others := ["a", "i\u0307z", "", "ΟδοΣ"]
    (∃ normal ∈ normals words, 2 ≤ normal.length) ∧ normals others = normals words ∧
      (∃ list, ofWords words = .ok list ∧ list.contents = .ofNormals (normals words)) ∧
        (ofWords others).map contents = (ofWords words).map contents := by
  intro words others
  have long : ∃ normal ∈ normals words, 2 ≤ normal.length := by decide +kernel
  have same : normals others = normals words := by decide +kernel
  obtain ⟨_, consists, independent⟩ := contents_are_exact words
  exact ⟨long, same, consists long, independent others same⟩

end WordList

end WordGame
