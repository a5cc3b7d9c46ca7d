import WordGame.Proofs.Json.Words

/-!
Trees as sequences of tokens. Main statement: a text is a document of a tree exactly if scanning
gives the tokens of that tree (`tokens_eq_iff_document`).
-/

namespace WordGame.Json

mutual

def Tree.tokens : Tree → List Token
  | .null => [.null]
  | .bool value => [.bool value]
  | .number numeral => [.number numeral]
  | .text pieces => [.text pieces none]
  | .array [] => [.beginArray, .endArray]
  | .array (item :: items) => .beginArray :: (item.tokens ++ moreItemTokens items ++ [.endArray])
  | .object [] => [.beginObject, .endObject]
  | .object ((key, value) :: fields) =>
    .beginObject :: .text key none :: .colon ::
      (value.tokens ++ moreFieldTokens fields ++ [.endObject])

def moreItemTokens : List Tree → List Token
  | [] => []
  | item :: items => .comma :: (item.tokens ++ moreItemTokens items)

def moreFieldTokens : List (List Piece × Tree) → List Token
  | [] => []
  | (key, value) :: fields =>
    .comma :: .text key none :: .colon :: (value.tokens ++ moreFieldTokens fields)

end

def itemTokens : List Tree → List Token
  | [] => []
  | item :: items => item.tokens ++ moreItemTokens items

def fieldTokens : List (List Piece × Tree) → List Token
  | [] => []
  | (key, value) :: fields => .text key none :: .colon :: (value.tokens ++ moreFieldTokens fields)

theorem Tree.tokens_array (items : List Tree) (rest : List Token) :
    (Tree.array items).tokens ++ rest = .beginArray :: (itemTokens items ++ .endArray :: rest) := by
  cases items with
  | nil => rfl
  | cons item items => simp [Tree.tokens, itemTokens]

theorem Tree.tokens_object (fields : List (List Piece × Tree)) (rest : List Token) :
    (Tree.object fields).tokens ++ rest =
      .beginObject :: (fieldTokens fields ++ .endObject :: rest) := by
  cases fields with
  | nil => rfl
  | cons field fields => simp [Tree.tokens, fieldTokens]

/-! ### One token -/

/-- The text of a token; one that records a fault has none. -/
def Token.Spelled : Token → List Char → Prop
  | .beginObject, cs => cs = ['\x7b']
  | .endObject, cs => cs = ['\x7d']
  | .beginArray, cs => cs = ['[']
  | .endArray, cs => cs = [']']
  | .colon, cs => cs = [':']
  | .comma, cs => cs = [',']
  | .null, cs => cs = ['n', 'u', 'l', 'l']
  | .bool true, cs => cs = ['t', 'r', 'u', 'e']
  | .bool false, cs => cs = ['f', 'a', 'l', 's', 'e']
  | .number numeral, cs => numeral.Spelled cs
  | .text pieces none, cs => Quoted pieces cs
  | _, _ => False

def Token.IsSound : Token → Prop
  | .brokenNumber _ => False
  | .brokenWord _ => False
  | .text _ (some _) => False
  | .stray _ => False
  | _ => True

theorem Blank.of_cons {c : Char} {cs : List Char} (blank : Blank (c :: cs)) :
    isSpace c = true ∧ Blank cs := by
  constructor
  · simpa [isSpace] using blank c List.mem_cons_self
  · exact fun d member => blank d (List.mem_cons_of_mem c member)

theorem blank_cons {c : Char} {cs : List Char} (space : isSpace c = true) (blank : Blank cs) :
    Blank (c :: cs) := by
  intro d member
  rcases List.mem_cons.mp member with rfl | later
  · simpa [isSpace] using space
  · exact blank d later

theorem blank_nil : Blank [] := fun _ member => nomatch member

theorem tokens_blank {blank : List Char} (cs : List Char) (isBlank : Blank blank) :
    tokens (blank ++ cs) = tokens cs := by
  induction blank with
  | nil => rfl
  | cons c rest ih =>
    obtain ⟨space, restBlank⟩ := isBlank.of_cons
    rw [List.cons_append, tokens, if_pos space, ih restBlank]

/-- Blanks do not carry a number on. -/
theorem Ends.blank {blank rest : List Char} (isBlank : Blank blank) (ends : Ends rest) :
    Ends (blank ++ rest) := by
  cases blank with
  | nil => exact ends
  | cons c cs =>
    intro d first
    cases first
    rcases isBlank c List.mem_cons_self with rfl | rfl | rfl | rfl
    all_goals decide

theorem tokens_scan {c : Char} {rest after : List Char} {token : Token} (solid : isSpace c = false)
    (scanned : scanToken c rest = (token, after)) : tokens (c :: rest) = token :: tokens after := by
  rw [tokens, solid, if_neg Bool.false_ne_true, scanned]

theorem eq_of_scanWord {word cs rest : List Char} (scanned : scanWord word cs = .ok rest) :
    cs = word ++ rest := by
  fun_induction scanWord word cs with
  | case1 cs =>
    cases scanned
    rfl
  | case2 | case4 => cases scanned
  | case3 word c cs ih => rw [ih scanned, List.cons_append]

/-- The first character of a number is its sign or a digit. -/
theorem MagnitudeSpelled.begins {numeral : Numeral} {cs : List Char}
    (spelled : MagnitudeSpelled numeral cs) :
    ∃ d rest, d < 10 ∧ cs = Decimal.digitChar d :: rest := by
  obtain ⟨digits, _, fraction, exponent, _, _, rfl⟩ := spelled
  cases whole : numeral.whole with
  | nil => exact absurd whole digits.1
  | cons d tail =>
    exact ⟨d, _, digits.2 d (by rw [whole]; exact List.mem_cons_self), rfl⟩

theorem scanToken_digit {d : Nat} (small : d < 10) (rest : List Char) :
    isSpace (Decimal.digitChar d) = false ∧
      scanToken (Decimal.digitChar d) rest =
        numberToken (scanMagnitude false (Decimal.digitChar d :: rest)) := by
  have all : ∀ d < 10, isSpace (Decimal.digitChar d) = false ∧
      (Decimal.digit? (Decimal.digitChar d)).isSome = true := by decide
  refine ⟨(all d small).1, ?_⟩
  have cases : d = 0 ∨ d = 1 ∨ d = 2 ∨ d = 3 ∨ d = 4 ∨ d = 5 ∨ d = 6 ∨ d = 7 ∨ d = 8 ∨ d = 9 := by
    omega
  rcases cases with rfl | rfl | rfl | rfl | rfl | rfl | rfl | rfl | rfl | rfl
  all_goals rfl

theorem tokens_number {numeral : Numeral} {word rest : List Char} (spelled : numeral.Spelled word)
    (ends : Ends rest) : tokens (word ++ rest) = .number numeral :: tokens rest := by
  unfold Numeral.Spelled at spelled
  split at spelled
  · rename_i negative
    obtain ⟨magnitude, rfl, magnitudeSpelled⟩ := spelled
    have scanned := scanMagnitude_spelled magnitudeSpelled ends
    rw [negative] at scanned
    refine tokens_scan rfl ?_
    change numberToken (scanMagnitude true (magnitude ++ rest)) = _
    rw [scanned]
    rfl
  · rename_i positive
    have scanned := scanMagnitude_spelled spelled ends
    obtain ⟨d, digits, small, rfl⟩ := spelled.begins
    rw [eq_false_of_ne_true positive] at scanned
    obtain ⟨solid, same⟩ := scanToken_digit small (digits ++ rest)
    refine tokens_scan solid (same.trans ?_)
    rw [← List.cons_append, scanned]
    rfl

theorem tokens_quoted {pieces : List Piece} {word : List Char} (rest : List Char)
    (quoted : Quoted pieces word) : tokens (word ++ rest) = .text pieces none :: tokens rest := by
  obtain ⟨inner, rfl, spelled⟩ := quoted
  have whole : '"' :: inner ++ ['"'] ++ rest = '"' :: (inner ++ '"' :: rest) := by simp
  rw [whole]
  refine tokens_scan rfl ?_
  change (Token.text (scanText _).pieces _, _) = _
  rw [scanText_spelled rest spelled]

/-- A sound token that was scanned has its text at the front. -/
theorem spelled_of_scanToken {c : Char} {rest after : List Char} {token : Token}
    (scanned : scanToken c rest = (token, after)) (sound : token.IsSound) :
    ∃ word, c :: rest = word ++ after ∧ token.Spelled word := by
  have word {token found : Token} {letters : List Char} {first : Char}
      (here : wordToken token (scanWord letters rest) = (found, after)) (sound : found.IsSound)
      (spelled : token.Spelled (first :: letters)) :
      ∃ word, first :: rest = word ++ after ∧ found.Spelled word := by
    cases spelt : scanWord letters rest with
    | error flaw =>
      rw [spelt] at here
      cases here
      cases sound
    | ok left =>
      rw [spelt] at here
      cases here
      exact ⟨first :: letters, by rw [eq_of_scanWord spelt]; rfl, spelled⟩
  unfold scanToken at scanned
  split at scanned
  · cases scanned
    exact ⟨['\x7b'], rfl, rfl⟩
  · cases scanned
    exact ⟨['\x7d'], rfl, rfl⟩
  · cases scanned
    exact ⟨['['], rfl, rfl⟩
  · cases scanned
    exact ⟨[']'], rfl, rfl⟩
  · cases scanned
    exact ⟨[':'], rfl, rfl⟩
  · cases scanned
    exact ⟨[','], rfl, rfl⟩
  · exact word scanned sound rfl
  · exact word scanned sound rfl
  · exact word scanned sound rfl
  · dsimp only at scanned
    cases found : scanText rest with
    | mk pieces flaw left =>
      rw [found] at scanned
      cases scanned
      cases flaw with
      | some flaw => cases sound
      | none =>
        obtain ⟨inner, same, spelled⟩ := spelled_of_scanText found
        exact ⟨'"' :: inner ++ ['"'], by simp [same], inner, rfl, spelled⟩
  · cases found : scanMagnitude true rest with
    | error flaw =>
      rw [found] at scanned
      cases scanned
      cases sound
    | ok pair =>
      rw [found] at scanned
      cases scanned
      obtain ⟨negative, magnitude, same, spelled⟩ := spelled_of_scanMagnitude found
      refine ⟨'-' :: magnitude, by rw [same]; rfl, ?_⟩
      change Numeral.Spelled _ _
      rw [Numeral.Spelled, if_pos negative]
      exact ⟨magnitude, rfl, spelled⟩
  · split at scanned
    · cases found : scanMagnitude false (c :: rest) with
      | error flaw =>
        rw [found] at scanned
        cases scanned
        cases sound
      | ok pair =>
        rw [found] at scanned
        cases scanned
        obtain ⟨positive, magnitude, same, spelled⟩ := spelled_of_scanMagnitude found
        refine ⟨magnitude, same, ?_⟩
        change Numeral.Spelled _ _
        rw [Numeral.Spelled, positive, if_neg Bool.false_ne_true]
        exact spelled
    · cases scanned
      cases sound

/-- The first token of a text stands behind blanks. -/
theorem spelled_of_tokens {cs : List Char} {token : Token} {more : List Token}
    (scanned : tokens cs = token :: more) (sound : token.IsSound) :
    ∃ before word rest, cs = before ++ (word ++ rest) ∧ Blank before ∧ token.Spelled word ∧
      tokens rest = more := by
  induction cs with
  | nil =>
    rw [tokens] at scanned
    cases scanned
  | cons c rest ih =>
    rw [tokens] at scanned
    split at scanned
    · rename_i space
      obtain ⟨before, word, left, same, blank, spelled, later⟩ := ih scanned
      exact ⟨c :: before, word, left, by rw [same]; rfl, blank_cons space blank, spelled, later⟩
    · cases scanned
      obtain ⟨word, same, spelled⟩ := spelled_of_scanToken rfl sound
      exact ⟨[], word, _, same, blank_nil, spelled, rfl⟩

theorem blank_of_tokens {cs : List Char} (scanned : tokens cs = []) : Blank cs := by
  induction cs with
  | nil => exact blank_nil
  | cons c rest ih =>
    rw [tokens] at scanned
    split at scanned
    · rename_i space
      exact blank_cons space (ih scanned)
    · cases scanned

/-! ### Whole values -/

theorem ends_mark {c : Char} (mark : c = ',' ∨ c = ']' ∨ c = '\x7d') (rest : List Char) :
    Ends (c :: rest) := by
  intro d first
  cases first
  rcases mark with rfl | rfl | rfl
  all_goals decide

theorem ends_nil : Ends [] := fun _ first => nomatch first

/-- Behind an item there is a comma or whatever ends the list. -/
theorem MoreItemsSpelled.ends {items : List Tree} {cs rest : List Char}
    (spelled : MoreItemsSpelled items cs) (ends : Ends rest) : Ends (cs ++ rest) := by
  cases items with
  | nil =>
    cases spelled
    exact ends
  | cons item items =>
    obtain ⟨first, others, rfl, _⟩ := spelled
    exact ends_mark (.inl rfl) _

theorem MoreFieldsSpelled.ends {fields : List (List Piece × Tree)} {cs rest : List Char}
    (spelled : MoreFieldsSpelled fields cs) (ends : Ends rest) : Ends (cs ++ rest) := by
  cases fields with
  | nil =>
    cases spelled
    exact ends
  | cons field fields =>
    obtain ⟨first, others, rfl, _⟩ := spelled
    exact ends_mark (.inl rfl) _

theorem tokens_padded {texts : List Char → Prop} {found : List Token} {cs rest : List Char}
    (inner : ∀ {word rest : List Char}, texts word → Ends rest →
      tokens (word ++ rest) = found ++ tokens rest)
    (padded : Padded texts cs) (ends : Ends rest) :
    tokens (cs ++ rest) = found ++ tokens rest := by
  obtain ⟨before, word, after, rfl, blankBefore, spelled, blankAfter⟩ := padded
  rw [List.append_assoc, List.append_assoc, tokens_blank _ blankBefore,
    inner spelled (ends.blank blankAfter), tokens_blank _ blankAfter]

theorem tokens_field {key : List Piece} {texts : List Char → Prop} {found : List Token}
    {cs rest : List Char}
    (inner : ∀ {word rest : List Char}, texts word → Ends rest →
      tokens (word ++ rest) = found ++ tokens rest)
    (field : FieldSpelled key texts cs) (ends : Ends rest) :
    tokens (cs ++ rest) = .text key none :: .colon :: (found ++ tokens rest) := by
  obtain ⟨name, content, rfl, ⟨before, word, after, rfl, blankBefore, quoted, blankAfter⟩, padded⟩ :=
    field
  have whole : before ++ word ++ after ++ ':' :: content ++ rest =
      before ++ (word ++ (after ++ ':' :: (content ++ rest))) := by simp
  have colon : tokens (':' :: (content ++ rest)) = .colon :: tokens (content ++ rest) :=
    tokens_scan rfl rfl
  rw [whole, tokens_blank _ blankBefore, tokens_quoted _ quoted, tokens_blank _ blankAfter, colon,
    tokens_padded inner padded ends]

mutual

theorem tokens_tree (tree : Tree) {word rest : List Char} (spelled : tree.Spelled word)
    (ends : Ends rest) : tokens (word ++ rest) = tree.tokens ++ tokens rest := by
  match tree with
  | .null =>
    cases spelled
    exact tokens_scan rfl rfl
  | .bool true =>
    cases spelled
    exact tokens_scan rfl rfl
  | .bool false =>
    cases spelled
    exact tokens_scan rfl rfl
  | .number numeral => exact tokens_number spelled ends
  | .text pieces => exact tokens_quoted rest spelled
  | .array [] =>
    obtain ⟨blank, rfl, isBlank⟩ := spelled
    have opened : tokens ('[' :: (blank ++ ']' :: rest)) =
        .beginArray :: tokens (blank ++ ']' :: rest) := tokens_scan rfl rfl
    have closed : tokens (']' :: rest) = .endArray :: tokens rest := tokens_scan rfl rfl
    have whole : '[' :: blank ++ [']'] ++ rest = '[' :: (blank ++ ']' :: rest) := by simp
    rw [whole, opened, tokens_blank _ isBlank, closed]
    rfl
  | .array (item :: items) =>
    obtain ⟨first, others, rfl, padded, more⟩ := spelled
    have opened : tokens ('[' :: (first ++ (others ++ ']' :: rest))) =
        .beginArray :: tokens (first ++ (others ++ ']' :: rest)) := tokens_scan rfl rfl
    have closed : tokens (']' :: rest) = .endArray :: tokens rest := tokens_scan rfl rfl
    have whole : '[' :: (first ++ others) ++ [']'] ++ rest =
        '[' :: (first ++ (others ++ ']' :: rest)) := by simp
    have stop := ends_mark (.inr (.inl rfl)) rest
    rw [whole, opened, tokens_padded (tokens_tree item) padded (more.ends stop),
      tokens_moreItems items more stop, closed, Tree.tokens]
    simp
  | .object [] =>
    obtain ⟨blank, rfl, isBlank⟩ := spelled
    have opened : tokens ('\x7b' :: (blank ++ '\x7d' :: rest)) =
        .beginObject :: tokens (blank ++ '\x7d' :: rest) := tokens_scan rfl rfl
    have closed : tokens ('\x7d' :: rest) = .endObject :: tokens rest := tokens_scan rfl rfl
    have whole : '\x7b' :: blank ++ ['\x7d'] ++ rest = '\x7b' :: (blank ++ '\x7d' :: rest) := by
      simp
    rw [whole, opened, tokens_blank _ isBlank, closed]
    rfl
  | .object ((key, value) :: fields) =>
    obtain ⟨first, others, rfl, field, more⟩ := spelled
    have opened : tokens ('\x7b' :: (first ++ (others ++ '\x7d' :: rest))) =
        .beginObject :: tokens (first ++ (others ++ '\x7d' :: rest)) := tokens_scan rfl rfl
    have closed : tokens ('\x7d' :: rest) = .endObject :: tokens rest := tokens_scan rfl rfl
    have whole : '\x7b' :: (first ++ others) ++ ['\x7d'] ++ rest =
        '\x7b' :: (first ++ (others ++ '\x7d' :: rest)) := by simp
    have stop := ends_mark (.inr (.inr rfl)) rest
    rw [whole, opened, tokens_field (tokens_tree value) field (more.ends stop),
      tokens_moreFields fields more stop, closed, Tree.tokens]
    simp

theorem tokens_moreItems (items : List Tree) {word rest : List Char}
    (spelled : MoreItemsSpelled items word) (ends : Ends rest) :
    tokens (word ++ rest) = moreItemTokens items ++ tokens rest := by
  match items with
  | [] =>
    cases spelled
    rfl
  | item :: items =>
    obtain ⟨first, others, rfl, padded, more⟩ := spelled
    have comma : tokens (',' :: (first ++ (others ++ rest))) =
        .comma :: tokens (first ++ (others ++ rest)) := tokens_scan rfl rfl
    rw [List.cons_append, List.append_assoc, comma,
      tokens_padded (tokens_tree item) padded (more.ends ends), tokens_moreItems items more ends,
      moreItemTokens]
    simp

theorem tokens_moreFields (fields : List (List Piece × Tree)) {word rest : List Char}
    (spelled : MoreFieldsSpelled fields word) (ends : Ends rest) :
    tokens (word ++ rest) = moreFieldTokens fields ++ tokens rest := by
  match fields with
  | [] =>
    cases spelled
    rfl
  | (key, value) :: fields =>
    obtain ⟨first, others, rfl, field, more⟩ := spelled
    have comma : tokens (',' :: (first ++ (others ++ rest))) =
        .comma :: tokens (first ++ (others ++ rest)) := tokens_scan rfl rfl
    rw [List.cons_append, List.append_assoc, comma,
      tokens_field (tokens_tree value) field (more.ends ends), tokens_moreFields fields more ends,
      moreFieldTokens]
    simp

end

/-! ### Back to the text -/

/-- A key and its colon, behind blanks. -/
theorem key_of_tokens {key : List Piece} {cs : List Char} {more : List Token}
    (scanned : tokens cs = .text key none :: .colon :: more) :
    ∃ name rest, cs = name ++ ':' :: rest ∧ Padded (Quoted key) name ∧ tokens rest = more := by
  obtain ⟨before, word, after, rfl, blankBefore, quoted, afterKey⟩ :=
    spelled_of_tokens scanned trivial
  obtain ⟨blank, mark, rest, rfl, isBlank, rfl, afterColon⟩ := spelled_of_tokens afterKey trivial
  exact ⟨before ++ word ++ blank, rest, by simp,
    ⟨before, word, blank, rfl, blankBefore, quoted, isBlank⟩,
    afterColon⟩

mutual

theorem tree_of_tokens (tree : Tree) {cs : List Char} {more : List Token}
    (scanned : tokens cs = tree.tokens ++ more) :
    ∃ before word rest, cs = before ++ (word ++ rest) ∧ Blank before ∧ tree.Spelled word ∧
      tokens rest = more := by
  match tree with
  | .null => exact spelled_of_tokens scanned trivial
  | .bool true => exact spelled_of_tokens scanned trivial
  | .bool false => exact spelled_of_tokens scanned trivial
  | .number numeral => exact spelled_of_tokens scanned trivial
  | .text pieces => exact spelled_of_tokens scanned trivial
  | .array [] =>
    obtain ⟨before, mark, inside, rfl, blankBefore, rfl, opened⟩ :=
      spelled_of_tokens scanned trivial
    obtain ⟨blank, mark, rest, rfl, isBlank, rfl, closed⟩ := spelled_of_tokens opened trivial
    exact ⟨before, '[' :: blank ++ [']'], rest, by simp, blankBefore, ⟨blank, rfl, isBlank⟩, closed⟩
  | .array (item :: items) =>
    have parts : tokens cs =
        .beginArray :: (item.tokens ++ (moreItemTokens items ++ .endArray :: more)) := by
      rw [scanned, Tree.tokens_array, itemTokens, List.append_assoc]
    obtain ⟨before, mark, inside, rfl, blankBefore, rfl, opened⟩ := spelled_of_tokens parts trivial
    obtain ⟨start, first, behind, rfl, blankStart, spelled, afterItem⟩ := tree_of_tokens item opened
    obtain ⟨blank, others, rest, rfl, isBlank, othersSpelled, closed⟩ :=
      moreItems_of_tokens items afterItem
    have word : (Tree.array (item :: items)).Spelled
        ('[' :: ((start ++ first ++ blank) ++ others) ++ [']']) :=
      ⟨_, others, rfl, ⟨start, first, blank, rfl, blankStart, spelled, isBlank⟩, othersSpelled⟩
    exact ⟨before, _, rest, by simp, blankBefore, word, closed⟩
  | .object [] =>
    obtain ⟨before, mark, inside, rfl, blankBefore, rfl, opened⟩ :=
      spelled_of_tokens scanned trivial
    obtain ⟨blank, mark, rest, rfl, isBlank, rfl, closed⟩ := spelled_of_tokens opened trivial
    exact ⟨before, '\x7b' :: blank ++ ['\x7d'], rest, by simp, blankBefore, ⟨blank, rfl, isBlank⟩,
      closed⟩
  | .object ((key, value) :: fields) =>
    have parts : tokens cs = .beginObject :: .text key none :: .colon ::
        (value.tokens ++ (moreFieldTokens fields ++ .endObject :: more)) := by
      rw [scanned, Tree.tokens_object, fieldTokens]
      simp
    obtain ⟨before, mark, inside, rfl, blankBefore, rfl, opened⟩ := spelled_of_tokens parts trivial
    obtain ⟨name, behind, rfl, named, afterKey⟩ := key_of_tokens opened
    obtain ⟨start, content, left, rfl, blankStart, spelled, afterValue⟩ :=
      tree_of_tokens value afterKey
    obtain ⟨blank, others, rest, rfl, isBlank, othersSpelled, closed⟩ :=
      moreFields_of_tokens fields afterValue
    have field : FieldSpelled key value.Spelled (name ++ ':' :: (start ++ content ++ blank)) :=
      ⟨name, _, rfl, named, start, content, blank, rfl, blankStart, spelled, isBlank⟩
    have word : (Tree.object ((key, value) :: fields)).Spelled
        ('\x7b' :: ((name ++ ':' :: (start ++ content ++ blank)) ++ others) ++ ['\x7d']) :=
      ⟨_, others, rfl, field, othersSpelled⟩
    exact ⟨before, _, rest, by simp, blankBefore, word, closed⟩

theorem moreItems_of_tokens (items : List Tree) {cs : List Char} {more : List Token}
    (scanned : tokens cs = moreItemTokens items ++ .endArray :: more) :
    ∃ blank word rest, cs = blank ++ (word ++ ']' :: rest) ∧ Blank blank ∧
      MoreItemsSpelled items word ∧ tokens rest = more := by
  match items with
  | [] =>
    obtain ⟨blank, mark, rest, rfl, isBlank, rfl, closed⟩ := spelled_of_tokens scanned trivial
    exact ⟨blank, [], rest, rfl, isBlank, rfl, closed⟩
  | item :: items =>
    have parts : tokens cs =
        .comma :: (item.tokens ++ (moreItemTokens items ++ .endArray :: more)) := by
      rw [scanned, moreItemTokens]
      simp
    obtain ⟨before, mark, inside, rfl, blankBefore, rfl, opened⟩ := spelled_of_tokens parts trivial
    obtain ⟨start, first, behind, rfl, blankStart, spelled, afterItem⟩ := tree_of_tokens item opened
    obtain ⟨blank, others, rest, rfl, isBlank, othersSpelled, closed⟩ :=
      moreItems_of_tokens items afterItem
    have word : MoreItemsSpelled (item :: items) (',' :: ((start ++ first ++ blank) ++ others)) :=
      ⟨_, others, rfl, ⟨start, first, blank, rfl, blankStart, spelled, isBlank⟩, othersSpelled⟩
    exact ⟨before, _, rest, by simp, blankBefore, word, closed⟩

theorem moreFields_of_tokens (fields : List (List Piece × Tree)) {cs : List Char}
    {more : List Token} (scanned : tokens cs = moreFieldTokens fields ++ .endObject :: more) :
    ∃ blank word rest, cs = blank ++ (word ++ '\x7d' :: rest) ∧ Blank blank ∧
      MoreFieldsSpelled fields word ∧ tokens rest = more := by
  match fields with
  | [] =>
    obtain ⟨blank, mark, rest, rfl, isBlank, rfl, closed⟩ := spelled_of_tokens scanned trivial
    exact ⟨blank, [], rest, rfl, isBlank, rfl, closed⟩
  | (key, value) :: fields =>
    have parts : tokens cs = .comma :: .text key none :: .colon ::
        (value.tokens ++ (moreFieldTokens fields ++ .endObject :: more)) := by
      rw [scanned, moreFieldTokens]
      simp
    obtain ⟨before, mark, inside, rfl, blankBefore, rfl, opened⟩ := spelled_of_tokens parts trivial
    obtain ⟨name, behind, rfl, named, afterKey⟩ := key_of_tokens opened
    obtain ⟨start, content, left, rfl, blankStart, spelled, afterValue⟩ :=
      tree_of_tokens value afterKey
    obtain ⟨blank, others, rest, rfl, isBlank, othersSpelled, closed⟩ :=
      moreFields_of_tokens fields afterValue
    have field : FieldSpelled key value.Spelled (name ++ ':' :: (start ++ content ++ blank)) :=
      ⟨name, _, rfl, named, start, content, blank, rfl, blankStart, spelled, isBlank⟩
    have word : MoreFieldsSpelled ((key, value) :: fields)
        (',' :: ((name ++ ':' :: (start ++ content ++ blank)) ++ others)) :=
      ⟨_, others, rfl, field, othersSpelled⟩
    exact ⟨before, _, rest, by simp, blankBefore, word, closed⟩

end

/-- Scanning a text gives the tokens of a tree if and only if the text holds that tree and nothing
else. -/
theorem tokens_eq_iff_document {tree : Tree} {text : String} :
    tokens text.toList = tree.tokens ↔ tree.Document text := by
  constructor
  · intro scanned
    have whole : tokens text.toList = tree.tokens ++ [] := by rw [scanned, List.append_nil]
    obtain ⟨before, word, after, same, blankBefore, spelled, nothing⟩ := tree_of_tokens tree whole
    exact ⟨before, word, after, by rw [same, List.append_assoc], blankBefore, spelled,
      blank_of_tokens nothing⟩
  · intro padded
    have scanned := tokens_padded (tokens_tree tree) padded ends_nil
    rw [List.append_nil] at scanned
    rw [scanned, tokens, List.append_nil]

end WordGame.Json
