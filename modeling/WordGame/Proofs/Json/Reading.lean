import WordGame.Json.Reader
import WordGame.Proofs.Json.Spelling

/-!
The reader against the grammar: it accepts the tokens of the trees that have a value, with the care
and in the room it has for them (`finishes_iff_reads`).
-/

namespace WordGame.Json

mutual

/-- The value of a tree that is read with this care, where so many more containers may be opened. -/
def Tree.Reads (care : Care) : Nat → Tree → Value → Prop
  | _, .null, value => value = .null
  | _, .bool truth, value => value = .bool truth
  | _, .number numeral, value => care.readNumber numeral = .ok value
  | _, .text pieces, value => ∃ word, care.readText pieces none = .ok word ∧ value = .text word
  | room, .array items, value =>
    (care = .kept → 0 < room) ∧
      ∃ values, ItemsRead care (room - 1) items values ∧ value = .array values
  | room, .object fields, value =>
    (care = .kept → 0 < room) ∧
      ∃ entries, FieldsRead care (room - 1) fields entries ∧ value = .object entries

def ItemsRead (care : Care) : Nat → List Tree → List Value → Prop
  | _, [], values => values = []
  | room, item :: items, values =>
    ∃ first rest, values = first :: rest ∧ item.Reads care room first ∧ ItemsRead care room items rest

def FieldsRead (care : Care) : Nat → List (List Piece × Tree) → List (String × Value) → Prop
  | _, [], entries => entries = []
  | room, (key, tree) :: fields, entries =>
    ∃ name value rest, entries = (name, value) :: rest ∧ care.readText key none = .ok name ∧
      tree.Reads care room value ∧ FieldsRead care room fields rest

end

/-! ### Texts -/

theorem map_eq_ok {ε α β : Type} {result : Except ε α} {f : α → β} {value : β} :
    result.map f = .ok value ↔ ∃ found, result = .ok found ∧ value = f found := by
  cases result with
  | error flaw => simp [Except.map]
  | ok found => simp [Except.map, eq_comm]

section
variable {pieces : List Piece} {cs : List Char}

theorem standsFor_char {c : Char} :
    StandsFor (.char c :: pieces) cs ↔ ∃ later, StandsFor pieces later ∧ cs = c :: later := by
  constructor
  · intro stands
    cases stands with
    | char later => exact ⟨_, later, rfl⟩
  · rintro ⟨later, stands, rfl⟩
    exact .char stands

theorem standsFor_unit {value : Nat} (notHigh : ¬ isHighSurrogate value = true)
    (notLow : ¬ isLowSurrogate value = true) :
    StandsFor (.unit value :: pieces) cs ↔
      ∃ later, StandsFor pieces later ∧ cs = Char.ofNat value :: later := by
  constructor
  · intro stands
    cases stands with
    | unit _ _ later => exact ⟨_, later, rfl⟩
    | pair isHigh => exact absurd isHigh notHigh
  · rintro ⟨later, stands, rfl⟩
    exact .unit (eq_false_of_ne_true notHigh) (eq_false_of_ne_true notLow) stands

theorem standsFor_pair {high low : Nat} (isHigh : isHighSurrogate high = true)
    (isLow : isLowSurrogate low = true) :
    StandsFor (.unit high :: .unit low :: pieces) cs ↔
      ∃ later, StandsFor pieces later ∧
        cs = Char.ofNat (0x10000 + (high - 0xD800) * 0x400 + (low - 0xDC00)) :: later := by
  constructor
  · intro stands
    cases stands with
    | unit notHigh => simp [isHigh] at notHigh
    | pair _ _ later => exact ⟨_, later, rfl⟩
  · rintro ⟨later, stands, rfl⟩
    exact .pair isHigh isLow stands

/-- A high surrogate without the low one behind it stands for nothing. -/
theorem not_standsFor_high {high : Nat} (isHigh : isHighSurrogate high = true)
    (alone : ∀ low rest, pieces = .unit low :: rest → ¬ isLowSurrogate low = true) :
    ¬ StandsFor (.unit high :: pieces) cs := by
  intro stands
  cases stands with
  | unit notHigh => simp [isHigh] at notHigh
  | pair _ isLow => exact alone _ _ rfl isLow

theorem not_standsFor_low {low : Nat} (notHigh : ¬ isHighSurrogate low = true)
    (isLow : isLowSurrogate low = true) : ¬ StandsFor (.unit low :: pieces) cs := by
  intro stands
  cases stands with
  | unit _ notLow => simp [isLow] at notLow
  | pair isHigh => exact notHigh isHigh

theorem readPieces_eq_ok_iff {flaw : Option Flaw} :
    readPieces flaw pieces = .ok cs ↔ flaw = none ∧ StandsFor pieces cs := by
  fun_induction readPieces flaw pieces generalizing cs with
  | case1 found known => simp [known]
  | case2 closed =>
    constructor
    · intro read
      cases read
      exact ⟨closed, .nil⟩
    · rintro ⟨_, stands⟩
      cases stands
      rfl
  | case3 c rest ih => simp only [map_eq_ok, standsFor_char, ih, and_assoc, exists_and_left]
  | case4 high isHigh =>
    have alone (cs : List Char) : ¬ StandsFor [.unit high] cs :=
      not_standsFor_high isHigh (fun _ _ more => nomatch more)
    simp [alone]
  | case5 low notHigh isLow => simp [not_standsFor_low notHigh isLow]
  | case6 value notHigh notLow ih =>
    simp only [map_eq_ok, standsFor_unit notHigh notLow, ih, and_assoc, exists_and_left]
  | case7 high low rest isHigh isLow ih =>
    simp only [map_eq_ok, standsFor_pair isHigh isLow, ih, and_assoc, exists_and_left]
  | case8 high next rest isHigh notLow =>
    have alone : ¬ StandsFor (.unit high :: .unit next :: rest) cs := by
      apply not_standsFor_high isHigh
      intro low later same
      cases same
      exact notLow
    simp [alone]
  | case9 low next rest notHigh isLow => simp [not_standsFor_low notHigh isLow]
  | case10 value next rest notHigh notLow ih =>
    simp only [map_eq_ok, standsFor_unit notHigh notLow, ih, and_assoc, exists_and_left]
  | case11 value c rest surrogate =>
    have nothing : ¬ StandsFor (.unit value :: .char c :: rest) cs := by
      intro stands
      cases stands with
      | unit notHigh notLow => simp [notHigh, notLow] at surrogate
    simp [nothing]
  | case12 value c rest ordinary ih =>
    rw [Bool.or_eq_true, not_or] at ordinary
    simp only [map_eq_ok, standsFor_unit ordinary.1 ordinary.2, ih, and_assoc, exists_and_left]

end

theorem Care.readText_kept {pieces : List Piece} {flaw : Option Flaw} {word : String} :
    Care.kept.readText pieces flaw = .ok word ↔ flaw = none ∧ Spells pieces word := by
  change (readPieces flaw pieces).map String.ofList = .ok word ↔ _
  rw [map_eq_ok]
  constructor
  · rintro ⟨cs, read, rfl⟩
    obtain ⟨closed, stands⟩ := readPieces_eq_ok_iff.mp read
    refine ⟨closed, ?_⟩
    rw [Spells, String.toList_ofList]
    exact stands
  · rintro ⟨closed, stands⟩
    exact ⟨word.toList, readPieces_eq_ok_iff.mpr ⟨closed, stands⟩, String.ofList_toList.symm⟩

theorem Care.readText_skipped {pieces : List Piece} {flaw : Option Flaw} {word : String} :
    Care.skipped.readText pieces flaw = .ok word ↔ flaw = none ∧ word = "" := by
  cases flaw with
  | none => simp [Care.readText, eq_comm]
  | some found => simp [Care.readText]

/-- A text that is not closed properly is not read, with whatever care. -/
theorem Care.readText_closed {care : Care} {pieces : List Piece} {flaw : Option Flaw}
    {word : String} (read : care.readText pieces flaw = .ok word) : flaw = none := by
  cases care with
  | kept => exact (Care.readText_kept.mp read).1
  | skipped => exact (Care.readText_skipped.mp read).1

/-! ### Runs of the reader -/

/-- The reader takes all of the tokens, and with the last of them it is done. -/
inductive Reading.Finishes (enclosing : Nat) : Reading → List Token → Value → Prop
  | last {reading : Reading} {token : Token} {value : Value}
      (step : reading.step enclosing token = .ok (.done value)) :
      Finishes enclosing reading [token] value
  | next {reading later : Reading} {token : Token} {tokens : List Token} {value : Value}
      (step : reading.step enclosing token = .ok (.more later))
      (finishes : Finishes enclosing later tokens value) :
      Finishes enclosing reading (token :: tokens) value

def Progress.Finishes (enclosing : Nat) : Progress → List Token → Value → Prop
  | .done found, tokens, value => tokens = [] ∧ value = found
  | .more reading, tokens, value => reading.Finishes enclosing tokens value

section
variable {enclosing : Nat} {care : Care} {stack : List Frame} {tokens : List Token} {final : Value}

theorem Reading.finishes_cons {reading : Reading} {token : Token} :
    reading.Finishes enclosing (token :: tokens) final ↔
      ∃ progress, reading.step enclosing token = .ok progress ∧
        progress.Finishes enclosing tokens final := by
  constructor
  · intro finishes
    cases finishes with
    | last step => exact ⟨_, step, rfl, rfl⟩
    | next step later => exact ⟨_, step, later⟩
  · rintro ⟨progress, step, later⟩
    cases progress with
    | done found =>
      obtain ⟨rfl, rfl⟩ := later
      exact .last step
    | more reading => exact .next step later

theorem Reading.Finishes.begins {reading : Reading}
    (finishes : reading.Finishes enclosing tokens final) :
    ∃ token later progress, tokens = token :: later ∧
      reading.step enclosing token = .ok progress ∧ progress.Finishes enclosing later final := by
  cases finishes with
  | last step => exact ⟨_, _, _, rfl, step, rfl, rfl⟩
  | next step later => exact ⟨_, _, _, rfl, step, later⟩

def resume (care : Care) (stack : List Frame) (value : Value) : Progress :=
  Reading.put ⟨care, stack, .value⟩ value

theorem Reading.put_eq_resume (want : Want) (value : Value) :
    Reading.put ⟨care, stack, want⟩ value = resume care stack value := by
  cases stack with
  | nil => rfl
  | cons frame outer => cases frame <;> rfl

def room (enclosing : Nat) (stack : List Frame) : Nat := maxDepth - (enclosing + stack.length)

theorem room_cons (frame : Frame) : room enclosing (frame :: stack) = room enclosing stack - 1 := by
  unfold room
  rw [List.length_cons]
  omega

theorem Reading.open_eq_ok_iff {frame : Frame} {here want : Want} {progress : Progress} :
    Reading.open enclosing ⟨care, stack, here⟩ frame want = .ok progress ↔
      (care = .kept → 0 < room enclosing stack) ∧
        progress = .more ⟨care, frame :: stack, want⟩ := by
  unfold Reading.open room
  split
  · rename_i full
    constructor
    · intro impossible
      cases impossible
    · rintro ⟨space, _⟩
      have positive := space full.1
      have filled : maxDepth ≤ enclosing + stack.length := full.2
      omega
  · rename_i free
    constructor
    · intro opened
      cases opened
      constructor
      · intro kept
        have unfilled : ¬ maxDepth ≤ enclosing + stack.length := fun full => free ⟨kept, full⟩
        omega
      · rfl
    · rintro ⟨_, rfl⟩
      rfl

/-- In an array that has not ended at once there is a value. -/
theorem Reading.step_valueOrEnd {token : Token} (notEnd : token ≠ .endArray) :
    Reading.step enclosing ⟨care, stack, .valueOrEnd⟩ token =
      Reading.step enclosing ⟨care, stack, .value⟩ token := by
  cases token with
  | endArray => exact absurd rfl notEnd
  | beginObject | endObject | beginArray | colon | comma | null | bool | number | brokenNumber
  | brokenWord | text | stray => rfl

theorem Reading.step_keyOrEnd {token : Token} (notEnd : token ≠ .endObject) :
    Reading.step enclosing ⟨care, stack, .keyOrEnd⟩ token =
      Reading.step enclosing ⟨care, stack, .key⟩ token := by
  cases token with
  | endObject => exact absurd rfl notEnd
  | beginObject | endArray | beginArray | colon | comma | null | bool | number | brokenNumber
  | brokenWord | text | stray => rfl

/-- Whatever begins a value begins it where the array could also end. -/
theorem Reading.Finishes.orEnd
    (finishes : Reading.Finishes enclosing ⟨care, stack, .value⟩ tokens final) :
    Reading.Finishes enclosing ⟨care, stack, .valueOrEnd⟩ tokens final := by
  obtain ⟨token, later, progress, rfl, step, goesOn⟩ := finishes.begins
  have notEnd : token ≠ .endArray := by
    rintro rfl
    cases step
  rw [← Reading.step_valueOrEnd notEnd] at step
  exact Reading.finishes_cons.mpr ⟨progress, step, goesOn⟩

theorem Tree.tokens_append_length (tree : Tree) (rest : List Token) :
    rest.length < (tree.tokens ++ rest).length := by
  cases tree with
  | null | bool | number | text => exact Nat.lt_succ_self _
  | array items =>
    rw [Tree.tokens_array, List.length_cons, List.length_append, List.length_cons]
    omega
  | object fields =>
    rw [Tree.tokens_object, List.length_cons, List.length_append, List.length_cons]
    omega

end

/-! ### From a run to a tree -/

-- The statements are about the reader at a value, between the brackets, behind an item, at a key,
-- between the braces and behind a field. Each takes tokens off the front, so that the induction is
-- on how many are left; it ends where the reader goes on with what encloses the value.
mutual

theorem tree_of_finishes {enclosing : Nat} {care : Care} {stack : List Frame} {tokens : List Token}
    {final : Value} (finishes : Reading.Finishes enclosing ⟨care, stack, .value⟩ tokens final) :
    ∃ (tree : Tree) (value : Value) (rest : List Token), tokens = tree.tokens ++ rest ∧
      tree.Reads care (room enclosing stack) value ∧
      (resume care stack value).Finishes enclosing rest final := by
  obtain ⟨token, later, progress, shape, step, goesOn⟩ := finishes.begins
  have size : tokens.length = later.length + 1 := by rw [shape, List.length_cons]
  change Reading.begin enclosing ⟨care, stack, .value⟩ token = .ok progress at step
  cases token with
  | null =>
    cases step
    exact ⟨.null, .null, later, shape, rfl, goesOn⟩
  | bool truth =>
    cases step
    exact ⟨.bool truth, .bool truth, later, shape, rfl, goesOn⟩
  | number numeral =>
    obtain ⟨value, read, rfl⟩ := map_eq_ok.mp step
    exact ⟨.number numeral, value, later, shape, read, goesOn⟩
  | text pieces flaw =>
    obtain ⟨word, read, rfl⟩ := map_eq_ok.mp step
    cases Care.readText_closed read
    exact ⟨.text pieces, .text word, later, shape, ⟨word, read, rfl⟩, goesOn⟩
  | beginArray =>
    obtain ⟨space, rfl⟩ := Reading.open_eq_ok_iff.mp step
    have inside : Reading.Finishes enclosing ⟨care, .array [] :: stack, .valueOrEnd⟩ later final :=
      goesOn
    obtain ⟨items, values, rest, same, itemsRead, goesOn⟩ := array_of_finishes inside
    exact ⟨.array items, .array values, rest, by rw [shape, same, Tree.tokens_array],
      ⟨space, values, itemsRead, rfl⟩, goesOn⟩
  | beginObject =>
    obtain ⟨space, rfl⟩ := Reading.open_eq_ok_iff.mp step
    have inside : Reading.Finishes enclosing ⟨care, .object [] :: stack, .keyOrEnd⟩ later final :=
      goesOn
    obtain ⟨fields, entries, rest, same, fieldsRead, goesOn⟩ := object_of_finishes inside
    exact ⟨.object fields, .object entries, rest, by rw [shape, same, Tree.tokens_object],
      ⟨space, entries, fieldsRead, rfl⟩, goesOn⟩
  | endObject | endArray | colon | comma | brokenNumber | brokenWord | stray => cases step
termination_by (tokens.length, 0)

theorem array_of_finishes {enclosing : Nat} {care : Care} {stack : List Frame} {tokens : List Token}
    {final : Value}
    (finishes : Reading.Finishes enclosing ⟨care, .array [] :: stack, .valueOrEnd⟩ tokens final) :
    ∃ (items : List Tree) (values : List Value) (rest : List Token),
      tokens = itemTokens items ++ .endArray :: rest ∧
      ItemsRead care (room enclosing stack - 1) items values ∧
      (resume care stack (.array values)).Finishes enclosing rest final := by
  obtain ⟨token, later, progress, shape, step, goesOn⟩ := finishes.begins
  by_cases atEnd : token = .endArray
  · cases atEnd
    cases step
    change (Reading.put ⟨care, stack, .valueOrEnd⟩ (.array [])).Finishes _ _ _ at goesOn
    rw [Reading.put_eq_resume] at goesOn
    exact ⟨[], [], later, shape, rfl, goesOn⟩
  · rw [Reading.step_valueOrEnd atEnd] at step
    have begins : Reading.Finishes enclosing ⟨care, .array [] :: stack, .value⟩ tokens final := by
      rw [shape]
      exact Reading.finishes_cons.mpr ⟨progress, step, goesOn⟩
    obtain ⟨item, first, afterFirst, same, firstRead, goesOn⟩ := tree_of_finishes begins
    have shorter : afterFirst.length < tokens.length := by
      rw [same]
      exact item.tokens_append_length afterFirst
    obtain ⟨items, values, rest, sameRest, itemsRead, goesOn⟩ := items_of_finishes goesOn
    rw [room_cons] at firstRead
    exact ⟨item :: items, first :: values, rest, by rw [same, sameRest, itemTokens, List.append_assoc],
      ⟨first, values, rfl, firstRead, itemsRead⟩, goesOn⟩
termination_by (tokens.length, 1)

theorem items_of_finishes {enclosing : Nat} {care : Care} {stack : List Frame} {tokens : List Token}
    {final : Value} {done : List Value}
    (finishes : Reading.Finishes enclosing ⟨care, .array done :: stack, .separator⟩ tokens final) :
    ∃ (items : List Tree) (values : List Value) (rest : List Token),
      tokens = moreItemTokens items ++ .endArray :: rest ∧
      ItemsRead care (room enclosing stack - 1) items values ∧
      (resume care stack (.array (done.reverse ++ values))).Finishes enclosing rest final := by
  obtain ⟨token, later, progress, shape, step, goesOn⟩ := finishes.begins
  have size : tokens.length = later.length + 1 := by rw [shape, List.length_cons]
  change Reading.separate ⟨care, .array done :: stack, .separator⟩ token = .ok progress at step
  cases token with
  | comma =>
    cases step
    obtain ⟨item, first, afterFirst, same, firstRead, goesOn⟩ := tree_of_finishes goesOn
    have shorter : afterFirst.length < later.length := by
      rw [same]
      exact item.tokens_append_length afterFirst
    obtain ⟨items, values, rest, sameRest, itemsRead, goesOn⟩ := items_of_finishes goesOn
    rw [room_cons] at firstRead
    rw [List.reverse_cons, List.append_assoc] at goesOn
    refine ⟨item :: items, first :: values, rest, ?_, ⟨first, values, rfl, firstRead, itemsRead⟩,
      goesOn⟩
    rw [shape, same, sameRest, moreItemTokens, List.cons_append, List.append_assoc]
  | endArray =>
    cases step
    change (Reading.put ⟨care, stack, .separator⟩ (.array done.reverse)).Finishes _ _ _ at goesOn
    rw [Reading.put_eq_resume] at goesOn
    refine ⟨[], [], later, shape, rfl, ?_⟩
    rw [List.append_nil]
    exact goesOn
  | beginObject | endObject | beginArray | colon | null | bool | number | brokenNumber
  | brokenWord | text | stray => cases step
termination_by (tokens.length, 0)

theorem field_of_finishes {enclosing : Nat} {care : Care} {stack : List Frame} {tokens : List Token}
    {final : Value} {done : List (String × Value)}
    (finishes : Reading.Finishes enclosing ⟨care, .object done :: stack, .key⟩ tokens final) :
    ∃ (key : List Piece) (name : String) (tree : Tree) (value : Value) (rest : List Token),
      tokens = .text key none :: .colon :: (tree.tokens ++ rest) ∧
      care.readText key none = .ok name ∧ tree.Reads care (room enclosing stack - 1) value ∧
      Reading.Finishes enclosing ⟨care, .object ((name, value) :: done) :: stack, .separator⟩ rest
        final := by
  obtain ⟨token, later, progress, shape, step, goesOn⟩ := finishes.begins
  change Reading.key ⟨care, .object done :: stack, .key⟩ token = .ok progress at step
  cases token with
  | text key flaw =>
    obtain ⟨name, named, rfl⟩ := map_eq_ok.mp step
    cases Care.readText_closed named
    have keyRead : Reading.Finishes enclosing ⟨care, .field done name :: stack, .colon⟩ later final :=
      goesOn
    obtain ⟨mark, behind, progress, shapeBehind, step, goesOn⟩ := keyRead.begins
    have size : tokens.length = behind.length + 2 := by
      rw [shape, shapeBehind, List.length_cons, List.length_cons]
    cases mark with
    | colon =>
      cases step
      obtain ⟨tree, value, rest, same, read, goesOn⟩ := tree_of_finishes goesOn
      rw [room_cons] at read
      exact ⟨key, name, tree, value, rest, by rw [shape, shapeBehind, same], named, read, goesOn⟩
    | beginObject | endObject | beginArray | endArray | comma | null | bool | number
    | brokenNumber | brokenWord | text | stray => cases step
  | beginObject | endObject | beginArray | endArray | colon | comma | null | bool | number
  | brokenNumber | brokenWord | stray => cases step
termination_by (tokens.length, 1)

theorem object_of_finishes {enclosing : Nat} {care : Care} {stack : List Frame}
    {tokens : List Token} {final : Value}
    (finishes : Reading.Finishes enclosing ⟨care, .object [] :: stack, .keyOrEnd⟩ tokens final) :
    ∃ (fields : List (List Piece × Tree)) (entries : List (String × Value)) (rest : List Token),
      tokens = fieldTokens fields ++ .endObject :: rest ∧
      FieldsRead care (room enclosing stack - 1) fields entries ∧
      (resume care stack (.object entries)).Finishes enclosing rest final := by
  obtain ⟨token, later, progress, shape, step, goesOn⟩ := finishes.begins
  by_cases atEnd : token = .endObject
  · cases atEnd
    cases step
    change (Reading.put ⟨care, stack, .keyOrEnd⟩ (.object [])).Finishes _ _ _ at goesOn
    rw [Reading.put_eq_resume] at goesOn
    exact ⟨[], [], later, shape, rfl, goesOn⟩
  · rw [Reading.step_keyOrEnd atEnd] at step
    have begins : Reading.Finishes enclosing ⟨care, .object [] :: stack, .key⟩ tokens final := by
      rw [shape]
      exact Reading.finishes_cons.mpr ⟨progress, step, goesOn⟩
    obtain ⟨key, name, tree, value, afterFirst, same, named, read, goesOn⟩ :=
      field_of_finishes begins
    have shorter : afterFirst.length < tokens.length := by
      rw [same]
      simp
      omega
    obtain ⟨fields, entries, rest, sameRest, fieldsRead, goesOn⟩ := fields_of_finishes goesOn
    exact ⟨(key, tree) :: fields, (name, value) :: entries, rest, by
      rw [same, sameRest, fieldTokens]; simp,
      ⟨name, value, entries, rfl, named, read, fieldsRead⟩, goesOn⟩
termination_by (tokens.length, 2)

theorem fields_of_finishes {enclosing : Nat} {care : Care} {stack : List Frame}
    {tokens : List Token} {final : Value} {done : List (String × Value)}
    (finishes : Reading.Finishes enclosing ⟨care, .object done :: stack, .separator⟩ tokens final) :
    ∃ (fields : List (List Piece × Tree)) (entries : List (String × Value)) (rest : List Token),
      tokens = moreFieldTokens fields ++ .endObject :: rest ∧
      FieldsRead care (room enclosing stack - 1) fields entries ∧
      (resume care stack (.object (done.reverse ++ entries))).Finishes enclosing rest final := by
  obtain ⟨token, later, progress, shape, step, goesOn⟩ := finishes.begins
  have size : tokens.length = later.length + 1 := by rw [shape, List.length_cons]
  change Reading.separate ⟨care, .object done :: stack, .separator⟩ token = .ok progress at step
  cases token with
  | comma =>
    cases step
    obtain ⟨key, name, tree, value, afterFirst, same, named, read, goesOn⟩ :=
      field_of_finishes goesOn
    have shorter : afterFirst.length < later.length := by
      rw [same]
      simp
      omega
    obtain ⟨fields, entries, rest, sameRest, fieldsRead, goesOn⟩ := fields_of_finishes goesOn
    rw [List.reverse_cons, List.append_assoc] at goesOn
    refine ⟨(key, tree) :: fields, (name, value) :: entries, rest, ?_,
      ⟨name, value, entries, rfl, named, read, fieldsRead⟩, goesOn⟩
    rw [shape, same, sameRest, moreFieldTokens]
    simp
  | endObject =>
    cases step
    change (Reading.put ⟨care, stack, .separator⟩ (.object done.reverse)).Finishes _ _ _ at goesOn
    rw [Reading.put_eq_resume] at goesOn
    refine ⟨[], [], later, shape, rfl, ?_⟩
    rw [List.append_nil]
    exact goesOn
  | beginObject | endArray | beginArray | colon | null | bool | number | brokenNumber
  | brokenWord | text | stray => cases step
termination_by (tokens.length, 0)

end

/-! ### From a tree to a run -/

section
variable {enclosing : Nat} {care : Care} {final : Value}

mutual

theorem finishes_tree (tree : Tree) {stack : List Frame} {rest : List Token} {value : Value}
    (read : tree.Reads care (room enclosing stack) value)
    (goesOn : (resume care stack value).Finishes enclosing rest final) :
    Reading.Finishes enclosing ⟨care, stack, .value⟩ (tree.tokens ++ rest) final := by
  match tree with
  | .null =>
    cases read
    exact Reading.finishes_cons.mpr ⟨_, rfl, goesOn⟩
  | .bool truth =>
    cases read
    exact Reading.finishes_cons.mpr ⟨_, rfl, goesOn⟩
  | .number numeral => exact Reading.finishes_cons.mpr ⟨_, map_eq_ok.mpr ⟨value, read, rfl⟩, goesOn⟩
  | .text pieces =>
    obtain ⟨word, named, rfl⟩ := read
    exact Reading.finishes_cons.mpr ⟨_, map_eq_ok.mpr ⟨word, named, rfl⟩, goesOn⟩
  | .array items =>
    obtain ⟨space, values, itemsRead, rfl⟩ := read
    rw [Tree.tokens_array]
    apply Reading.finishes_cons.mpr
    refine ⟨_, Reading.open_eq_ok_iff.mpr ⟨space, rfl⟩, ?_⟩
    match items with
    | [] =>
      cases itemsRead
      have closed : (Reading.put ⟨care, stack, .valueOrEnd⟩ (.array [])).Finishes enclosing rest
          final := by
        rw [Reading.put_eq_resume]
        exact goesOn
      exact Reading.finishes_cons.mpr ⟨_, rfl, closed⟩
    | item :: items =>
      obtain ⟨first, more, rfl, firstRead, moreRead⟩ := itemsRead
      rw [← room_cons (.array [])] at firstRead
      rw [itemTokens, List.append_assoc]
      exact (finishes_tree item firstRead (finishes_items items [first] moreRead goesOn)).orEnd
  | .object fields =>
    obtain ⟨space, entries, fieldsRead, rfl⟩ := read
    rw [Tree.tokens_object]
    apply Reading.finishes_cons.mpr
    refine ⟨_, Reading.open_eq_ok_iff.mpr ⟨space, rfl⟩, ?_⟩
    match fields with
    | [] =>
      cases fieldsRead
      have closed : (Reading.put ⟨care, stack, .keyOrEnd⟩ (.object [])).Finishes enclosing rest
          final := by
        rw [Reading.put_eq_resume]
        exact goesOn
      exact Reading.finishes_cons.mpr ⟨_, rfl, closed⟩
    | (key, value) :: fields =>
      obtain ⟨name, first, more, rfl, named, firstRead, moreRead⟩ := fieldsRead
      rw [← room_cons (.field [] name)] at firstRead
      have inside := finishes_tree value firstRead
        (finishes_fields fields [(name, first)] moreRead goesOn)
      have whole : fieldTokens ((key, value) :: fields) ++ .endObject :: rest = .text key none ::
          .colon :: (value.tokens ++ (moreFieldTokens fields ++ .endObject :: rest)) := by
        simp [fieldTokens]
      rw [whole]
      apply Reading.finishes_cons.mpr
      refine ⟨_, map_eq_ok.mpr ⟨name, named, rfl⟩, ?_⟩
      exact Reading.finishes_cons.mpr ⟨_, rfl, inside⟩

theorem finishes_items (items : List Tree) {stack : List Frame} {rest : List Token}
    (done : List Value) {values : List Value}
    (read : ItemsRead care (room enclosing stack - 1) items values)
    (goesOn : (resume care stack (.array (done.reverse ++ values))).Finishes enclosing rest final) :
    Reading.Finishes enclosing ⟨care, .array done :: stack, .separator⟩
      (moreItemTokens items ++ .endArray :: rest) final := by
  match items with
  | [] =>
    cases read
    rw [List.append_nil] at goesOn
    have closed : (Reading.put ⟨care, stack, .separator⟩ (.array done.reverse)).Finishes enclosing
        rest final := by
      rw [Reading.put_eq_resume]
      exact goesOn
    exact Reading.finishes_cons.mpr ⟨_, rfl, closed⟩
  | item :: items =>
    obtain ⟨first, more, rfl, firstRead, moreRead⟩ := read
    rw [← room_cons (.array done)] at firstRead
    have later : (resume care stack (.array ((first :: done).reverse ++ more))).Finishes enclosing
        rest final := by
      rw [List.reverse_cons, List.append_assoc]
      exact goesOn
    have inside := finishes_tree item firstRead (finishes_items items (first :: done) moreRead later)
    rw [moreItemTokens, List.cons_append, List.append_assoc]
    exact Reading.finishes_cons.mpr ⟨_, rfl, inside⟩

theorem finishes_fields (fields : List (List Piece × Tree)) {stack : List Frame}
    {rest : List Token} (done : List (String × Value)) {entries : List (String × Value)}
    (read : FieldsRead care (room enclosing stack - 1) fields entries)
    (goesOn : (resume care stack (.object (done.reverse ++ entries))).Finishes enclosing rest final) :
    Reading.Finishes enclosing ⟨care, .object done :: stack, .separator⟩
      (moreFieldTokens fields ++ .endObject :: rest) final := by
  match fields with
  | [] =>
    cases read
    rw [List.append_nil] at goesOn
    have closed : (Reading.put ⟨care, stack, .separator⟩ (.object done.reverse)).Finishes enclosing
        rest final := by
      rw [Reading.put_eq_resume]
      exact goesOn
    exact Reading.finishes_cons.mpr ⟨_, rfl, closed⟩
  | (key, value) :: fields =>
    obtain ⟨name, first, more, rfl, named, firstRead, moreRead⟩ := read
    rw [← room_cons (.field done name)] at firstRead
    have later : (resume care stack (.object (((name, first) :: done).reverse ++ more))).Finishes
        enclosing rest final := by
      rw [List.reverse_cons, List.append_assoc]
      exact goesOn
    have inside :=
      finishes_tree value firstRead (finishes_fields fields ((name, first) :: done) moreRead later)
    have whole : moreFieldTokens ((key, value) :: fields) ++ .endObject :: rest = .comma ::
        .text key none :: .colon ::
          (value.tokens ++ (moreFieldTokens fields ++ .endObject :: rest)) := by
      simp [moreFieldTokens]
    rw [whole]
    apply Reading.finishes_cons.mpr
    refine ⟨_, rfl, ?_⟩
    apply Reading.finishes_cons.mpr
    refine ⟨_, map_eq_ok.mpr ⟨name, named, rfl⟩, ?_⟩
    exact Reading.finishes_cons.mpr ⟨_, rfl, inside⟩

end

/-- A reader from its start takes exactly the tokens of the trees that have a value in the room
that is left inside what encloses it. -/
theorem finishes_iff_reads {tokens : List Token} :
    (Reading.start care).Finishes enclosing tokens final ↔
      ∃ tree : Tree, tokens = tree.tokens ∧ tree.Reads care (maxDepth - enclosing) final := by
  constructor
  · intro finishes
    obtain ⟨tree, value, rest, same, read, rfl, rfl⟩ := tree_of_finishes finishes
    rw [List.append_nil] at same
    exact ⟨tree, same, read⟩
  · rintro ⟨tree, rfl, read⟩
    have finishes : (Reading.start care).Finishes enclosing (tree.tokens ++ []) final :=
      finishes_tree tree read ⟨rfl, rfl⟩
    rw [List.append_nil] at finishes
    exact finishes

end

end WordGame.Json
