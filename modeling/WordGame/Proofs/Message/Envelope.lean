import WordGame.Proofs.Json.Kept
import WordGame.Proofs.Message.Grammar

/-!
Reading an envelope against the grammar of messages (`read_eq_ok_iff`).
-/

namespace WordGame.Envelope

open Json

/-- The whole text is taken and gives this envelope. -/
def Stage.Finishes (stage : Stage) (tokens : List Token) (envelope : Envelope) : Prop :=
  stage.run tokens = .ok (.done envelope)

section
variable {tokens : List Token} {envelope : Envelope}

theorem Stage.finishes_nil {stage : Stage} :
    stage.Finishes [] envelope ↔ stage = .done envelope := by
  constructor
  · intro finishes
    cases finishes
    rfl
  · rintro rfl
    rfl

theorem Stage.finishes_cons {stage : Stage} {token : Token} :
    stage.Finishes (token :: tokens) envelope ↔
      ∃ next, stage.step token = .ok next ∧ next.Finishes tokens envelope := by
  unfold Stage.Finishes Stage.run
  rw [List.foldlM_cons]
  cases stage.step token with
  | error flaw =>
    constructor
    · intro impossible
      cases impossible
    · rintro ⟨_, impossible, _⟩
      cases impossible
  | ok next =>
    constructor
    · intro finishes
      exact ⟨next, rfl, finishes⟩
    · rintro ⟨_, same, finishes⟩
      cases same
      exact finishes

theorem Stage.finishes_done {found : Envelope} :
    (Stage.done found).Finishes tokens envelope ↔ tokens = [] ∧ found = envelope := by
  cases tokens with
  | nil =>
    rw [Stage.finishes_nil]
    simp
  | cons token rest =>
    constructor
    · intro finishes
      obtain ⟨_, impossible, _⟩ := Stage.finishes_cons.mp finishes
      cases impossible
    · rintro ⟨impossible, _⟩
      cases impossible

/-! ### Values inside an envelope -/

/-- What follows one token of an inner value: the value goes on, or it is finished. -/
def Stage.inside (during : Reading → Stage) (after : Value → Stage) : Progress → Stage
  | .more next => during next
  | .done found => after found

/-- A value inside an envelope is read by itself. -/
theorem Stage.finishes_inside {during : Reading → Stage} {after : Value → Stage}
    (goesOn : ∀ reading token,
      (during reading).step token = (reading.step 1 token).map (Stage.inside during after))
    (unfinished : ∀ reading found, during reading ≠ .done found) {reading : Reading} :
    (during reading).Finishes tokens envelope ↔
      ∃ used rest found, tokens = used ++ rest ∧ reading.Finishes 1 used found ∧
        (after found).Finishes rest envelope := by
  induction tokens generalizing reading with
  | nil =>
    rw [Stage.finishes_nil]
    constructor
    · intro impossible
      exact absurd impossible (unfinished _ _)
    · rintro ⟨used, rest, found, nothing, finishes, _⟩
      obtain ⟨rfl, rfl⟩ := List.append_eq_nil_iff.mp nothing.symm
      cases finishes
  | cons token later ih =>
    rw [Stage.finishes_cons, goesOn]
    constructor
    · rintro ⟨next, step, finishes⟩
      obtain ⟨progress, innerStep, rfl⟩ := map_eq_ok.mp step
      cases progress with
      | done found => exact ⟨[token], later, found, rfl, .last innerStep, finishes⟩
      | more reading =>
        obtain ⟨used, rest, found, rfl, inner, finishes⟩ := ih.mp finishes
        exact ⟨token :: used, rest, found, rfl, .next innerStep inner, finishes⟩
    · rintro ⟨used, rest, found, same, inner, finishes⟩
      cases inner with
      | last innerStep =>
        cases same
        exact ⟨_, map_eq_ok.mpr ⟨_, innerStep, rfl⟩, finishes⟩
      | next innerStep inner =>
        cases same
        exact ⟨_, map_eq_ok.mpr ⟨_, innerStep, rfl⟩, ih.mpr ⟨_, _, found, rfl, inner, finishes⟩⟩

theorem Stage.finishes_value {during : Reading → Stage} {after : Value → Stage}
    (goesOn : ∀ reading token,
      (during reading).step token = (reading.step 1 token).map (Stage.inside during after))
    (unfinished : ∀ reading found, during reading ≠ .done found) {care : Care} :
    (during (Reading.start care)).Finishes tokens envelope ↔
      ∃ (tree : Tree) (rest : List Token) (found : Value), tokens = tree.tokens ++ rest ∧
        tree.Reads care payloadRoom found ∧ (after found).Finishes rest envelope := by
  rw [Stage.finishes_inside goesOn unfinished]
  constructor
  · rintro ⟨used, rest, found, rfl, inner, finishes⟩
    obtain ⟨tree, rfl, read⟩ := finishes_iff_reads.mp inner
    exact ⟨tree, rest, found, rfl, read, finishes⟩
  · rintro ⟨tree, rest, found, rfl, read, finishes⟩
    exact ⟨tree.tokens, rest, found, rfl, finishes_iff_reads.mpr ⟨tree, rfl, read⟩, finishes⟩

theorem readText_eq_ok_iff {token : Token} {word : String} :
    readText token = .ok word ↔ ∃ pieces, token = .text pieces none ∧ Spells pieces word := by
  cases token with
  | text pieces flaw =>
    change Care.kept.readText pieces flaw = .ok word ↔ _
    rw [Care.readText_kept]
    constructor
    · rintro ⟨rfl, named⟩
      exact ⟨pieces, rfl, named⟩
    · rintro ⟨_, same, named⟩
      cases same
      exact ⟨rfl, named⟩
  | beginObject | endObject | beginArray | endArray | colon | comma | null | bool | number
  | brokenNumber | brokenWord | stray => simp [readText]

/-! ### An array -/

theorem Stage.finishes_itemsEnd {found : Envelope} :
    (Stage.itemsEnd found).Finishes tokens envelope ↔ tokens = [.endArray] ∧ found = envelope := by
  cases tokens with
  | nil => simp [Stage.finishes_nil]
  | cons token rest =>
    rw [Stage.finishes_cons]
    cases token with
    | endArray => simp [Stage.step, Stage.finishes_done]
    | beginObject | endObject | beginArray | colon | comma | null | bool | number | brokenNumber
    | brokenWord | text | stray => simp [Stage.step]

theorem Stage.finishes_itemPayload {kind : String} :
    (Stage.itemPayload kind (Reading.start .kept)).Finishes tokens envelope ↔
      ∃ (tree : Tree) (value : Value), tokens = tree.tokens ++ [.endArray] ∧
        tree.Reads .kept payloadRoom value ∧ envelope = ⟨kind, some value⟩ := by
  have goesOn (reading : Reading) (token : Token) :
      (Stage.itemPayload kind reading).step token = (reading.step 1 token).map
        (Stage.inside (.itemPayload kind) (fun found => .itemsEnd ⟨kind, some found⟩)) := rfl
  have unfinished (reading : Reading) (found : Envelope) :
      Stage.itemPayload kind reading ≠ .done found := fun impossible => nomatch impossible
  rw [Stage.finishes_value goesOn unfinished]
  simp only [Stage.finishes_itemsEnd]
  constructor
  · rintro ⟨tree, rest, value, rfl, read, rfl, rfl⟩
    exact ⟨tree, value, rfl, read, rfl⟩
  · rintro ⟨tree, value, rfl, read, rfl⟩
    exact ⟨tree, _, value, rfl, read, rfl, rfl⟩

theorem Stage.finishes_afterKind {kind : String} :
    (Stage.afterKind kind).Finishes tokens envelope ↔
      (tokens = [.endArray] ∧ envelope = ⟨kind, none⟩) ∨
        ∃ (tree : Tree) (value : Value), tokens = .comma :: (tree.tokens ++ [.endArray]) ∧
          tree.Reads .kept payloadRoom value ∧ envelope = ⟨kind, some value⟩ := by
  cases tokens with
  | nil => simp [Stage.finishes_nil]
  | cons token rest =>
    rw [Stage.finishes_cons]
    cases token with
    | endArray => simp [Stage.step, Stage.finishes_done, eq_comm]
    | comma => simp [Stage.step, Stage.finishes_itemPayload]
    | beginObject | endObject | beginArray | colon | null | bool | number | brokenNumber
    | brokenWord | text | stray => simp [Stage.step]

theorem Stage.step_itemKind {token : Token} {next : Stage} :
    Stage.itemKind.step token = .ok next ↔
      ∃ pieces word, token = .text pieces none ∧ Spells pieces word ∧ next = .afterKind word := by
  have step : Stage.itemKind.step token = .ok next ↔ (readText token).map .afterKind = .ok next := by
    cases token with
    | endArray => simp [Stage.step, readText, map_eq_ok]
    | beginObject | endObject | beginArray | colon | comma | null | bool | number | brokenNumber
    | brokenWord | text | stray => rfl
  rw [step, map_eq_ok]
  simp only [readText_eq_ok_iff]
  constructor
  · rintro ⟨word, ⟨pieces, rfl, named⟩, rfl⟩
    exact ⟨pieces, word, rfl, named, rfl⟩
  · rintro ⟨pieces, word, rfl, named, rfl⟩
    exact ⟨word, ⟨pieces, rfl, named⟩, rfl⟩

/-- An array of the type, or of the type and a payload. -/
theorem Stage.finishes_itemKind :
    Stage.itemKind.Finishes tokens envelope ↔
      ∃ pieces, Spells pieces envelope.kind ∧
        ((tokens = [.text pieces none, .endArray] ∧ envelope.payload = none) ∨
          ∃ (tree : Tree) (value : Value),
            tokens = .text pieces none :: .comma :: (tree.tokens ++ [.endArray]) ∧
              tree.Reads .kept payloadRoom value ∧ envelope.payload = some value) := by
  constructor
  · intro finishes
    cases tokens with
    | nil => cases Stage.finishes_nil.mp finishes
    | cons token rest =>
      obtain ⟨next, step, finishes⟩ := Stage.finishes_cons.mp finishes
      obtain ⟨pieces, word, rfl, named, rfl⟩ := Stage.step_itemKind.mp step
      rcases Stage.finishes_afterKind.mp finishes with ⟨rfl, rfl⟩ | ⟨tree, value, rfl, read, rfl⟩
      · exact ⟨pieces, named, .inl ⟨rfl, rfl⟩⟩
      · exact ⟨pieces, named, .inr ⟨tree, value, rfl, read, rfl⟩⟩
  · obtain ⟨kind, payload⟩ := envelope
    rintro ⟨pieces, named, ⟨rfl, rfl⟩ | ⟨tree, value, rfl, read, rfl⟩⟩
    · have step := Stage.step_itemKind.mpr ⟨pieces, kind, rfl, named, rfl⟩
      exact Stage.finishes_cons.mpr ⟨_, step, Stage.finishes_afterKind.mpr (.inl ⟨rfl, rfl⟩)⟩
    · have step := Stage.step_itemKind.mpr ⟨pieces, kind, rfl, named, rfl⟩
      exact Stage.finishes_cons.mpr
        ⟨_, step, Stage.finishes_afterKind.mpr (.inr ⟨tree, value, rfl, read, rfl⟩)⟩

/-! ### An object -/

def Draft.Fills (draft : Draft) : Slot → Tree → Draft → Prop
  | .kind, tree, next => ∃ word, IsText word tree ∧ next = { draft with kind := some word }
  | .payload, tree, next =>
    ∃ value, tree.Reads .kept payloadRoom value ∧ next = { draft with payload := some value }
  | .ignored, _, next => next = draft

def Draft.Takes (draft : Draft) (key : List Json.Piece) (tree : Tree) (next : Draft) : Prop :=
  ∃ name slot, Spells key name ∧ draft.slot name = .ok slot ∧ draft.Fills slot tree next

def Draft.TakesAll : Draft → List (List Json.Piece × Tree) → Draft → Prop
  | draft, [], last => last = draft
  | draft, (key, tree) :: fields, last =>
    ∃ next : Draft, draft.Takes key tree next ∧ next.TakesAll fields last

theorem Stage.finishes_slot {draft : Draft} {slot : Slot} :
    (slot.stage draft).Finishes tokens envelope ↔
      ∃ (tree : Tree) (next : Draft) (rest : List Token), tokens = tree.tokens ++ rest ∧
        draft.Fills slot tree next ∧ (Stage.separator next).Finishes rest envelope := by
  have goesOn (slot : Slot) (reading : Reading) (token : Token) :
      (Stage.value draft slot reading).step token = (reading.step 1 token).map
        (Stage.inside (.value draft slot) (fun found => .separator (draft.put slot found))) := rfl
  have unfinished (slot : Slot) (reading : Reading) (found : Envelope) :
      Stage.value draft slot reading ≠ .done found := fun impossible => nomatch impossible
  cases slot with
  | kind =>
    constructor
    · intro finishes
      cases tokens with
      | nil => cases Stage.finishes_nil.mp finishes
      | cons token rest =>
        obtain ⟨next, step, goesOn⟩ := Stage.finishes_cons.mp finishes
        obtain ⟨word, read, rfl⟩ := map_eq_ok.mp step
        obtain ⟨pieces, rfl, named⟩ := readText_eq_ok_iff.mp read
        exact ⟨.text pieces, _, rest, rfl, ⟨word, ⟨pieces, rfl, named⟩, rfl⟩, goesOn⟩
    · rintro ⟨tree, next, rest, rfl, ⟨word, ⟨pieces, rfl, named⟩, rfl⟩, finishes⟩
      have read := readText_eq_ok_iff.mpr ⟨pieces, rfl, named⟩
      exact Stage.finishes_cons.mpr ⟨_, map_eq_ok.mpr ⟨word, read, rfl⟩, finishes⟩
  | payload =>
    rw [Slot.stage, Stage.finishes_value (goesOn .payload) (unfinished .payload)]
    constructor
    · rintro ⟨tree, rest, value, rfl, read, finishes⟩
      exact ⟨tree, _, rest, rfl, ⟨value, read, rfl⟩, finishes⟩
    · rintro ⟨tree, next, rest, rfl, ⟨value, read, rfl⟩, finishes⟩
      exact ⟨tree, rest, value, rfl, read, finishes⟩
  | ignored =>
    rw [Slot.stage, Stage.finishes_value (goesOn .ignored) (unfinished .ignored)]
    constructor
    · rintro ⟨tree, rest, value, rfl, _, finishes⟩
      exact ⟨tree, draft, rest, rfl, rfl, finishes⟩
    · rintro ⟨tree, next, rest, rfl, rfl, finishes⟩
      obtain ⟨value, read⟩ := reads_skipped tree payloadRoom
      exact ⟨tree, rest, value, rfl, read, finishes⟩

theorem readKey_eq_ok_iff {draft : Draft} {token : Token} {stage : Stage} :
    readKey draft token = .ok stage ↔
      ∃ pieces name slot, token = .text pieces none ∧ Spells pieces name ∧
        draft.slot name = .ok slot ∧ stage = .colon draft slot := by
  cases token with
  | text pieces flaw =>
    cases read : Care.kept.readText pieces flaw with
    | error found =>
      simp only [readKey, read]
      constructor
      · intro impossible
        cases impossible
      · rintro ⟨_, name, _, same, named, _⟩
        cases same
        rw [Care.readText_kept.mpr ⟨rfl, named⟩] at read
        cases read
    | ok name =>
      obtain ⟨rfl, named⟩ := Care.readText_kept.mp read
      simp only [readKey, read, map_eq_ok]
      constructor
      · rintro ⟨slot, known, rfl⟩
        exact ⟨pieces, name, slot, rfl, named, known, rfl⟩
      · rintro ⟨_, another, slot, same, alsoNamed, known, rfl⟩
        cases same
        rw [Care.readText_kept.mpr ⟨rfl, alsoNamed⟩] at read
        cases read
        exact ⟨slot, known, rfl⟩
  | beginObject | endObject | beginArray | endArray | colon | comma | null | bool | number
  | brokenNumber | brokenWord | stray => simp [readKey]

theorem Stage.finishes_colon {draft : Draft} {slot : Slot} :
    (Stage.colon draft slot).Finishes tokens envelope ↔
      ∃ rest, tokens = .colon :: rest ∧ (slot.stage draft).Finishes rest envelope := by
  cases tokens with
  | nil => simp [Stage.finishes_nil]
  | cons token rest =>
    rw [Stage.finishes_cons]
    cases token with
    | colon => simp [Stage.step]
    | beginObject | endObject | beginArray | endArray | comma | null | bool | number
    | brokenNumber | brokenWord | text | stray => simp [Stage.step]

theorem Stage.finishes_key {draft : Draft} :
    (Stage.key draft).Finishes tokens envelope ↔
      ∃ (key : List Json.Piece) (tree : Tree) (next : Draft) (rest : List Token),
        tokens = .text key none :: .colon :: (tree.tokens ++ rest) ∧ draft.Takes key tree next ∧
          (Stage.separator next).Finishes rest envelope := by
  constructor
  · intro finishes
    cases tokens with
    | nil => cases Stage.finishes_nil.mp finishes
    | cons token rest =>
      obtain ⟨stage, step, finishes⟩ := Stage.finishes_cons.mp finishes
      obtain ⟨key, name, slot, rfl, named, known, rfl⟩ := readKey_eq_ok_iff.mp step
      obtain ⟨behind, rfl, finishes⟩ := Stage.finishes_colon.mp finishes
      obtain ⟨tree, next, left, rfl, fills, finishes⟩ := Stage.finishes_slot.mp finishes
      exact ⟨key, tree, next, left, rfl, ⟨name, slot, named, known, fills⟩, finishes⟩
  · rintro ⟨key, tree, next, rest, rfl, ⟨name, slot, named, known, fills⟩, finishes⟩
    have value := Stage.finishes_slot.mpr ⟨tree, next, rest, rfl, fills, finishes⟩
    have colon := Stage.finishes_colon.mpr ⟨_, rfl, value⟩
    have step := readKey_eq_ok_iff.mpr ⟨key, name, slot, rfl, named, known, rfl⟩
    exact Stage.finishes_cons.mpr ⟨_, step, colon⟩

/-- A draft that is complete as this envelope. -/
def Draft.Is (draft : Draft) (envelope : Envelope) : Prop :=
  draft.kind = some envelope.kind ∧ draft.payload = envelope.payload

theorem Draft.finish_eq_ok_iff {draft : Draft} {stage : Stage} :
    draft.finish = .ok stage ↔ ∃ found, stage = .done found ∧ draft.Is found := by
  obtain ⟨kind, payload⟩ := draft
  cases kind with
  | none => simp [Draft.finish, Draft.Is]
  | some kind =>
    constructor
    · intro finished
      cases finished
      exact ⟨⟨kind, payload⟩, rfl, rfl, rfl⟩
    · rintro ⟨found, rfl, sameKind, samePayload⟩
      cases sameKind
      cases samePayload
      rfl

theorem Stage.finishes_separator {draft : Draft} :
    (Stage.separator draft).Finishes tokens envelope ↔
      ∃ (fields : List (List Json.Piece × Tree)) (last : Draft),
        tokens = moreFieldTokens fields ++ [.endObject] ∧ draft.TakesAll fields last ∧
          last.Is envelope := by
  constructor
  · intro finishes
    -- Each field takes tokens off the front, so the induction is on how many are left.
    induction size : tokens.length using Nat.strongRecOn generalizing tokens draft with
    | ind length ih =>
    cases tokens with
    | nil => cases Stage.finishes_nil.mp finishes
    | cons token rest =>
      obtain ⟨stage, step, goesOn⟩ := Stage.finishes_cons.mp finishes
      cases token with
      | comma =>
        cases step
        obtain ⟨key, tree, next, left, rfl, first, later⟩ := Stage.finishes_key.mp goesOn
        have shorter : left.length < length := by
          rw [← size]
          simp
          omega
        obtain ⟨fields, last, rfl, takes, complete⟩ := ih left.length shorter later rfl
        exact ⟨(key, tree) :: fields, last, by simp [moreFieldTokens], ⟨next, first, takes⟩, complete⟩
      | endObject =>
        obtain ⟨found, rfl, complete⟩ := Draft.finish_eq_ok_iff.mp step
        obtain ⟨rfl, rfl⟩ := Stage.finishes_done.mp goesOn
        exact ⟨[], draft, rfl, rfl, complete⟩
      | beginObject | beginArray | endArray | colon | null | bool | number | brokenNumber
      | brokenWord | text | stray => cases step
  · rintro ⟨fields, last, rfl, takes, complete⟩
    induction fields generalizing draft with
    | nil =>
      cases takes
      exact Stage.finishes_cons.mpr
        ⟨_, Draft.finish_eq_ok_iff.mpr ⟨envelope, rfl, complete⟩, Stage.finishes_done.mpr ⟨rfl, rfl⟩⟩
    | cons field fields ih =>
      obtain ⟨next, first, later⟩ := takes
      have whole : moreFieldTokens (field :: fields) ++ [.endObject] = .comma ::
          .text field.1 none :: .colon ::
            (field.2.tokens ++ (moreFieldTokens fields ++ [.endObject])) := by
        simp [moreFieldTokens]
      have key := Stage.finishes_key.mpr ⟨field.1, field.2, next, _, rfl, first, ih later⟩
      rw [whole]
      exact Stage.finishes_cons.mpr ⟨_, rfl, key⟩

theorem Stage.finishes_first :
    Stage.first.Finishes tokens envelope ↔
      ∃ (fields : List (List Json.Piece × Tree)) (last : Draft),
        tokens = fieldTokens fields ++ [.endObject] ∧ Draft.TakesAll ⟨none, none⟩ fields last ∧
          last.Is envelope := by
  constructor
  · intro finishes
    cases tokens with
    | nil => cases Stage.finishes_nil.mp finishes
    | cons token rest =>
      obtain ⟨stage, step, goesOn⟩ := Stage.finishes_cons.mp finishes
      have key : (Stage.key ⟨none, none⟩).Finishes (token :: rest) envelope := by
        cases token with
        | endObject => cases step
        | beginObject | beginArray | endArray | colon | comma | null | bool | number | brokenNumber
        | brokenWord | text | stray => exact Stage.finishes_cons.mpr ⟨stage, step, goesOn⟩
      obtain ⟨key, tree, next, left, same, first, later⟩ := Stage.finishes_key.mp key
      obtain ⟨fields, last, rfl, takes, complete⟩ := Stage.finishes_separator.mp later
      exact ⟨(key, tree) :: fields, last, by rw [same]; simp [fieldTokens], ⟨next, first, takes⟩,
        complete⟩
  · rintro ⟨fields, last, rfl, takes, complete⟩
    cases fields with
    | nil =>
      cases takes
      cases complete.1
    | cons field fields =>
      obtain ⟨next, first, later⟩ := takes
      have whole : fieldTokens (field :: fields) ++ [.endObject] = .text field.1 none :: .colon ::
          (field.2.tokens ++ (moreFieldTokens fields ++ [.endObject])) := by
        simp [fieldTokens]
      have goesOn := Stage.finishes_separator.mpr ⟨fields, last, rfl, later, complete⟩
      have key := Stage.finishes_key.mpr ⟨field.1, field.2, next, _, rfl, first, goesOn⟩
      obtain ⟨stage, step, finishes⟩ := Stage.finishes_cons.mp key
      rw [whole]
      exact Stage.finishes_cons.mpr ⟨stage, step, finishes⟩

theorem Stage.finishes_start :
    Stage.start.Finishes tokens envelope ↔
      (∃ rest, tokens = .beginObject :: rest ∧ Stage.first.Finishes rest envelope) ∨
        ∃ rest, tokens = .beginArray :: rest ∧ Stage.itemKind.Finishes rest envelope := by
  cases tokens with
  | nil => simp [Stage.finishes_nil]
  | cons token rest =>
    rw [Stage.finishes_cons]
    cases token with
    | beginObject | beginArray => simp [Stage.step]
    | endObject | endArray | colon | comma | null | bool | number | brokenNumber | brokenWord
    | text | stray => simp [Stage.step]

end

/-! ### The fields of an envelope by their names -/

/-- When a key of that name has this slot. -/
def Draft.Allows (draft : Draft) (name : String) : Slot → Prop
  | .kind => name = "type" ∧ draft.kind = none
  | .payload => name = "payload" ∧ draft.payload = none
  | .ignored => name ≠ "type" ∧ name ≠ "payload"

theorem Draft.slot_eq_ok_iff {draft : Draft} {name : String} {slot : Slot} :
    draft.slot name = .ok slot ↔ draft.Allows name slot := by
  obtain ⟨kind, payload⟩ := draft
  unfold Draft.slot
  by_cases isType : name = "type"
  · cases kind <;> cases slot <;> simp [Draft.Allows, isType]
  · by_cases isPayload : name = "payload"
    · cases payload <;> cases slot <;> simp [Draft.Allows, isPayload]
    · cases slot <;> simp [Draft.Allows, isType, isPayload]

/-- What was there stays if nothing is put there, and one value may be put where there was none. -/
inductive Filled {α : Type} (reads : Tree → α → Prop) (old : Option α) :
    List Tree → Option α → Prop
  | kept : Filled reads old [] old
  | put {tree : Tree} {value : α} (free : old = none) (read : reads tree value) :
      Filled reads old [tree] (some value)

theorem spells_unique {pieces : List Json.Piece} {name another : String} (named : Spells pieces name)
    (alsoNamed : Spells pieces another) : name = another := by
  have read := Care.readText_kept.mpr ⟨rfl, named⟩
  rw [Care.readText_kept.mpr ⟨rfl, alsoNamed⟩] at read
  exact (Except.ok.inj read).symm

theorem takesAll_iff {draft last : Draft} {fields : List (List Json.Piece × Tree)} :
    draft.TakesAll fields last ↔
      ∃ kinds payloads, ValuesOf "type" fields kinds ∧ ValuesOf "payload" fields payloads ∧
        Filled (fun tree word => IsText word tree) draft.kind kinds last.kind ∧
        Filled (Tree.Reads .kept payloadRoom) draft.payload payloads last.payload := by
  induction fields generalizing draft with
  | nil =>
    constructor
    · intro takes
      cases takes
      exact ⟨[], [], .nil, .nil, .kept, .kept⟩
    · rintro ⟨_, _, kinds, payloads, kindFilled, payloadFilled⟩
      cases kinds
      cases payloads
      obtain ⟨kind, payload⟩ := last
      obtain ⟨oldKind, oldPayload⟩ := draft
      cases kindFilled
      cases payloadFilled
      rfl
  | cons field fields ih =>
    obtain ⟨key, tree⟩ := field
    obtain ⟨oldKind, oldPayload⟩ := draft
    obtain ⟨kind, payload⟩ := last
    constructor
    · rintro ⟨next, ⟨name, slot, named, known, fills⟩, later⟩
      obtain ⟨kinds, payloads, laterKinds, laterPayloads, kindFilled, payloadFilled⟩ := ih.mp later
      have allowed := Draft.slot_eq_ok_iff.mp known
      cases slot with
      | kind =>
        obtain ⟨rfl, free⟩ := allowed
        obtain ⟨word, isText, rfl⟩ := fills
        cases kindFilled with
        | kept =>
          exact ⟨[tree], payloads, .here named laterKinds, .other named (by decide) laterPayloads,
            .put free isText, payloadFilled⟩
        | put impossible => cases impossible
      | payload =>
        obtain ⟨rfl, free⟩ := allowed
        obtain ⟨value, read, rfl⟩ := fills
        cases payloadFilled with
        | kept =>
          exact ⟨kinds, [tree], .other named (by decide) laterKinds, .here named laterPayloads,
            kindFilled, .put free read⟩
        | put impossible => cases impossible
      | ignored =>
        obtain ⟨notType, notPayload⟩ := allowed
        cases fills
        exact ⟨kinds, payloads, .other named notType laterKinds,
          .other named notPayload laterPayloads,
          kindFilled, payloadFilled⟩
    · rintro ⟨_, _, kinds, payloads, kindFilled, payloadFilled⟩
      cases kinds with
      | here named laterKinds =>
        cases payloads with
        | here alsoNamed => exact absurd (spells_unique named alsoNamed) (by decide)
        | other _ _ laterPayloads =>
          cases kindFilled with
          | put free isText =>
            have allowed : Draft.Allows ⟨oldKind, oldPayload⟩ "type" .kind := ⟨rfl, free⟩
            have slot := Draft.slot_eq_ok_iff.mpr allowed
            exact ⟨_, ⟨"type", .kind, named, slot, _, isText, rfl⟩,
              ih.mpr ⟨[], _, laterKinds, laterPayloads, .kept, payloadFilled⟩⟩
      | other named notType laterKinds =>
        cases payloads with
        | here alsoNamed laterPayloads =>
          cases payloadFilled with
          | put free read =>
            have allowed : Draft.Allows ⟨oldKind, oldPayload⟩ "payload" .payload := ⟨rfl, free⟩
            have slot := Draft.slot_eq_ok_iff.mpr allowed
            exact ⟨_, ⟨"payload", .payload, alsoNamed, slot, _, read, rfl⟩,
              ih.mpr ⟨_, [], laterKinds, laterPayloads, kindFilled, .kept⟩⟩
        | other alsoNamed notPayload laterPayloads =>
          cases spells_unique named alsoNamed
          have allowed : Draft.Allows ⟨oldKind, oldPayload⟩ _ .ignored := ⟨notType, notPayload⟩
          have slot := Draft.slot_eq_ok_iff.mpr allowed
          exact ⟨⟨oldKind, oldPayload⟩, ⟨_, .ignored, named, slot, rfl⟩,
            ih.mpr ⟨_, _, laterKinds, laterPayloads, kindFilled, payloadFilled⟩⟩

/-! ### The whole text -/

theorem read_eq_ok_iff_finishes {text : String} {envelope : Envelope} :
    Envelope.read text = .ok envelope ↔ Stage.start.Finishes (tokens text.toList) envelope := by
  unfold Envelope.read Stage.Finishes
  cases Stage.start.run (tokens text.toList) with
  | error flaw => simp
  | ok stage => cases stage <;> simp

theorem finishes_object_iff {fields : List (List Json.Piece × Tree)} {envelope : Envelope} :
    (∃ last, Draft.TakesAll ⟨none, none⟩ fields last ∧ last.Is envelope) ↔
      ∃ kind payload, IsEnvelope (.object fields) kind payload ∧ Spells kind envelope.kind ∧
        OptionReads payloadRoom payload envelope.payload := by
  obtain ⟨kind, payload⟩ := envelope
  constructor
  · rintro ⟨⟨lastKind, lastPayload⟩, takes, sameKind, samePayload⟩
    change lastKind = some kind at sameKind
    change lastPayload = payload at samePayload
    subst sameKind
    subst samePayload
    obtain ⟨kinds, payloads, typed, paid, kindFilled, payloadFilled⟩ := takesAll_iff.mp takes
    cases kindFilled with
    | put _ isText =>
      obtain ⟨pieces, rfl, named⟩ := isText
      cases payloadFilled with
      | kept => exact ⟨pieces, none, .object typed paid, named, rfl⟩
      | put _ read => exact ⟨pieces, some _, .object typed paid, named, _, rfl, read⟩
  · rintro ⟨pieces, paidTree, isEnvelope, named, read⟩
    cases isEnvelope with
    | object typed paid =>
      have kindFilled : Filled (fun tree word => IsText word tree) none [.text pieces] (some kind) :=
        .put rfl ⟨pieces, rfl, named⟩
      cases paidTree with
      | none =>
        cases read
        exact ⟨⟨some kind, none⟩, takesAll_iff.mpr ⟨_, _, typed, paid, kindFilled, .kept⟩, rfl, rfl⟩
      | some tree =>
        obtain ⟨value, rfl, read⟩ := read
        exact ⟨⟨some kind, some value⟩,
          takesAll_iff.mpr ⟨_, _, typed, paid, kindFilled, .put rfl read⟩, rfl, rfl⟩

/-- Which texts are read as envelopes, and as which. -/
theorem read_eq_ok_iff {text : String} {envelope : Envelope} :
    Envelope.read text = .ok envelope ↔
      ∃ tree kind payload, tree.Document text ∧ IsEnvelope tree kind payload ∧
        Spells kind envelope.kind ∧ OptionReads payloadRoom payload envelope.payload := by
  rw [read_eq_ok_iff_finishes, Stage.finishes_start]
  constructor
  · rintro (⟨rest, scanned, finishes⟩ | ⟨rest, scanned, finishes⟩)
    · obtain ⟨fields, last, rfl, takes, complete⟩ := Stage.finishes_first.mp finishes
      obtain ⟨kind, payload, isEnvelope, found⟩ := finishes_object_iff.mp ⟨last, takes, complete⟩
      have document : (Tree.object fields).Document text := by
        have same := Tree.tokens_object fields []
        rw [List.append_nil] at same
        rw [← tokens_eq_iff_document, scanned, same]
      exact ⟨_, kind, payload, document, isEnvelope, found⟩
    · obtain ⟨pieces, named, ⟨rfl, absent⟩ | ⟨tree, value, rfl, read, present⟩⟩ :=
        Stage.finishes_itemKind.mp finishes
      · have document : (Tree.array [.text pieces]).Document text :=
          tokens_eq_iff_document.mp scanned
        exact ⟨_, pieces, none, document, .kind, named, absent⟩
      · have document : (Tree.array [.text pieces, tree]).Document text := by
          rw [← tokens_eq_iff_document, scanned]
          simp [Tree.tokens, moreItemTokens]
        exact ⟨_, pieces, some tree, document, .pair, named, value, present, read⟩
  · rintro ⟨tree, kind, payload, document, isEnvelope, named, read⟩
    have scanned := tokens_eq_iff_document.mpr document
    cases isEnvelope with
    | @object fields _ _ typed paid =>
      obtain ⟨last, takes, complete⟩ :=
        finishes_object_iff.mpr ⟨kind, payload, .object typed paid, named, read⟩
      have same := Tree.tokens_object fields []
      rw [List.append_nil] at same
      exact .inl ⟨_, scanned.trans same,
        Stage.finishes_first.mpr ⟨fields, last, rfl, takes, complete⟩⟩
    | kind =>
      exact .inr ⟨_, scanned, Stage.finishes_itemKind.mpr ⟨kind, named, .inl ⟨rfl, read⟩⟩⟩
    | @pair _ tree =>
      obtain ⟨value, present, read⟩ := read
      have whole : (Tree.array [.text kind, tree]).tokens =
          .beginArray :: .text kind none :: .comma :: (tree.tokens ++ [.endArray]) := by
        simp [Tree.tokens, moreItemTokens]
      exact .inr ⟨_, scanned.trans whole,
        Stage.finishes_itemKind.mpr ⟨kind, named, .inr ⟨tree, value, rfl, read, present⟩⟩⟩

end WordGame.Envelope
