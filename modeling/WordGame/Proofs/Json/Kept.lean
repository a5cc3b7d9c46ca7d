import WordGame.Proofs.Json.Numbers
import WordGame.Proofs.Json.Reading

/-!
What is kept of a tree. A tree that is only skipped may be anything; one that is kept has to be
within the limits (`bounded_iff_reads`), and its form can be told from the value.
-/

namespace WordGame.Json

theorem Care.readNumber_kept {numeral : Numeral} {value : Value} :
    Care.kept.readNumber numeral = .ok value ↔
      ∃ number, numeral.number? = some number ∧ value = .number number := by
  unfold Care.readNumber
  cases read : numeral.number? with
  | none => simp
  | some number => simp [eq_comm]

theorem itemsRead_nil_iff {items : List Tree} {values : List Value} {care : Care} {room : Nat}
    (read : ItemsRead care room items values) : values = [] ↔ items = [] := by
  cases items with
  | nil =>
    cases read
    simp
  | cons =>
    obtain ⟨_, _, rfl, _⟩ := read
    simp

theorem fieldsRead_nil_iff {fields : List (List Piece × Tree)} {entries : List (String × Value)}
    {care : Care} {room : Nat} (read : FieldsRead care room fields entries) :
    entries = [] ↔ fields = [] := by
  cases fields with
  | nil =>
    cases read
    simp
  | cons =>
    obtain ⟨_, _, _, rfl, _⟩ := read
    simp

theorem fields_of_fieldsRead_cons {fields : List (List Piece × Tree)} {name : String} {value : Value}
    {entries : List (String × Value)} {care : Care} {room : Nat}
    (read : FieldsRead care room fields ((name, value) :: entries)) :
    ∃ key tree rest, fields = (key, tree) :: rest ∧ care.readText key none = .ok name ∧
      tree.Reads care room value ∧ FieldsRead care room rest entries := by
  cases fields with
  | nil => cases read
  | cons field rest =>
    obtain ⟨_, _, _, same, keyRead, valueRead, restRead⟩ := read
    cases same
    exact ⟨field.1, field.2, rest, rfl, keyRead, valueRead, restRead⟩

/-! ### Skipping -/

mutual

theorem reads_skipped (tree : Tree) (room : Nat) : ∃ value, tree.Reads .skipped room value := by
  match tree with
  | .null => exact ⟨.null, rfl⟩
  | .bool truth => exact ⟨.bool truth, rfl⟩
  | .number numeral => exact ⟨.null, rfl⟩
  | .text pieces => exact ⟨.text "", "", rfl, rfl⟩
  | .array items =>
    obtain ⟨values, read⟩ := itemsRead_skipped items (room - 1)
    have careless : Care.skipped = .kept → 0 < room := fun impossible => nomatch impossible
    exact ⟨.array values, careless, values, read, rfl⟩
  | .object fields =>
    obtain ⟨entries, read⟩ := fieldsRead_skipped fields (room - 1)
    have careless : Care.skipped = .kept → 0 < room := fun impossible => nomatch impossible
    exact ⟨.object entries, careless, entries, read, rfl⟩

theorem itemsRead_skipped (items : List Tree) (room : Nat) :
    ∃ values, ItemsRead .skipped room items values := by
  match items with
  | [] => exact ⟨[], rfl⟩
  | item :: items =>
    obtain ⟨first, firstRead⟩ := reads_skipped item room
    obtain ⟨values, read⟩ := itemsRead_skipped items room
    exact ⟨first :: values, first, values, rfl, firstRead, read⟩

theorem fieldsRead_skipped (fields : List (List Piece × Tree)) (room : Nat) :
    ∃ entries, FieldsRead .skipped room fields entries := by
  match fields with
  | [] => exact ⟨[], rfl⟩
  | (key, tree) :: fields =>
    obtain ⟨value, valueRead⟩ := reads_skipped tree room
    obtain ⟨entries, read⟩ := fieldsRead_skipped fields room
    exact ⟨("", value) :: entries, "", value, entries, rfl, rfl, valueRead, read⟩

end

/-! ### Keeping -/

mutual

theorem bounded_iff_reads (tree : Tree) (room : Nat) :
    tree.Bounded room ↔ ∃ value, tree.Reads .kept room value := by
  match tree with
  | .null => exact ⟨fun _ => ⟨.null, rfl⟩, fun _ => trivial⟩
  | .bool truth => exact ⟨fun _ => ⟨.bool truth, rfl⟩, fun _ => trivial⟩
  | .number numeral =>
    constructor
    · intro finite
      obtain ⟨number, read⟩ := Option.isSome_iff_exists.mp finite
      exact ⟨.number number, Care.readNumber_kept.mpr ⟨number, read, rfl⟩⟩
    · rintro ⟨value, kept⟩
      obtain ⟨number, read, _⟩ := Care.readNumber_kept.mp kept
      exact Option.isSome_iff_exists.mpr ⟨number, read⟩
  | .text pieces =>
    constructor
    · rintro ⟨word, named⟩
      exact ⟨.text word, word, Care.readText_kept.mpr ⟨rfl, named⟩, rfl⟩
    · rintro ⟨value, word, read, _⟩
      exact ⟨word, (Care.readText_kept.mp read).2⟩
  | .array items =>
    have inside := itemsBounded_iff_read items (room - 1)
    constructor
    · rintro ⟨space, bounded⟩
      obtain ⟨values, read⟩ := inside.mp bounded
      exact ⟨.array values, fun _ => space, values, read, rfl⟩
    · rintro ⟨value, space, values, read, _⟩
      exact ⟨space rfl, inside.mpr ⟨values, read⟩⟩
  | .object fields =>
    have inside := fieldsBounded_iff_read fields (room - 1)
    constructor
    · rintro ⟨space, bounded⟩
      obtain ⟨entries, read⟩ := inside.mp bounded
      exact ⟨.object entries, fun _ => space, entries, read, rfl⟩
    · rintro ⟨value, space, entries, read, _⟩
      exact ⟨space rfl, inside.mpr ⟨entries, read⟩⟩

theorem itemsBounded_iff_read (items : List Tree) (room : Nat) :
    ItemsBounded room items ↔ ∃ values, ItemsRead .kept room items values := by
  match items with
  | [] => exact ⟨fun _ => ⟨[], rfl⟩, fun _ => trivial⟩
  | item :: items =>
    constructor
    · rintro ⟨itemBounded, bounded⟩
      obtain ⟨first, firstRead⟩ := (bounded_iff_reads item room).mp itemBounded
      obtain ⟨values, read⟩ := (itemsBounded_iff_read items room).mp bounded
      exact ⟨first :: values, first, values, rfl, firstRead, read⟩
    · rintro ⟨_, first, values, _, firstRead, read⟩
      exact ⟨(bounded_iff_reads item room).mpr ⟨first, firstRead⟩,
        (itemsBounded_iff_read items room).mpr ⟨values, read⟩⟩

theorem fieldsBounded_iff_read (fields : List (List Piece × Tree)) (room : Nat) :
    FieldsBounded room fields ↔ ∃ entries, FieldsRead .kept room fields entries := by
  match fields with
  | [] => exact ⟨fun _ => ⟨[], rfl⟩, fun _ => trivial⟩
  | (key, tree) :: fields =>
    constructor
    · rintro ⟨⟨name, named⟩, treeBounded, bounded⟩
      obtain ⟨value, valueRead⟩ := (bounded_iff_reads tree room).mp treeBounded
      obtain ⟨entries, read⟩ := (fieldsBounded_iff_read fields room).mp bounded
      have keyRead := Care.readText_kept.mpr ⟨rfl, named⟩
      exact ⟨(name, value) :: entries, name, value, entries, rfl, keyRead, valueRead, read⟩
    · rintro ⟨_, name, value, entries, _, keyRead, valueRead, read⟩
      exact ⟨⟨name, (Care.readText_kept.mp keyRead).2⟩,
        (bounded_iff_reads tree room).mpr ⟨value, valueRead⟩,
        (fieldsBounded_iff_read fields room).mpr ⟨entries, read⟩⟩

end

/-- A tree that is there is kept as a value that is there. -/
def OptionReads (room : Nat) : Option Tree → Option Value → Prop
  | none, value => value = none
  | some tree, value => ∃ found, value = some found ∧ tree.Reads .kept room found

/-! ### At most one value -/

mutual

theorem reads_unique (tree : Tree) {care : Care} {room : Nat} {value another : Value}
    (read : tree.Reads care room value) (alsoRead : tree.Reads care room another) :
    value = another := by
  match tree with
  | .null | .bool truth =>
    cases read
    cases alsoRead
    rfl
  | .number numeral => exact Except.ok.inj (read.symm.trans alsoRead)
  | .text pieces =>
    obtain ⟨word, known, rfl⟩ := read
    obtain ⟨_, alsoKnown, rfl⟩ := alsoRead
    rw [Except.ok.inj (known.symm.trans alsoKnown)]
  | .array items =>
    obtain ⟨_, values, read, rfl⟩ := read
    obtain ⟨_, others, alsoRead, rfl⟩ := alsoRead
    rw [itemsRead_unique items read alsoRead]
  | .object fields =>
    obtain ⟨_, entries, read, rfl⟩ := read
    obtain ⟨_, others, alsoRead, rfl⟩ := alsoRead
    rw [fieldsRead_unique fields read alsoRead]

theorem itemsRead_unique (items : List Tree) {care : Care} {room : Nat} {values others : List Value}
    (read : ItemsRead care room items values) (alsoRead : ItemsRead care room items others) :
    values = others := by
  match items with
  | [] =>
    cases read
    cases alsoRead
    rfl
  | item :: items =>
    obtain ⟨first, rest, rfl, firstRead, restRead⟩ := read
    obtain ⟨_, _, rfl, alsoFirst, alsoRest⟩ := alsoRead
    rw [reads_unique item firstRead alsoFirst, itemsRead_unique items restRead alsoRest]

theorem fieldsRead_unique (fields : List (List Piece × Tree)) {care : Care} {room : Nat}
    {entries others : List (String × Value)} (read : FieldsRead care room fields entries)
    (alsoRead : FieldsRead care room fields others) : entries = others := by
  match fields with
  | [] =>
    cases read
    cases alsoRead
    rfl
  | (key, tree) :: fields =>
    obtain ⟨name, value, rest, rfl, named, valueRead, restRead⟩ := read
    obtain ⟨_, _, _, rfl, alsoNamed, alsoValue, alsoRest⟩ := alsoRead
    rw [Except.ok.inj (named.symm.trans alsoNamed), reads_unique tree valueRead alsoValue,
      fieldsRead_unique fields restRead alsoRest]

end

/-! ### The form of what was kept -/

section
variable {tree : Tree} {room : Nat}

theorem reads_null_iff : tree.Reads .kept room .null ↔ tree = .null := by
  cases tree <;> simp [Tree.Reads, Care.readNumber_kept]

theorem reads_integer_iff {n : Int} :
    tree.Reads .kept room (.number (.integer n)) ↔
      tree.IsInteger n ∧ -(Word.half64 : Int) ≤ n ∧ n < Word.size64 := by
  cases tree with
  | number numeral =>
    simp [Tree.Reads, Tree.IsInteger, Care.readNumber_kept, number?_eq_integer_iff]
  | null | bool | text | array | object => simp [Tree.Reads, Tree.IsInteger]

theorem reads_text_iff {word : String} :
    tree.Reads .kept room (.text word) ↔ ∃ pieces, tree = .text pieces ∧ Spells pieces word := by
  cases tree <;> simp [Tree.Reads, Care.readNumber_kept, Care.readText_kept]

theorem reads_array_iff {values : List Value} :
    tree.Reads .kept room (.array values) ↔
      ∃ items, tree = .array items ∧ 0 < room ∧ ItemsRead .kept (room - 1) items values := by
  cases tree <;> simp [Tree.Reads, Care.readNumber_kept]

theorem reads_object_iff {entries : List (String × Value)} :
    tree.Reads .kept room (.object entries) ↔
      ∃ fields, tree = .object fields ∧ 0 < room ∧ FieldsRead .kept (room - 1) fields entries := by
  cases tree <;> simp [Tree.Reads, Care.readNumber_kept]

end

end WordGame.Json
