import WordGame.Json.Printer
import WordGame.Proofs.Json.Kept

/-!
What the printer writes follows the grammar, and reading it gives the value that was written
(`tree_of_write`). This holds for all values but floating-point numbers, of which the digits are
only near the number.
-/

namespace WordGame.Json

mutual

/-- A value without floating-point numbers and with no integers past sixty-four bits, in which no
more containers lie in each other than there is room for. -/
def Value.Plain : Nat → Value → Prop
  | _, .null => True
  | _, .bool _ => True
  | _, .number (.integer n) => -(Word.half64 : Int) ≤ n ∧ n < Word.size64
  | _, .number (.real _ _) => False
  | _, .text _ => True
  | room, .array items => 0 < room ∧ ItemsPlain (room - 1) items
  | room, .object fields => 0 < room ∧ FieldsPlain (room - 1) fields

def ItemsPlain : Nat → List Value → Prop
  | _, [] => True
  | room, item :: items => item.Plain room ∧ ItemsPlain room items

def FieldsPlain : Nat → List (String × Value) → Prop
  | _, [] => True
  | room, (_, value) :: fields => value.Plain room ∧ FieldsPlain room fields

end

theorem padded_self {texts : List Char → Prop} {cs : List Char} (isText : texts cs) :
    Padded texts cs :=
  ⟨[], cs, [], by simp, blank_nil, isText, blank_nil⟩

/-! ### Texts -/

/-- The piece as which a character is written: a control character without a short escape is
written by its number. -/
def pieceOf (c : Char) : Piece :=
  if c.toNat < 0x20 ∧ c ∉ ['\x08', '\x0c', '\n', '\r', '\t'] then .unit c.toNat else .char c

theorem unitOf?_escape {n : Nat} (small : n < 0x20) :
    unitOf? '0' '0' (escape.hexDigit (n / 16)) (escape.hexDigit (n % 16)) = some n := by
  have all : ∀ n < 0x20,
      unitOf? '0' '0' (escape.hexDigit (n / 16)) (escape.hexDigit (n % 16)) = some n := by decide
  exact all n small

theorem pieceOf_spelled (c : Char) : (pieceOf c).Spelled (escape c) := by
  by_cases short : c = '"' ∨ c = '\\' ∨ c = '\x08' ∨ c = '\x0c' ∨ c = '\n' ∨ c = '\r' ∨ c = '\t'
  · rcases short with rfl | rfl | rfl | rfl | rfl | rfl | rfl
    all_goals exact .short rfl
  · simp only [not_or] at short
    obtain ⟨notQuote, notBackslash, notBackspace, notFeed, notLine, notReturn, notTab⟩ := short
    by_cases control : c.toNat < 0x20
    · have piece : pieceOf c = .unit c.toNat := by
        simp [pieceOf, control, notBackspace, notFeed, notLine, notReturn, notTab]
      have written : escape c = ['\\', 'u', '0', '0', escape.hexDigit (c.toNat / 16),
          escape.hexDigit (c.toNat % 16)] := by
        simp [escape, control, notQuote, notBackslash, notBackspace, notFeed, notLine, notReturn,
          notTab]
      rw [piece, written]
      exact .unit (unitOf?_escape control)
    · have piece : pieceOf c = .char c := by simp [pieceOf, control]
      have written : escape c = [c] := by
        simp [escape, control, notQuote, notBackslash, notBackspace, notFeed, notLine, notReturn,
          notTab]
      rw [piece, written]
      exact .plain notQuote notBackslash (Nat.le_of_not_lt control)

theorem piecesSpelled_escape (cs : List Char) :
    PiecesSpelled (cs.map pieceOf) (cs.flatMap escape) := by
  induction cs with
  | nil => exact .nil
  | cons c rest ih => exact .cons (pieceOf_spelled c) ih

theorem standsFor_pieceOf (cs : List Char) : StandsFor (cs.map pieceOf) cs := by
  induction cs with
  | nil => exact .nil
  | cons c rest ih =>
    rw [List.map_cons, pieceOf]
    split
    · rename_i control
      have notHigh : isHighSurrogate c.toNat = false := by
        simp [isHighSurrogate]
        omega
      have notLow : isLowSurrogate c.toNat = false := by
        simp [isLowSurrogate]
        omega
      have stands := StandsFor.unit notHigh notLow ih
      rw [Char.ofNat_toNat] at stands
      exact stands
    · exact .char ih

theorem quoted_writeText (word : String) : Quoted (word.toList.map pieceOf) (writeText word) :=
  ⟨_, rfl, piecesSpelled_escape word.toList⟩

theorem spells_pieceOf (word : String) : Spells (word.toList.map pieceOf) word :=
  standsFor_pieceOf word.toList

/-! ### Numbers -/

/-- No number but zero begins with a zero. -/
theorem digits_head (n : Nat) : (Decimal.digits n).head? = some 0 → Decimal.digits n = [0] := by
  rw [Decimal.digits]
  split
  · intro first
    cases first
    rfl
  · rename_i large
    intro first
    have begins : (Decimal.digits (n / 10)).head? = some 0 := by
      cases shorter : Decimal.digits (n / 10) with
      | nil => exact absurd shorter (Decimal.digits_ne_nil _)
      | cons d rest =>
        rw [shorter] at first
        exact first
    have zero : n / 10 = Decimal.value [0] := by
      rw [← digits_head (n / 10) begins, Decimal.value_digits]
    have none : Decimal.value [0] = 0 := rfl
    omega
termination_by n
decreasing_by omega

theorem magnitudeSpelled_digits (negative : Bool) (n : Nat) :
    MagnitudeSpelled ⟨negative, Decimal.digits n, [], none⟩ (Decimal.text n) where
  digits := ⟨Decimal.digits_ne_nil n, Decimal.digits_lt_ten n⟩
  noLeadingZero := digits_head n
  parts := ⟨[], [], .absent, .absent, by simp [Decimal.text]⟩

theorem numeral_of_write (n : Int) :
    ∃ numeral : Numeral, numeral.Spelled (Number.integer n).write ∧ numeral.IsInteger n := by
  by_cases negative : n < 0
  · refine ⟨⟨true, Decimal.digits n.natAbs, [], none⟩, ?_, rfl, rfl, ?_⟩
    · simp only [Number.write, if_pos negative]
      exact ⟨_, rfl, magnitudeSpelled_digits true n.natAbs⟩
    · simp only [if_true, Decimal.value_digits]
      omega
  · refine ⟨⟨false, Decimal.digits n.natAbs, [], none⟩, ?_, rfl, rfl, ?_⟩
    · simp only [Number.write, if_neg negative]
      exact magnitudeSpelled_digits false n.natAbs
    · simp only [Bool.false_eq_true, if_false, Decimal.value_digits]
      omega

/-! ### Values -/

/-- Items with a comma between any two. -/
def ItemsSpelled : List Tree → List Char → Prop
  | [], cs => cs = []
  | tree :: trees, cs =>
    ∃ first rest, cs = first ++ rest ∧ tree.Spelled first ∧ MoreItemsSpelled trees rest

def FieldsSpelled : List (List Piece × Tree) → List Char → Prop
  | [], cs => cs = []
  | (key, tree) :: fields, cs =>
    ∃ first rest, cs = first ++ rest ∧ FieldSpelled key tree.Spelled first ∧
      MoreFieldsSpelled fields rest

theorem ItemsSpelled.array {items : List Tree} {cs : List Char} (spelled : ItemsSpelled items cs) :
    (Tree.array items).Spelled ('[' :: cs ++ [']']) := by
  cases items with
  | nil =>
    cases spelled
    exact ⟨[], rfl, blank_nil⟩
  | cons item items =>
    obtain ⟨first, rest, rfl, here, later⟩ := spelled
    exact ⟨first, rest, rfl, padded_self here, later⟩

theorem ItemsSpelled.more {items : List Tree} {cs : List Char} (spelled : ItemsSpelled items cs)
    (some : items ≠ []) : MoreItemsSpelled items (',' :: cs) := by
  cases items with
  | nil => exact absurd rfl some
  | cons item items =>
    obtain ⟨first, rest, rfl, here, later⟩ := spelled
    exact ⟨first, rest, rfl, padded_self here, later⟩

theorem FieldsSpelled.object {fields : List (List Piece × Tree)} {cs : List Char}
    (spelled : FieldsSpelled fields cs) :
    (Tree.object fields).Spelled ('\x7b' :: cs ++ ['\x7d']) := by
  cases fields with
  | nil =>
    cases spelled
    exact ⟨[], rfl, blank_nil⟩
  | cons field fields =>
    obtain ⟨first, rest, rfl, here, later⟩ := spelled
    exact ⟨first, rest, rfl, here, later⟩

theorem FieldsSpelled.more {fields : List (List Piece × Tree)} {cs : List Char}
    (spelled : FieldsSpelled fields cs) (some : fields ≠ []) :
    MoreFieldsSpelled fields (',' :: cs) := by
  cases fields with
  | nil => exact absurd rfl some
  | cons field fields =>
    obtain ⟨first, rest, rfl, here, later⟩ := spelled
    exact ⟨first, rest, rfl, here, later⟩

mutual

/-- What is written of a plain value is read as that value. -/
theorem tree_of_write (value : Value) {room : Nat} (plain : value.Plain room) :
    ∃ tree : Tree, tree.Spelled value.write ∧ tree.Reads .kept room value := by
  match value with
  | .null => exact ⟨.null, rfl, rfl⟩
  | .bool true => exact ⟨.bool true, rfl, rfl⟩
  | .bool false => exact ⟨.bool false, rfl, rfl⟩
  | .number (.integer n) =>
    obtain ⟨numeral, spelled, whole⟩ := numeral_of_write n
    exact ⟨.number numeral, spelled, reads_integer_iff.mpr ⟨⟨numeral, rfl, whole⟩, plain⟩⟩
  | .text word =>
    exact ⟨.text (word.toList.map pieceOf), quoted_writeText word,
      reads_text_iff.mpr ⟨_, rfl, spells_pieceOf word⟩⟩
  | .array items =>
    obtain ⟨space, itemsPlain⟩ := plain
    obtain ⟨trees, spelled, read⟩ := items_of_write items itemsPlain
    exact ⟨.array trees, spelled.array, fun _ => space, items, read, rfl⟩
  | .object fields =>
    obtain ⟨space, fieldsPlain⟩ := plain
    obtain ⟨trees, spelled, read⟩ := fields_of_write fields fieldsPlain
    exact ⟨.object trees, spelled.object, fun _ => space, fields, read, rfl⟩

theorem items_of_write (items : List Value) {room : Nat} (plain : ItemsPlain room items) :
    ∃ trees, ItemsSpelled trees (writeItems items) ∧ ItemsRead .kept room trees items := by
  match items with
  | [] => exact ⟨[], rfl, rfl⟩
  | item :: rest =>
    obtain ⟨tree, spelled, read⟩ := tree_of_write item plain.1
    obtain ⟨trees, restSpelled, restRead⟩ := items_of_write rest plain.2
    refine ⟨tree :: trees, ?_, item, rest, rfl, read, restRead⟩
    cases rest with
    | nil =>
      cases (itemsRead_nil_iff restRead).mp rfl
      exact ⟨item.write, [], by simp [writeItems], spelled, rfl⟩
    | cons next more =>
      have others : trees ≠ [] := fun none => nomatch (itemsRead_nil_iff restRead).mpr none
      exact ⟨item.write, _, rfl, spelled, restSpelled.more others⟩

theorem fields_of_write (fields : List (String × Value)) {room : Nat}
    (plain : FieldsPlain room fields) :
    ∃ trees, FieldsSpelled trees (writeFields fields) ∧ FieldsRead .kept room trees fields := by
  match fields with
  | [] => exact ⟨[], rfl, rfl⟩
  | (key, value) :: rest =>
    obtain ⟨tree, spelled, read⟩ := tree_of_write value plain.1
    obtain ⟨trees, restSpelled, restRead⟩ := fields_of_write rest plain.2
    have named := Care.readText_kept.mpr ⟨rfl, spells_pieceOf key⟩
    have field : FieldSpelled (key.toList.map pieceOf) tree.Spelled
        (writeText key ++ ':' :: value.write) :=
      ⟨writeText key, value.write, rfl, padded_self (quoted_writeText key), padded_self spelled⟩
    refine ⟨(key.toList.map pieceOf, tree) :: trees, ?_, key, value, rest, rfl, named, read, restRead⟩
    cases rest with
    | nil =>
      cases (fieldsRead_nil_iff restRead).mp rfl
      exact ⟨writeText key ++ ':' :: value.write, [], by simp [writeFields], field, rfl⟩
    | cons next more =>
      have others : trees ≠ [] := fun none => nomatch (fieldsRead_nil_iff restRead).mpr none
      have whole : writeFields ((key, value) :: next :: more) =
          (writeText key ++ ':' :: value.write) ++ ',' :: writeFields (next :: more) := by
        simp [writeFields]
      rw [whole]
      exact ⟨_, _, rfl, field, restSpelled.more others⟩

end

end WordGame.Json
