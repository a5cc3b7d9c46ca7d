import WordGame.Proofs.Message.Envelope

/-!
Decoding accepts the grammar of messages and nothing else, and keeps every value
(`decode_eq_ok_iff`).
-/

namespace WordGame

open Json

/-! ### Single values -/

namespace Payload

theorem unsigned_eq_ok_iff {value : Value} {n : UInt64} :
    unsigned value = .ok n ↔ value = .number (.integer n.toNat) := by
  constructor
  · intro read
    cases value with
    | number number =>
      cases number with
      | integer k =>
        simp only [unsigned] at read
        split at read
        · rename_i range
          cases read
          have small : k.toNat % 2 ^ 64 = k.toNat := by
            have bound : (Word.size64 : Int) = 2 ^ 64 := rfl
            omega
          rw [UInt64.toNat_ofNat', small, Int.toNat_of_nonneg range.1]
        · cases read
      | real => cases read
    | null | bool | text | array | object => cases read
  · rintro rfl
    have range : (0 : Int) ≤ n.toNat ∧ (n.toNat : Int) < Word.size64 :=
      ⟨Int.natCast_nonneg _, Int.ofNat_lt.mpr n.toNat_lt⟩
    simp only [unsigned]
    rw [if_pos range, Int.toNat_natCast, UInt64.ofNat_toNat]

theorem signed_eq_ok_iff {value : Value} {n : Int64} :
    signed value = .ok n ↔ value = .number (.integer n.toInt) := by
  constructor
  · intro read
    cases value with
    | number number =>
      cases number with
      | integer k =>
        simp only [signed] at read
        split at read
        · rename_i range
          cases read
          rw [Int64.toInt_ofInt_of_le range.1 range.2]
        · cases read
      | real => cases read
    | null | bool | text | array | object => cases read
  · rintro rfl
    have range : -(Word.half64 : Int) ≤ n.toInt ∧ n.toInt < Word.half64 :=
      ⟨n.le_toInt, n.toInt_lt⟩
    simp only [signed]
    rw [if_pos range, Int64.ofInt_toInt]

theorem text_eq_ok_iff {value : Value} {word : String} :
    text value = .ok word ↔ value = .text word := by
  cases value <;> simp [text]

/-- A value that was read as such is of that form in the tree. -/
theorem eq_iff_of_reads {tree : Tree} {room : Nat} {value wanted : Value} {form : Prop}
    (read : tree.Reads .kept room value) (forms : tree.Reads .kept room wanted ↔ form) :
    value = wanted ↔ form := by
  constructor
  · rintro rfl
    exact forms.mp read
  · intro isSo
    exact reads_unique tree read (forms.mpr isSo)

/-- The reader takes exactly the values whose trees are right for what it makes of them. -/
def Agrees {α : Type} (reader : Value → Except PayloadError α) (right : α → Tree → Prop) : Prop :=
  ∀ {tree : Tree} {room : Nat} {value : Value} {result : α}, tree.Reads .kept room value →
    (reader value = .ok result ↔ right result tree)

theorem unsigned_agrees : Agrees unsigned IsUnsigned := by
  intro tree room value n read
  have least : -(Word.half64 : Int) ≤ n.toNat := by omega
  have most : (n.toNat : Int) < Word.size64 := Int.ofNat_lt.mpr n.toNat_lt
  rw [unsigned_eq_ok_iff, eq_iff_of_reads read reads_integer_iff]
  exact ⟨fun integer => integer.1, fun integer => ⟨integer, least, most⟩⟩

theorem signed_agrees : Agrees signed IsSigned := by
  intro tree room value n read
  have least : -(Word.half64 : Int) ≤ n.toInt := n.le_toInt
  have most : n.toInt < Word.size64 := Int.lt_trans n.toInt_lt (by decide)
  rw [signed_eq_ok_iff, eq_iff_of_reads read reads_integer_iff]
  exact ⟨fun integer => integer.1, fun integer => ⟨integer, least, most⟩⟩

theorem text_agrees : Agrees text IsText := by
  intro tree room value word read
  rw [text_eq_ok_iff, eq_iff_of_reads read reads_text_iff]
  rfl

theorem optional_iff {tree : Option Tree} {room : Nat} {value : Option Value}
    (read : OptionReads room tree value) {id : Option UInt64} :
    optional value = .ok id ↔ IsOptional id tree := by
  cases tree with
  | none =>
    cases read
    cases id <;> simp [optional, IsOptional]
  | some tree =>
    obtain ⟨found, rfl, read⟩ := read
    by_cases isNull : found = .null
    · cases isNull
      cases reads_null_iff.mp read
      cases id <;> simp [optional, IsOptional, IsUnsigned, Tree.IsInteger]
    · have notNull : tree ≠ .null := by
        rintro rfl
        exact isNull read
      have taken : optional (some found) = (unsigned found).map some := by
        cases found with
        | null => exact absurd rfl isNull
        | bool | number | text | array | object => rfl
      rw [taken, map_eq_ok]
      simp only [unsigned_agrees read]
      cases id <;> simp [IsOptional, notNull]

/-! ### Fields -/

theorem field?_cons (name another : String) (value : Value) (rest : List (String × Value)) :
    field? name ((another, value) :: rest) =
      (field? name rest).or (if another = name then some value else none) := by
  unfold field?
  rw [List.reverse_cons, List.find?_append]
  cases List.find? (fun entry => entry.1 == name) rest.reverse with
  | some entry => rfl
  | none =>
    by_cases same : another = name
    · simp [same]
    · simp [same]

/-- The last field of a name is kept as the last one of that name. -/
theorem field?_read {fields : List (List Json.Piece × Tree)} {room : Nat}
    {entries : List (String × Value)} (read : FieldsRead .kept room fields entries)
    (name : String) :
    ∃ value, LastField name fields value ∧ OptionReads room value (field? name entries) := by
  induction fields generalizing entries with
  | nil =>
    cases read
    exact ⟨none, ⟨[], .nil, rfl⟩, rfl⟩
  | cons field fields ih =>
    obtain ⟨another, value, rest, rfl, keyRead, valueRead, restRead⟩ := read
    obtain ⟨_, ⟨values, valuesOf, rfl⟩, lastRead⟩ := ih restRead
    have named := (Care.readText_kept.mp keyRead).2
    rw [field?_cons]
    by_cases same : another = name
    · cases same
      refine ⟨_, ⟨_, .here named valuesOf, rfl⟩, ?_⟩
      rw [List.getLast?_cons, if_pos rfl]
      cases later : values.getLast? with
      | none =>
        rw [later] at lastRead
        rw [lastRead]
        exact ⟨value, rfl, valueRead⟩
      | some last =>
        rw [later] at lastRead
        obtain ⟨found, known, read⟩ := lastRead
        rw [known]
        exact ⟨found, rfl, read⟩
    · refine ⟨_, ⟨values, .other named same valuesOf, rfl⟩, ?_⟩
      rw [if_neg same, Option.or_none]
      exact lastRead

theorem valuesOf_unique {name : String} {fields : List (List Json.Piece × Tree)}
    {values others : List Tree} (found : ValuesOf name fields values)
    (alsoFound : ValuesOf name fields others) : values = others := by
  induction found generalizing others with
  | nil =>
    cases alsoFound
    rfl
  | here named _ ih =>
    cases alsoFound with
    | here _ later => rw [ih later]
    | other alsoNamed different =>
      exact absurd (Envelope.spells_unique alsoNamed named) different
  | other named different _ ih =>
    cases alsoFound with
    | here alsoNamed => exact absurd (Envelope.spells_unique named alsoNamed) different
    | other _ _ later => exact ih later

theorem lastField_unique {name : String} {fields : List (List Json.Piece × Tree)}
    {value another : Option Tree} (last : LastField name fields value)
    (alsoLast : LastField name fields another) : value = another := by
  obtain ⟨values, found, rfl⟩ := last
  obtain ⟨others, alsoFound, rfl⟩ := alsoLast
  rw [valuesOf_unique found alsoFound]

/-! ### Payloads -/

theorem bind_eq_ok {α β : Type} {result : Except PayloadError α}
    {next : α → Except PayloadError β} {value : β} :
    result >>= next = .ok value ↔ ∃ found, result = .ok found ∧ next found = .ok value := by
  cases result with
  | error error => simp [Bind.bind, Except.bind]
  | ok found => simp [Bind.bind, Except.bind]

theorem required_eq_ok_iff {name : String} {entries : List (String × Value)} {value : Value} :
    required name entries = .ok value ↔ field? name entries = some value := by
  unfold required
  cases field? name entries <;> simp

theorem required_iff {α : Type} {reader : Value → Except PayloadError α} {right : α → Tree → Prop}
    (agree : Agrees reader right) {fields : List (List Json.Piece × Tree)} {room : Nat}
    {entries : List (String × Value)} (read : FieldsRead .kept room fields entries)
    {name : String} {result : α} :
    required name entries >>= reader = .ok result ↔
      ∃ tree, LastField name fields (some tree) ∧ right result tree := by
  obtain ⟨kept, last, lastRead⟩ := field?_read read name
  simp only [bind_eq_ok, required_eq_ok_iff]
  constructor
  · rintro ⟨value, found, accepted⟩
    cases kept with
    | none =>
      rw [lastRead] at found
      cases found
    | some tree =>
      obtain ⟨_, same, valueRead⟩ := lastRead
      cases same.symm.trans found
      exact ⟨tree, last, (agree valueRead).mp accepted⟩
  · rintro ⟨tree, alsoLast, isRight⟩
    cases lastField_unique last alsoLast
    obtain ⟨value, found, valueRead⟩ := lastRead
    exact ⟨value, found, (agree valueRead).mpr isRight⟩

theorem optionalField_iff {fields : List (List Json.Piece × Tree)} {room : Nat}
    {entries : List (String × Value)} (read : FieldsRead .kept room fields entries)
    {name : String} {id : Option UInt64} :
    optional (field? name entries) = .ok id ↔
      ∃ tree, LastField name fields tree ∧ IsOptional id tree := by
  obtain ⟨kept, last, lastRead⟩ := field?_read read name
  rw [optional_iff lastRead]
  constructor
  · intro isRight
    exact ⟨kept, last, isRight⟩
  · rintro ⟨tree, alsoLast, isRight⟩
    rw [lastField_unique last alsoLast]
    exact isRight

theorem one_iff {α : Type} {reader : Value → Except PayloadError α} {right : α → Tree → Prop}
    (agree : Agrees reader right) {tree : Tree} {room : Nat} {value : Value}
    (read : tree.Reads .kept room value) {kind : ClientKind} {name : String} {result : α} :
    one kind name reader value = .ok result ↔ SoleField name (right result) tree := by
  cases value with
  | object entries =>
    obtain ⟨fields, rfl, _, fieldsRead⟩ := reads_object_iff.mp read
    rw [one, required_iff agree fieldsRead]
    constructor
    · rintro ⟨tree, last, isRight⟩
      exact .object last isRight
    · intro sole
      cases sole with
      | object last isRight => exact ⟨_, last, isRight⟩
  | array values =>
    obtain ⟨items, rfl, _, itemsRead⟩ := reads_array_iff.mp read
    cases items with
    | nil =>
      cases itemsRead
      constructor
      · intro impossible
        cases impossible
      · intro sole
        cases sole
    | cons item items =>
      obtain ⟨first, rest, rfl, firstRead, restRead⟩ := itemsRead
      have whole : one kind name reader (.array (first :: rest)) = .ok result ↔
          reader first = .ok result ∧ rest = [] := by
        cases here : reader first with
        | error error => simp [one, here]
        | ok found => cases rest <;> simp [one, here]
      rw [whole, agree firstRead, itemsRead_nil_iff restRead]
      constructor
      · rintro ⟨isRight, rfl⟩
        exact .array isRight
      · intro sole
        cases sole with
        | array isRight => exact ⟨isRight, rfl⟩
  | null | bool | number | text =>
    constructor
    · intro impossible
      cases impossible
    · intro sole
      cases sole with
      | object | array =>
        obtain ⟨_, _, _, impossible⟩ := read
        cases impossible

theorem ping_object_eq_ok_iff {entries : List (String × Value)} {timestamp : Int64}
    {id : Option UInt64} :
    ping (.object entries) = .ok (timestamp, id) ↔
      required "timestamp" entries >>= signed = .ok timestamp ∧
        optional (field? "ping_id" entries) = .ok id := by
  unfold ping
  rw [bind_eq_ok]
  constructor
  · rintro ⟨number, numbered, later⟩
    obtain ⟨stamp, stamped, same⟩ := bind_eq_ok.mp later
    cases same
    exact ⟨stamped, numbered⟩
  · rintro ⟨stamped, numbered⟩
    exact ⟨id, numbered, bind_eq_ok.mpr ⟨timestamp, stamped, rfl⟩⟩

theorem ping_array_eq_ok_iff {first : Value} {rest : List Value} {timestamp : Int64}
    {id : Option UInt64} :
    ping (.array (first :: rest)) = .ok (timestamp, id) ↔
      signed first = .ok timestamp ∧ optional rest.head? = .ok id ∧ rest.length ≤ 1 := by
  unfold ping
  rw [bind_eq_ok]
  constructor
  · rintro ⟨stamp, stamped, later⟩
    obtain ⟨number, numbered, last⟩ := bind_eq_ok.mp later
    split at last
    · cases last
    · rename_i short
      cases last
      exact ⟨stamped, numbered, Nat.le_of_not_lt short⟩
  · rintro ⟨stamped, numbered, short⟩
    refine ⟨timestamp, stamped, bind_eq_ok.mpr ⟨id, numbered, ?_⟩⟩
    rw [if_neg (Nat.not_lt.mpr short)]
    rfl

theorem ping_iff {tree : Tree} {room : Nat} {value : Value} (read : tree.Reads .kept room value)
    {timestamp : Int64} {id : Option UInt64} :
    ping value = .ok (timestamp, id) ↔ PingFields timestamp id tree := by
  cases value with
  | object entries =>
    obtain ⟨fields, rfl, _, fieldsRead⟩ := reads_object_iff.mp read
    rw [ping_object_eq_ok_iff, required_iff signed_agrees fieldsRead, optionalField_iff fieldsRead]
    constructor
    · rintro ⟨⟨stamp, lastStamp, stamped⟩, number, lastNumber, numbered⟩
      exact .object lastStamp stamped lastNumber numbered
    · intro fields
      cases fields with
      | object lastStamp stamped lastNumber numbered =>
        exact ⟨⟨_, lastStamp, stamped⟩, _, lastNumber, numbered⟩
  | array values =>
    obtain ⟨items, rfl, _, itemsRead⟩ := reads_array_iff.mp read
    cases items with
    | nil =>
      cases itemsRead
      constructor
      · intro impossible
        cases impossible
      · intro fields
        cases fields
    | cons item items =>
      obtain ⟨first, rest, rfl, firstRead, restRead⟩ := itemsRead
      rw [ping_array_eq_ok_iff, signed_agrees firstRead]
      cases items with
      | nil =>
        cases restRead
        constructor
        · rintro ⟨stamped, numbered, _⟩
          cases numbered
          exact .stamp stamped rfl
        · intro fields
          cases fields with
          | stamp stamped unnumbered =>
            cases unnumbered
            exact ⟨stamped, rfl, Nat.zero_le _⟩
      | cons second items =>
        obtain ⟨number, others, rfl, numberRead, othersRead⟩ := restRead
        have short : (number :: others).length ≤ 1 ↔ items = [] := by
          rw [← itemsRead_nil_iff othersRead]
          simp
        have present : OptionReads (room - 1) (some second) (some number) :=
          ⟨number, rfl, numberRead⟩
        rw [List.head?_cons, short, optional_iff present]
        constructor
        · rintro ⟨stamped, numbered, rfl⟩
          exact .pair stamped numbered
        · intro fields
          cases fields with
          | pair stamped numbered => exact ⟨stamped, numbered, rfl⟩
  | null | bool | number | text =>
    constructor
    · intro impossible
      cases impossible
    · intro fields
      cases fields with
      | object | stamp | pair =>
        obtain ⟨_, _, _, impossible⟩ := read
        cases impossible

end Payload

/-! ### Messages -/

theorem ClientKind.ofName?_eq_some_iff {name : String} {kind : ClientKind} :
    ClientKind.ofName? name = some kind ↔ name = kind.name := by
  constructor
  · intro found
    have same := List.find?_some found
    exact (eq_of_beq same).symm
  · rintro rfl
    cases kind <;> rfl

theorem ClientKind.kind_of_read {kind : ClientKind} {value : Value} {message : ClientMessage}
    (read : kind.read value = .ok message) : message.kind = kind := by
  cases kind with
  | leave =>
    cases read
    rfl
  | ping =>
    obtain ⟨⟨timestamp, id⟩, _, rfl⟩ := map_eq_ok.mp read
    rfl
  | join | answer | typing | pong =>
    obtain ⟨_, _, rfl⟩ := map_eq_ok.mp read
    rfl

/-- What a payload has to hold for a message, by the kind of the message. -/
theorem ClientKind.read_iff {tree : Tree} {room : Nat} {value : Value}
    (read : tree.Reads .kept room value) {message : ClientMessage} :
    message.kind.read value = .ok message ↔ message.GivenBy (some tree) := by
  cases message with
  | leave => exact ⟨fun _ => trivial, fun _ => rfl⟩
  | join room =>
    simp [ClientMessage.kind, ClientKind.read, ClientMessage.GivenBy, map_eq_ok,
      Payload.one_iff Payload.unsigned_agrees read]
  | answer word =>
    simp [ClientMessage.kind, ClientKind.read, ClientMessage.GivenBy, map_eq_ok,
      Payload.one_iff Payload.text_agrees read]
  | typing text =>
    simp [ClientMessage.kind, ClientKind.read, ClientMessage.GivenBy, map_eq_ok,
      Payload.one_iff Payload.text_agrees read]
  | ping timestamp id =>
    simp [ClientMessage.kind, ClientKind.read, ClientMessage.GivenBy, map_eq_ok,
      Payload.ping_iff read]
  | pong timestamp =>
    simp [ClientMessage.kind, ClientKind.read, ClientMessage.GivenBy, map_eq_ok,
      Payload.one_iff Payload.signed_agrees read]

/-- All kinds but `leave` need a payload other than null. -/
theorem Envelope.message_of_needed {envelope : Envelope} {kind : ClientKind}
    {message : ClientMessage} (known : ClientKind.ofName? envelope.kind = some kind)
    (needed : kind ≠ .leave) :
    envelope.message = .ok message ↔
      ∃ value, envelope.payload = some value ∧ value ≠ .null ∧ kind.read value = .ok message := by
  obtain ⟨name, payload⟩ := envelope
  change ClientKind.ofName? name = some kind at known
  cases kind with
  | leave => exact absurd rfl needed
  | join | answer | typing | ping | pong =>
    cases payload with
    | none => simp [Envelope.message, known]
    | some value =>
      cases value with
      | null => simp [Envelope.message, known]
      | bool | number | text | array | object =>
        simp only [Envelope.message, known]
        cases read : ClientKind.read _ _ <;> simp [read]

theorem Envelope.message_eq_ok_iff {envelope : Envelope} {message : ClientMessage} :
    envelope.message = .ok message ↔
      envelope.kind = message.kind.name ∧
        (message = .leave ∨
          ∃ value, envelope.payload = some value ∧ value ≠ .null ∧
            message.kind.read value = .ok message) := by
  constructor
  · intro decoded
    cases known : ClientKind.ofName? envelope.kind with
    | none =>
      unfold Envelope.message at decoded
      rw [known] at decoded
      cases decoded
    | some kind =>
      have named := ClientKind.ofName?_eq_some_iff.mp known
      by_cases isLeave : kind = .leave
      · cases isLeave
        unfold Envelope.message at decoded
        rw [known] at decoded
        cases decoded
        exact ⟨named, .inl rfl⟩
      · obtain ⟨value, present, notNull, read⟩ := (message_of_needed known isLeave).mp decoded
        cases ClientKind.kind_of_read read
        exact ⟨named, .inr ⟨value, present, notNull, read⟩⟩
  · rintro ⟨named, wanted⟩
    have known := ClientKind.ofName?_eq_some_iff.mpr named
    cases message with
    | leave =>
      unfold Envelope.message
      rw [known]
      rfl
    | join | answer | typing | ping | pong =>
      rcases wanted with impossible | present
      · cases impossible
      · exact (message_of_needed known (fun impossible => nomatch impossible)).mpr present

/-- Null is no payload. -/
theorem ClientMessage.not_givenBy_null {message : ClientMessage} (needed : message ≠ .leave) :
    ¬ message.GivenBy (some .null) := by
  intro given
  cases message with
  | leave => exact needed rfl
  | join | answer | typing | pong =>
    obtain ⟨_, same, sole⟩ := given
    cases same
    cases sole
  | ping =>
    obtain ⟨_, same, fields⟩ := given
    cases same
    cases fields

theorem ClientMessage.not_givenBy_none {message : ClientMessage} (needed : message ≠ .leave) :
    ¬ message.GivenBy none := by
  intro given
  cases message with
  | leave => exact needed rfl
  | join | answer | typing | ping | pong =>
    obtain ⟨_, same, _⟩ := given
    cases same

/-- A text is decoded as a message if and only if it holds an envelope with the name of that kind of
message, whose payload is within the limits and gives every field of the message. -/
theorem decode_eq_ok_iff (text : String) (message : ClientMessage) :
    ClientMessage.decode text = .ok message ↔
      ∃ tree kind payload, tree.Document text ∧ IsEnvelope tree kind payload ∧
        Spells kind message.kind.name ∧ (∀ value ∈ payload, value.Bounded payloadRoom) ∧
        message.GivenBy payload := by
  have opened : ClientMessage.decode text = .ok message ↔
      ∃ envelope, Envelope.read text = .ok envelope ∧ envelope.message = .ok message := by
    unfold ClientMessage.decode
    cases Envelope.read text with
    | error flaw => simp
    | ok envelope => simp
  rw [opened]
  constructor
  · rintro ⟨envelope, read, decoded⟩
    obtain ⟨tree, kind, payload, document, isEnvelope, named, payloadRead⟩ :=
      Envelope.read_eq_ok_iff.mp read
    obtain ⟨sameName, wanted⟩ := Envelope.message_eq_ok_iff.mp decoded
    rw [sameName] at named
    have bounded : ∀ value ∈ payload, value.Bounded payloadRoom := by
      rintro value present
      cases present
      obtain ⟨found, _, kept⟩ := payloadRead
      exact (bounded_iff_reads _ _).mpr ⟨found, kept⟩
    refine ⟨tree, kind, payload, document, isEnvelope, named, bounded, ?_⟩
    rcases wanted with rfl | ⟨value, present, _, readAs⟩
    · trivial
    · cases payload with
      | none =>
        rw [payloadRead] at present
        cases present
      | some tree =>
        obtain ⟨found, alsoPresent, kept⟩ := payloadRead
        cases alsoPresent.symm.trans present
        exact (ClientKind.read_iff kept).mp readAs
  · rintro ⟨tree, kind, payload, document, isEnvelope, named, bounded, given⟩
    have kept : ∃ value, OptionReads payloadRoom payload value := by
      cases payload with
      | none => exact ⟨none, rfl⟩
      | some tree =>
        obtain ⟨value, read⟩ := (bounded_iff_reads tree payloadRoom).mp (bounded tree rfl)
        exact ⟨some value, value, rfl, read⟩
    obtain ⟨value, payloadRead⟩ := kept
    refine ⟨⟨message.kind.name, value⟩, ?_, ?_⟩
    · exact Envelope.read_eq_ok_iff.mpr
        ⟨tree, kind, payload, document, isEnvelope, named, payloadRead⟩
    · refine Envelope.message_eq_ok_iff.mpr ⟨rfl, ?_⟩
      by_cases isLeave : message = .leave
      · exact .inl isLeave
      · cases payload with
        | none => exact absurd given (ClientMessage.not_givenBy_none isLeave)
        | some tree =>
          obtain ⟨found, rfl, read⟩ := payloadRead
          refine .inr ⟨found, rfl, ?_, (ClientKind.read_iff read).mpr given⟩
          rintro rfl
          cases reads_null_iff.mp read
          exact ClientMessage.not_givenBy_null isLeave given

end WordGame
