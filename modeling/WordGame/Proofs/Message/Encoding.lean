import WordGame.Message.Server
import WordGame.Proofs.Json.Printing
import WordGame.Proofs.Message.Decoding

/-!
The text of a message from the server. It is itself an envelope of the kind and the fields of the
message (`read_encode`). So a client's decoder takes it apart (`decode_encode`), and no two messages
have the same text (`encode_injective`).
-/

namespace WordGame

open Json

/-! ### Fields -/

theorem fieldsPlain_iff {room : Nat} {fields : List (String × Value)} :
    FieldsPlain room fields ↔ ∀ field ∈ fields, field.2.Plain room := by
  induction fields with
  | nil => simp [FieldsPlain]
  | cons field fields ih => simp [FieldsPlain, ih]

namespace ServerMessage

theorem natural_plain {n : Nat} (small : n < Word.size64) (room : Nat) : (natural n).Plain room := by
  have least : -(Word.half64 : Int) ≤ n := by omega
  exact ⟨least, Int.ofNat_lt.mpr small⟩

theorem natural_plain64 (n : UInt64) (room : Nat) : (natural n.toNat).Plain room :=
  natural_plain n.toNat_lt room

theorem natural_plain32 (n : UInt32) (room : Nat) : (natural n.toNat).Plain room :=
  natural_plain (Nat.lt_trans n.toNat_lt (by decide)) room

theorem signed_plain (n : Int64) (room : Nat) : (signed n).Plain room :=
  ⟨n.le_toInt, Int.lt_trans n.toInt_lt (by decide)⟩

theorem standing_plain (score : FinalScore) (room : Nat) : (standing score).Plain (room + 1) :=
  ⟨Nat.succ_pos room, natural_plain32 score.points _, natural_plain32 score.lives _, trivial⟩

theorem standings_plain (scores : List (String × FinalScore)) (room : Nat) :
    (Value.object (scores.map (fun entry => (entry.1, standing entry.2)))).Plain (room + 2) := by
  refine ⟨Nat.succ_pos _, fieldsPlain_iff.mpr ?_⟩
  intro field member
  obtain ⟨entry, _, rfl⟩ := List.mem_map.mp member
  exact standing_plain entry.2 room

theorem fields_plain (message : ServerMessage) (room : Nat) :
    FieldsPlain (room + 2) message.fields := by
  rw [fieldsPlain_iff]
  cases message with
  | gameOver gameRoom winner scores =>
    simp [fields, natural_plain64, standings_plain]
  | answer gameRoom player correct word fragment score lives =>
    cases fragment <;> simp [fields, Value.Plain, natural_plain64, natural_plain32]
  | userJoined | userLeft | timerStarted | startGame | nextTurn | turnEnded | typing | ping | pong =>
    simp [fields, Value.Plain, natural_plain64, natural_plain32, signed_plain]

/-! ### The envelope -/

/-- A tree that is kept as a type and a payload is an envelope of them. -/
theorem isEnvelope_of_reads {tree : Tree} {kind : String} {payload : Value}
    (read : tree.Reads .kept (payloadRoom + 1)
      (.object [("type", .text kind), ("payload", payload)])) :
    ∃ pieces inner, IsEnvelope tree pieces (some inner) ∧ Spells pieces kind ∧
      inner.Reads .kept payloadRoom payload := by
  obtain ⟨fields, rfl, _, fieldsRead⟩ := reads_object_iff.mp read
  obtain ⟨typeKey, typeTree, _, rfl, typeNamed, typeRead, afterType⟩ :=
    fields_of_fieldsRead_cons fieldsRead
  obtain ⟨payloadKey, inner, _, rfl, payloadNamed, innerRead, afterPayload⟩ :=
    fields_of_fieldsRead_cons afterType
  obtain ⟨pieces, rfl, named⟩ := reads_text_iff.mp typeRead
  cases (fieldsRead_nil_iff afterPayload).mp rfl
  have isType : Spells typeKey "type" := (Care.readText_kept.mp typeNamed).2
  have isPayload : Spells payloadKey "payload" := (Care.readText_kept.mp payloadNamed).2
  have kinds : ValuesOf "type" [(typeKey, .text pieces), (payloadKey, inner)] [.text pieces] :=
    .here isType (.other isPayload (by decide) .nil)
  have payloads : ValuesOf "payload" [(typeKey, .text pieces), (payloadKey, inner)] [inner] :=
    .other isType (by decide) (.here isPayload .nil)
  exact ⟨pieces, inner, .object kinds payloads, named, innerRead⟩

theorem read_encode (message : ServerMessage) :
    Envelope.read message.encode = .ok ⟨message.kind, some (.object message.fields)⟩ := by
  have plain : message.toValue.Plain (payloadRoom + 1) :=
    ⟨Nat.succ_pos _, trivial, ⟨by decide, fields_plain message 123⟩, trivial⟩
  obtain ⟨tree, spelled, read⟩ := tree_of_write message.toValue plain
  obtain ⟨pieces, inner, isEnvelope, named, innerRead⟩ := isEnvelope_of_reads read
  have document : tree.Document message.encode := by
    unfold Tree.Document encode Value.render
    rw [String.toList_ofList]
    exact padded_self spelled
  exact Envelope.read_eq_ok_iff.mpr
    ⟨tree, pieces, some inner, document, isEnvelope, named, _, rfl, innerRead⟩

/-! ### A client's decoder -/

/-- What a client's decoder makes of a message from the server: four kinds have a counterpart, with
the fields that it has, and the others are unknown. -/
def echo : ServerMessage → Except DecodeError ClientMessage
  | answer _ _ _ word _ _ _ => .ok (.answer word)
  | typing _ _ text => .ok (.typing text)
  | ping timestamp id => .ok (.ping timestamp (some id))
  | pong timestamp => .ok (.pong timestamp)
  | userJoined .. => .error (.unknownType "user_joined")
  | userLeft .. => .error (.unknownType "user_left")
  | timerStarted .. => .error (.unknownType "timer_started")
  | startGame .. => .error (.unknownType "start_game")
  | nextTurn .. => .error (.unknownType "next_turn")
  | turnEnded .. => .error (.unknownType "turn_ended")
  | gameOver .. => .error (.unknownType "game_over")

theorem read_ping (timestamp : Int64) (id : UInt64) :
    ClientKind.ping.read (.object (ping timestamp id).fields) =
      .ok (.ping timestamp (some id)) := by
  have stamped : Payload.required "timestamp" (ping timestamp id).fields >>= Payload.signed =
      .ok timestamp :=
    Payload.bind_eq_ok.mpr ⟨signed timestamp, rfl, Payload.signed_eq_ok_iff.mpr rfl⟩
  have found : Payload.field? "ping_id" (ping timestamp id).fields = some (natural id.toNat) := rfl
  have numbered : Payload.optional (Payload.field? "ping_id" (ping timestamp id).fields) =
      .ok (some id) := by
    have number : Payload.unsigned (natural id.toNat) = .ok id :=
      Payload.unsigned_eq_ok_iff.mpr rfl
    rw [found]
    change (Payload.unsigned (natural id.toNat)).map some = .ok (some id)
    rw [number]
    rfl
  rw [ClientKind.read, map_eq_ok]
  exact ⟨(timestamp, some id), Payload.ping_object_eq_ok_iff.mpr ⟨stamped, numbered⟩, rfl⟩

theorem read_pong (timestamp : Int64) :
    ClientKind.pong.read (.object (pong timestamp).fields) = .ok (.pong timestamp) := by
  have stamped : Payload.required "timestamp" (pong timestamp).fields >>= Payload.signed =
      .ok timestamp :=
    Payload.bind_eq_ok.mpr ⟨signed timestamp, rfl, Payload.signed_eq_ok_iff.mpr rfl⟩
  rw [ClientKind.read, map_eq_ok]
  exact ⟨timestamp, stamped, rfl⟩

/-- The decoder takes the text of every message from the server for what it says. -/
theorem decode_encode (message : ServerMessage) :
    ClientMessage.decode message.encode = message.echo := by
  unfold ClientMessage.decode
  rw [read_encode]
  cases message with
  | answer room player correct word fragment score lives =>
    cases fragment <;> rfl
  | typing room player text => rfl
  | ping timestamp id =>
    have known : ClientKind.ofName? "ping" = some .ping := rfl
    have present := read_ping timestamp id
    have notNull : Value.object (ping timestamp id).fields ≠ .null := by simp
    exact (Envelope.message_of_needed known (by decide)).mpr ⟨_, rfl, notNull, present⟩
  | pong timestamp =>
    have known : ClientKind.ofName? "pong" = some .pong := rfl
    have present := read_pong timestamp
    have notNull : Value.object (pong timestamp).fields ≠ .null := by simp
    exact (Envelope.message_of_needed known (by decide)).mpr ⟨_, rfl, notNull, present⟩
  | userJoined | userLeft | timerStarted | startGame | nextTurn | turnEnded | gameOver => rfl

/-! ### Different messages -/

theorem natural_inj {n m : Nat} : natural n = natural m ↔ n = m := by
  simp only [natural, Value.number.injEq, Number.integer.injEq, Int.ofNat_inj]

theorem signed_inj {n m : Int64} : signed n = signed m ↔ n = m := by
  simp [signed, Int64.toInt_inj]

theorem standing_inj {score another : FinalScore} :
    standing score = standing another ↔ score = another := by
  obtain ⟨points, lives⟩ := score
  obtain ⟨otherPoints, otherLives⟩ := another
  simp [standing, natural_inj, UInt32.toNat_inj]

theorem turnEnd_name_inj {reason another : TurnEnd} :
    reason.name = another.name ↔ reason = another := by
  cases reason <;> cases another <;> decide

theorem standings_inj {scores others : List (String × FinalScore)} :
    scores.map (fun entry => (entry.1, standing entry.2)) =
      others.map (fun entry => (entry.1, standing entry.2)) ↔ scores = others := by
  have injective :
      Function.Injective (fun entry : String × FinalScore => (entry.1, standing entry.2)) := by
    rintro ⟨name, score⟩ ⟨another, other⟩ same
    have sameName : name = another := congrArg Prod.fst same
    have sameScore : score = other := standing_inj.mp (congrArg Prod.snd same)
    rw [sameName, sameScore]
  exact List.map_inj_right (fun _ _ same => injective same)

/-- The kind and the fields of a message say which message it is. -/
theorem eq_of_kind_of_fields {first second : ServerMessage} (sameKind : first.kind = second.kind)
    (sameFields : first.fields = second.fields) : first = second := by
  cases first with
  | userJoined | userLeft | timerStarted | startGame | nextTurn | typing | ping | pong =>
    cases second <;>
      simp_all [kind, fields, natural_inj, signed_inj, UInt64.toNat_inj, UInt32.toNat_inj]
  | answer room player correct word fragment score lives =>
    cases second with
    | answer _ _ _ _ another =>
      cases fragment <;> cases another <;>
        simp_all [fields, natural_inj, UInt64.toNat_inj, UInt32.toNat_inj]
    | _ => simp [kind] at sameKind
  | turnEnded room player reason livesLeft round score =>
    cases second with
    | turnEnded =>
      simp_all [fields, natural_inj, turnEnd_name_inj, UInt64.toNat_inj, UInt32.toNat_inj]
    | _ => simp [kind] at sameKind
  | gameOver room winner scores =>
    cases second with
    | gameOver _ _ others =>
      have sameEntries : scores.entries = others.entries := by
        simp_all [fields, standings_inj]
      obtain ⟨entries, ascending⟩ := scores
      obtain ⟨otherEntries, otherAscending⟩ := others
      cases sameEntries
      simp_all [fields, natural_inj, UInt64.toNat_inj]
    | _ => simp [kind] at sameKind

/-- Two messages with the same text are the same. -/
theorem encode_injective : Function.Injective encode := by
  intro first second same
  have read := read_encode first
  rw [same, read_encode second] at read
  have envelope := Except.ok.inj read
  have sameKind : second.kind = first.kind := congrArg Envelope.kind envelope
  have samePayload := congrArg Envelope.payload envelope
  have sameFields : second.fields = first.fields := Value.object.inj (Option.some.inj samePayload)
  exact eq_of_kind_of_fields sameKind.symm sameFields.symm

end ServerMessage

end WordGame
