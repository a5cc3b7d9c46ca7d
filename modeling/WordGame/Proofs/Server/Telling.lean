import WordGame.Proofs.Server.Reception

/-!
What rooms are told. The news of a change are told before the room is changed again, unless whoever
changed it is cut off; no two broadcasts have one number; and who is not in a room when it is told
something never gets it.
-/

namespace WordGame

/-- What a room is to be told, when it is changed. -/
def Note.news? (room : RoomId) : Note → Option (List ServerMessage)
  | changed query news => if query = room then some news else none
  | _ => none

/-- What a room is to be told of each of its changes. -/
def newsOf (room : RoomId) (notes : List Note) : List (List ServerMessage) :=
  notes.filterMap (Note.news? room)

theorem newsOf_append (room : RoomId) (first second : List Note) :
    newsOf room (first ++ second) = newsOf room first ++ newsOf room second :=
  List.filterMap_append

def messagesTo (room : RoomId) (notes : List Note) : List ServerMessage :=
  (toldTo room notes).map Broadcast.message

theorem messagesTo_append (room : RoomId) (first second : List Note) :
    messagesTo room (first ++ second) = messagesTo room first ++ messagesTo room second := by
  unfold messagesTo
  rw [toldTo_append, List.map_append]

/-- What is told of a few changes: of each but the last some of the news, from the first on, and of
the last what is not owed any more. -/
inductive Reported : List (List ServerMessage) → List ServerMessage → List ServerMessage → Prop
  | none : Reported [] [] []
  | report {changes : List (List ServerMessage)} {told news part owed : List ServerMessage}
      (earlier : Reported changes told []) (early : part ++ owed <+: news) :
      Reported (changes ++ [news]) (told ++ part) owed

/-- What a few notes do to what a room is owed. -/
inductive Balances (room : RoomId) (notes : List Note) :
    List ServerMessage → List ServerMessage → Prop
  | silent {owed : List ServerMessage} (changes : newsOf room notes = [])
      (told : messagesTo room notes = []) : Balances room notes owed owed
  | changed {news : List ServerMessage} (changes : newsOf room notes = [news])
      (told : messagesTo room notes = []) : Balances room notes [] news
  | told {message : ServerMessage} {owed : List ServerMessage} (changes : newsOf room notes = [])
      (told : messagesTo room notes = [message]) : Balances room notes (message :: owed) owed
  | cut {owed : List ServerMessage} (changes : newsOf room notes = [])
      (told : messagesTo room notes = []) (cut : Note.cut ∈ notes) : Balances room notes owed []

namespace Reported

variable {room : RoomId} {notes : List Note} {changes : List (List ServerMessage)}
  {told owed later : List ServerMessage}

theorem forget (reported : Reported changes told owed) : Reported changes told [] := by
  cases reported with
  | none => exact .none
  | @report _ _ _ part _ earlier early =>
    refine .report earlier ?_
    rw [List.append_nil]
    exact (List.prefix_append part owed).trans early

theorem balance (reported : Reported changes told owed)
    (balances : Balances room notes owed later) :
    Reported (changes ++ newsOf room notes) (told ++ messagesTo room notes) later := by
  cases balances with
  | silent none silent =>
    rw [none, silent, List.append_nil, List.append_nil]
    exact reported
  | changed new silent =>
    rw [new, silent]
    exact .report reported (List.prefix_refl _)
  | @told message _ none said =>
    rw [none, said, List.append_nil]
    cases reported with
    | @report _ _ _ part _ earlier early =>
      rw [List.append_assoc]
      refine .report earlier ?_
      rw [List.append_assoc]
      exact early
  | cut none silent =>
    rw [none, silent, List.append_nil, List.append_nil]
    exact reported.forget

/-- What is told is the reports of the changes, one after the other. -/
theorem exists_reports (reported : Reported changes told owed) :
    ∃ reports, List.Forall₂ (· <+: ·) reports changes ∧ told = reports.flatten := by
  induction reported with
  | none => exact ⟨[], .nil, rfl⟩
  | @report _ _ _ part owed earlier early ih =>
    obtain ⟨reports, parts, rfl⟩ := ih
    refine ⟨reports ++ [part], ?_, ?_⟩
    · exact List.rel_append parts (.cons ((List.prefix_append part owed).trans early) .nil)
    · rw [List.flatten_append, List.flatten_singleton]

end Reported

/-- As long as nobody is cut off, all news are told or owed. -/
theorem Balances.account {room : RoomId} {notes : List Note} {owed later : List ServerMessage}
    (balances : Balances room notes owed later) (whole : Note.cut ∉ notes) :
    owed ++ (newsOf room notes).flatten = messagesTo room notes ++ later := by
  cases balances with
  | silent none silent =>
    rw [none, silent]
    exact List.append_nil _
  | changed new silent =>
    rw [new, silent]
    exact List.append_nil _
  | told none said =>
    rw [none, said]
    exact List.append_nil _
  | cut none silent cut => exact absurd cut whole

namespace Traffic

variable {rules : Rules} {traffic next : Traffic} {event : Event}
  {notes : List Note} {known : List Connection} {room : RoomId} {owed : List ServerMessage}

/-- What whoever holds the gate has still to tell a room before changing it. -/
def Owes (traffic : Traffic) (room : RoomId) (owed : List ServerMessage) : Prop :=
  match traffic.gate with
  | some plan => plan.Owes room owed
  | none => owed = []

theorem Owes.eq_nil (owes : traffic.Owes room owed) (free : traffic.gate = none) : owed = [] := by
  unfold Owes at owes
  rw [free] at owes
  exact owes

theorem balances_noted {delivery : Delivery} {note : Note} (unchanged : note.news? room = none)
    (untold : note.told? room = none) :
    Balances room (traffic.noted delivery note) owed owed :=
  .silent (filterMap_noted unchanged traffic delivery)
    (congrArg (List.map Broadcast.message) (filterMap_noted untold traffic delivery))

theorem Reacts.balances (reacts : Reacts rules traffic event next notes)
    (owes : traffic.Owes room owed) :
    ∃ later, next.Owes room later ∧ Balances room notes owed later := by
  unfold Owes at owes
  cases reacts with
  | elapsed | connected | received | deserted => exact ⟨owed, owes, .silent rfl rfl⟩
  | entered free planned =>
    rw [free] at owes
    subst owes
    exact ⟨[], Server.owes_plan planned room, .silent rfl rfl⟩
  | finished held =>
    rw [held] at owes
    cases owes
    exact ⟨[], rfl, .silent rfl rfl⟩
  | stepped held =>
    rw [held] at owes
    cases owes with
    | step rest => exact ⟨owed, rest _, .silent rfl rfl⟩
  | @changed query _ _ held =>
    rw [held] at owes
    cases owes with
    | change rest =>
      refine ⟨_, rest traffic.server, ?_⟩
      by_cases here : query = room
      · rw [if_pos here]
        exact .changed (by simp [newsOf, Note.news?, here]) rfl
      · rw [if_neg here]
        exact .silent (by simp [newsOf, Note.news?, here]) rfl
  | sent held =>
    rw [held] at owes
    cases owes with
    | send rest => exact ⟨owed, rest, balances_noted rfl rfl⟩
  | told held quiet new =>
    rw [held] at owes
    cases owes with
    | tell rest => exact ⟨_, rest, .told rfl (by simp [messagesTo, toldTo, Note.told?, new])⟩
    | elsewhere other rest =>
      exact ⟨owed, rest, .silent rfl (by simp [messagesTo, toldTo, Note.told?, new, other])⟩
  | relayed new =>
    exact ⟨owed, owes, .silent rfl (by simp [messagesTo, toldTo, Note.told?, new])⟩
  | cut held => exact ⟨[], rfl, .cut rfl rfl (List.mem_singleton.mpr rfl)⟩
  | passed | posted => exact ⟨owed, owes, balances_noted rfl rfl⟩

/-- All that was told until now adds up with what is owed. -/
theorem reported_after {events : List Event} {changes : List (List ServerMessage)}
    {told : List ServerMessage} (owes : traffic.Owes room owed)
    (reported : Reported changes told owed) :
    let record := traffic.report rules events
    ∃ later, Reported (changes ++ newsOf room record) (told ++ messagesTo room record) later := by
  induction events generalizing traffic changes told owed with
  | nil =>
    refine ⟨owed, ?_⟩
    have same := reported
    rw [← List.append_nil changes, ← List.append_nil told] at same
    exact same
  | cons event rest ih =>
    obtain ⟨later, owesLater, balances⟩ :=
      (traffic.react_reacts rules event).balances owes
    obtain ⟨last, done⟩ := ih owesLater (reported.balance balances)
    rw [List.append_assoc, List.append_assoc, ← newsOf_append, ← messagesTo_append] at done
    exact ⟨last, done⟩

theorem account_after {events : List Event} (owes : traffic.Owes room owed)
    (whole : Note.cut ∉ traffic.report rules events) :
    let record := traffic.report rules events
    ∃ later, (traffic.after rules events).Owes room later ∧
      owed ++ (newsOf room record).flatten = messagesTo room record ++ later := by
  induction events generalizing traffic owed with
  | nil => exact ⟨owed, owes, List.append_nil owed⟩
  | cons event rest ih =>
    obtain ⟨middle, owesMiddle, balances⟩ :=
      (traffic.react_reacts rules event).balances owes
    rw [report_cons, List.mem_append, not_or] at whole
    obtain ⟨later, owesLater, account⟩ := ih owesMiddle whole.2
    refine ⟨later, owesLater, ?_⟩
    rw [report_cons, newsOf_append, messagesTo_append, List.flatten_append, ← List.append_assoc,
      balances.account whole.1, List.append_assoc, account, List.append_assoc]

/-- A room is told of its changes in their order. -/
theorem exists_reports_after {events : List Event} (owes : traffic.Owes room []) :
    let record := traffic.report rules events
    ∃ reports, List.Forall₂ (· <+: ·) reports (newsOf room record) ∧
      messagesTo room record = reports.flatten := by
  intro record
  have reported : ∃ owed, Reported (newsOf room record) (messagesTo room record) owed :=
    reported_after owes .none
  obtain ⟨owed, reported⟩ := reported
  exact reported.exists_reports

/-- A room is told all news of its changes, if nobody is cut off and the gate is free again. -/
theorem messages_of_uncut {events : List Event} (owes : traffic.Owes room [])
    (whole : Note.cut ∉ traffic.report rules events)
    (free : (traffic.after rules events).gate = none) :
    let record := traffic.report rules events
    messagesTo room record = (newsOf room record).flatten := by
  obtain ⟨owed, owing, account⟩ := account_after owes whole
  rw [owing.eq_nil free, List.append_nil] at account
  exact account.symm

/-! ### The numbers of broadcasts -/

theorem Reacts.numbers (reacts : Reacts rules traffic event next notes) (room : RoomId) :
    traffic.broadcasts ≤ next.broadcasts ∧
      (toldTo room notes = [] ∨ ∃ broadcast, toldTo room notes = [broadcast] ∧
        broadcast.number = traffic.broadcasts ∧ traffic.broadcasts < next.broadcasts) := by
  have told (broadcast : Broadcast) :
      toldTo room [.told broadcast] = [] ∨ toldTo room [.told broadcast] = [broadcast] := by
    by_cases here : broadcast.room = room ∧ broadcast.gated = true
    · exact .inr (by simp [toldTo, Note.told?, here])
    · exact .inl (by simp [toldTo, Note.told?, here])
  cases reacts with
  | elapsed | entered | finished | stepped | changed | cut | connected | received | deserted =>
    exact ⟨Nat.le_refl _, .inl rfl⟩
  | sent | passed | posted => exact ⟨Nat.le_refl _, .inl (filterMap_noted rfl traffic _)⟩
  | @told _ _ _ broadcast _ _ new | @relayed _ _ _ _ broadcast new =>
    refine ⟨Nat.le_succ _, ?_⟩
    rcases told broadcast with none | one
    · exact .inl none
    · exact .inr ⟨broadcast, one, by rw [new], Nat.lt_succ_self _⟩

/-- No two of the broadcasts have one number: the later ones have the larger numbers. -/
theorem numbers_after (traffic : Traffic) (events : List Event) (room : RoomId) :
    let record := traffic.report rules events
    (toldTo room record).Pairwise (fun first second => first.number < second.number) ∧
      ∀ broadcast ∈ toldTo room record, traffic.broadcasts ≤ broadcast.number := by
  induction events generalizing traffic with
  | nil => exact ⟨.nil, fun _ member => nomatch member⟩
  | cons event rest ih =>
    obtain ⟨grown, told⟩ := (traffic.react_reacts rules event).numbers room
    obtain ⟨ascending, above⟩ := ih (traffic.react rules event).1
    dsimp only
    rw [report_cons, toldTo_append]
    rcases told with none | ⟨broadcast, one, number, more⟩
    · rw [none]
      exact ⟨ascending, fun broadcast member => Nat.le_trans grown (above broadcast member)⟩
    · rw [one]
      constructor
      · refine List.pairwise_cons.mpr ⟨?_, ascending⟩
        intro later member
        rw [number]
        exact Nat.lt_of_lt_of_le more (above later member)
      · intro later member
        rcases List.mem_cons.mp member with rfl | member
        · exact Nat.le_of_eq number.symm
        · exact Nat.le_trans grown (above later member)

/-! ### Who is not in the room -/

def Numbered (traffic : Traffic) : Prop :=
  ∀ parcel ∈ traffic.parcels, parcel.broadcast.number < traffic.broadcasts

theorem Reacts.mem_parcels_of_put (reacts : Reacts rules traffic event next notes) {parcel : Parcel}
    (put : Note.put parcel ∈ notes) : parcel ∈ traffic.parcels := by
  cases reacts with
  | elapsed | entered | finished | stepped | connected | deserted => cases put
  | changed | cut | received | told | relayed => cases List.mem_singleton.mp put
  | sent | posted => cases eq_of_mem_noted put
  | passed listed =>
    cases eq_of_mem_noted put
    exact List.mem_of_getElem? listed

theorem Reacts.mem_parcels (reacts : Reacts rules traffic event next notes) {parcel : Parcel}
    (member : parcel ∈ next.parcels) :
    parcel ∈ traffic.parcels ∨
      (parcel.broadcast.number = traffic.broadcasts ∧ traffic.broadcasts < next.broadcasts) ∧
        ∃ player holder, traffic.server.registry.connection? parcel.broadcast.room player =
          some holder ∧ holder.id = parcel.receiver := by
  cases reacts with
  | elapsed | entered | finished | stepped | changed | sent | cut | posted | connected | received
  | deserted => exact .inl member
  | passed => exact .inl (List.mem_of_mem_eraseIdx member)
  | told held quiet new | relayed new =>
    rcases List.mem_append.mp member with old | fresh
    · exact .inl old
    · obtain ⟨about, registered⟩ := Registry.mem_parcels.mp fresh
      rw [← about] at registered new
      exact .inr ⟨⟨congrArg Broadcast.number new, Nat.lt_succ_self _⟩, registered⟩

theorem Reacts.number_of_told (reacts : Reacts rules traffic event next notes)
    {broadcast : Broadcast} (told : Note.told broadcast ∈ notes) :
    broadcast.number = traffic.broadcasts ∧ traffic.broadcasts < next.broadcasts := by
  cases reacts with
  | elapsed | entered | finished | stepped | connected | deserted => cases told
  | changed | cut | received => cases List.mem_singleton.mp told
  | sent | posted | passed => cases eq_of_mem_noted told
  | told _ _ new | relayed new =>
    cases List.mem_singleton.mp told
    exact ⟨congrArg Broadcast.number new, Nat.lt_succ_self _⟩

theorem Reacts.numbered (reacts : Reacts rules traffic event next notes)
    (numbered : traffic.Numbered) : next.Numbered := by
  intro parcel member
  rcases reacts.mem_parcels member with old | ⟨new, _⟩
  · exact Nat.lt_of_lt_of_le (numbered parcel old) (reacts.numbers parcel.broadcast.room).1
  · rw [new.1]
    exact new.2

theorem after_numbered {events : List Event} (numbered : traffic.Numbered) :
    (traffic.after rules events).Numbered := by
  induction events generalizing traffic with
  | nil => exact numbered
  | cons event rest ih => exact ih ((traffic.react_reacts rules event).numbered numbered)

theorem broadcasts_le_after (traffic : Traffic) (events : List Event) :
    traffic.broadcasts ≤ (traffic.after rules events).broadcasts := by
  induction events generalizing traffic with
  | nil => exact Nat.le_refl _
  | cons event rest ih =>
    have grown := ((traffic.react_reacts rules event).numbers 0).1
    exact Nat.le_trans grown (ih _)

theorem number_lt_of_put {events : List Event} {parcel : Parcel} (numbered : traffic.Numbered)
    (put : Note.put parcel ∈ traffic.report rules events) :
    parcel.broadcast.number < (traffic.after rules events).broadcasts := by
  induction events generalizing traffic with
  | nil => cases put
  | cons event rest ih =>
    have reacts := traffic.react_reacts rules event
    rw [report_cons, List.mem_append] at put
    rcases put with now | later
    · have told := numbered parcel (reacts.mem_parcels_of_put now)
      exact Nat.lt_of_lt_of_le told (traffic.broadcasts_le_after (event :: rest))
    · exact ih (reacts.numbered numbered) later

/-- What was told, but not to somebody, never arrives there. -/
theorem not_put_after {events : List Event} {parcel : Parcel}
    (told : parcel.broadcast.number < traffic.broadcasts) (missing : parcel ∉ traffic.parcels) :
    Note.put parcel ∉ traffic.report rules events := by
  induction events generalizing traffic with
  | nil => exact List.not_mem_nil
  | cons event rest ih =>
    have reacts := traffic.react_reacts rules event
    have grown := (reacts.numbers parcel.broadcast.room).1
    have absent : parcel ∉ (traffic.react rules event).1.parcels := by
      intro member
      rcases reacts.mem_parcels member with before | ⟨⟨new, _⟩, _⟩
      · exact missing before
      · omega
    rw [report_cons, List.mem_append, not_or]
    refine ⟨fun put => missing (reacts.mem_parcels_of_put put), ih ?_ absent⟩
    omega

/-- Nothing of a broadcast arrives at a connection that is not in the room when it is told. -/
theorem not_put_of_outside {first last : List Event} {broadcast : Broadcast} {id : ConnectionId}
    (numbered : traffic.Numbered)
    (told : .told broadcast ∈
      ((traffic.after rules first).react rules event).2)
    (outside : ∀ player holder,
      (traffic.after rules first).server.registry.connection? broadcast.room player =
        some holder → holder.id ≠ id) :
    Note.put ⟨broadcast, id⟩ ∉ traffic.report rules (first ++ event :: last) := by
  let now := traffic.after rules first
  have numberedNow : now.Numbered := after_numbered numbered
  have reacts := now.react_reacts rules event
  obtain ⟨number, more⟩ := reacts.number_of_told told
  have unsent : (⟨broadcast, id⟩ : Parcel) ∉ now.parcels := fun member =>
    Nat.ne_of_lt (numberedNow _ member) number
  rw [report_append, report_cons, List.mem_append, List.mem_append, not_or, not_or]
  refine ⟨?_, ?_, ?_⟩
  · intro put
    exact Nat.ne_of_lt (number_lt_of_put numbered put) number
  · exact fun put => unsent (reacts.mem_parcels_of_put put)
  -- No parcel was sent there when the others were, and later broadcasts have other numbers.
  · apply not_put_after
    · rw [number]
      exact more
    · intro member
      rcases reacts.mem_parcels member with old | ⟨_, player, holder, registered, same⟩
      · exact unsent old
      · exact outside player holder registered same

/-- All members of a room see the same game in the same order. Of two connections that are in a room
for some time, with queues that work, each takes in all that whoever holds the gate tells the room in
that time, every broadcast once and in one order: that of the changes of the room, and for each
change that of its news. What is under way at the beginning comes first, and what is under way at
the end is yet to come. Who is not in the room when it is told something gets nothing of it. -/
theorem members_hear_the_same (rules : Rules) (before during : List Event) (room : RoomId)
    (one other : Connection)
    (distinct : ∀ first ∈ joiners (before ++ during), ∀ second ∈ joiners (before ++ during),
      first.id = second.id → first = second)
    (listen : ∀ seen, seen <+: during →
      let now := (initial rules.config).after rules (before ++ seen)
      now.Listens room one ∧ now.Listens room other) :
    let run := (initial rules.config).after rules
    let start := run before
    let finish := run (before ++ during)
    let notes := start.report rules during
    let record := (initial rules.config).report rules (before ++ during)
    (start.Follows notes finish room one.id ∧ start.Follows notes finish room other.id) ∧
      (toldTo room record).Pairwise (fun first second => first.number < second.number) ∧
      (∃ reports, List.Forall₂ (· <+: ·) reports (newsOf room record) ∧
        messagesTo room record = reports.flatten) ∧
      (Note.cut ∉ record → finish.gate = none →
        messagesTo room record = (newsOf room record).flatten) ∧
      ∀ first event last, before ++ during = first ++ event :: last →
        ∀ broadcast, .told broadcast ∈ ((run first).react rules event).2 →
          ∀ id, (∀ player holder, (run first).server.registry.connection? broadcast.room player =
              some holder → holder.id ≠ id) →
            Note.put ⟨broadcast, id⟩ ∉ record := by
  intro run start finish notes record
  let known := joiners (before ++ during)
  have all : known = joiners before ++ joiners during := List.filterMap_append
  have joinsBefore : ∀ connection ∈ joiners before, connection ∈ known := fun connection member =>
    all ▸ List.mem_append_left _ member
  have joinsDuring : ∀ connection ∈ joiners during, connection ∈ known := fun connection member =>
    all ▸ List.mem_append_right _ member
  have sound : start.Sound known :=
    after_sound (sound_initial known rules.config) distinct joinsBefore
  have last : finish = start.after rules during := after_append ..
  have later (seen : List Event) (early : seen <+: during) :
      (start.after rules seen).Listens room one ∧
        (start.after rules seen).Listens room other := by
    have now := listen seen early
    rw [after_append] at now
    exact now
  have owes : (initial rules.config).Owes room [] := rfl
  have follows (connection : Connection)
      (listens : ∀ seen, seen <+: during →
        (start.after rules seen).Listens room connection) :
      start.Follows notes finish room connection.id := by
    rw [last]
    exact follows_after sound distinct joinsDuring listens
  refine ⟨⟨?_, ?_⟩, ?_, ?_, ?_, ?_⟩
  · exact follows one fun seen early => (later seen early).1
  · exact follows other fun seen early => (later seen early).2
  · exact ((initial rules.config).numbers_after (before ++ during) room).1
  · exact exists_reports_after owes
  · exact messages_of_uncut owes
  · intro first event rest split broadcast told id outside
    have numbered : (initial rules.config).Numbered := fun _ member => nomatch member
    dsimp only [record]
    rw [split]
    exact not_put_of_outside numbered told outside

/-- A third player comes into a room of two and goes again, while one of the two is typing. What is
typed reaches the one after the third player was announced, and the other before. -/
theorem members_hear_the_same_of_visit :
    let rules : Rules := ⟨{}, ⟨fun _ => false, fun _ _ => false⟩⟩
    let one : Connection := ⟨1, ⟨10, "one", false⟩⟩
    let other : Connection := ⟨2, ⟨20, "two", false⟩⟩
    let third : Connection := ⟨3, ⟨30, "three", false⟩⟩
    let occur (occurrence : Occurrence) : Event := .occur occurrence fun _ => "the"
    let before : List Event :=
      [.connect 1, .connect 2, .connect 3, occur (.join one 7 none), .proceed, .proceed, .proceed,
        .proceed, .pass 0, .proceed, .pass 0, .proceed, occur (.join other 7 none), .proceed,
        .proceed, .proceed, .proceed, .proceed, .pass 1, .pass 0, .proceed]
    let during : List Event :=
      [occur (.relay 7 10 "th"), occur (.join third 7 none), .proceed, .proceed, .proceed, .proceed,
        .proceed, .pass 2, .pass 1, .receive 1, .pass 1, .pass 0, .pass 0, .proceed,
        occur (.leave third 7), .proceed, .proceed, .proceed, .pass 1, .pass 0, .proceed, .proceed]
    let start := (initial rules.config).after rules before
    let notes := start.report rules during
    messagesTo 7 notes = [.userJoined 7 30 "three", .userLeft 7 30 "three"] ∧
      heardBy 7 1 notes = toldTo 7 notes ∧ heardBy 7 2 notes = toldTo 7 notes ∧
      appendedTo 1 notes = [.message (.userJoined 7 30 "three"), .message (.typing 7 10 "th"),
        .message (.userLeft 7 30 "three")] ∧
      appendedTo 2 notes = [.message (.typing 7 10 "th"), .message (.userJoined 7 30 "three"),
        .message (.userLeft 7 30 "three")] := by
  intro rules one other third occur before during start notes
  have listen : ∀ seen, seen <+: during →
      let now := (initial rules.config).after rules (before ++ seen)
      now.Listens 7 one ∧ now.Listens 7 other := by
    intro seen early
    rw [List.prefix_iff_eq_take.mp early]
    have short := early.length_le
    generalize seen.length = count at short ⊢
    revert count
    decide +kernel
  let finish := (initial rules.config).after rules (before ++ during)
  have follow : start.Follows notes finish 7 one.id ∧ start.Follows notes finish 7 other.id :=
    (members_hear_the_same rules before during 7 one other (by decide +kernel) listen).1
  refine ⟨by decide +kernel, ?_, ?_, by decide +kernel, by decide +kernel⟩
  · exact follow.1.heard_eq_told (by decide +kernel) (by decide +kernel)
  · exact follow.2.heard_eq_told (by decide +kernel) (by decide +kernel)

end Traffic

end WordGame
