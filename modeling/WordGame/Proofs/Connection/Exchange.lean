import WordGame.Connection.Exchange

/-!
What passes through a queue, whatever is done at its two ends. Messages come out in the order in
which they were let in, once each, and nothing is refused before the queue is full. Whoever is
refused there has the writer told to close before anything else, and every order to close reaches
the writer no later than what was queued before it.
-/

namespace WordGame

theorem Outbound.messages_append (first second : List Outbound) :
    messages (first ++ second) = messages first ++ messages second :=
  List.filterMap_append

theorem Receipt.items_append (first second : List Receipt) :
    items (first ++ second) = items first ++ items second :=
  List.filterMap_append

namespace Exchange

def Act.offer? : Act → Option Outbound
  | send message => some (.message message)
  | close => some .close
  | _ => none

/-- The writer takes an item, and looks for an overflow first. -/
def Act.begins : Act → Bool
  | receive | poll => true
  | _ => false

def Act.reply (accepted : Bool) : Act → Reply
  | send _ => .sent accepted
  | _ => .done

inductive Leads (exchange : Exchange) (act : Act) : Reply → Exchange → Prop
  | rests : Leads exchange act .done exchange
  | accepted {item : Outbound} (offered : act.offer? = some item)
      (attended : exchange.queue.attended = true) (place : exchange.queue.isFull = false) :
      Leads exchange act (act.reply true)
        { exchange with
          queue := { exchange.queue with waiting := exchange.queue.waiting ++ [item] } }
  | refused {item : Outbound} (offered : act.offer? = some item)
      (attended : exchange.queue.attended = true) (full : exchange.queue.isFull = true) :
      Leads exchange act (act.reply false)
        { exchange with queue := { exchange.queue with overflowed := true } }
  | lost {item : Outbound} (offered : act.offer? = some item)
      (deserted : exchange.queue.attended = false) : Leads exchange act (act.reply false) exchange
  | handled (handles : Nat) : Leads exchange act .done { exchange with handles := handles }
  | warned (begins : act.begins = true) (idle : exchange.awaited = false)
      (overflowed : exchange.queue.overflowed = true) :
      Leads exchange act (.received (.item .close))
        { exchange with queue := { exchange.queue with overflowed := false }, awaited := false }
  | taken {item : Outbound} {rest : List Outbound}
      (looked : act.begins = true ∧ exchange.queue.overflowed = false ∨
        act = .resume ∧ exchange.awaited = true)
      (waiting : exchange.queue.waiting = item :: rest) :
      Leads exchange act (.received (.item item))
        { exchange with queue := { exchange.queue with waiting := rest }, awaited := false }
  | missed {receipt : Receipt} (awaited : Bool)
      (looked : act.begins = true ∧ exchange.queue.overflowed = false ∨
        act = .resume ∧ exchange.awaited = true)
      (nothing : exchange.queue.waiting = []) (empty : Receipt.items [receipt] = []) :
      Leads exchange act (.received receipt) { exchange with awaited := awaited }
  | stopped : Leads exchange act .done { exchange with awaited := false }
  | deserted (deserts : act = .desert) :
      Leads exchange act .done { exchange with queue := exchange.queue.desert, awaited := false }

variable {exchange later : Exchange} {act : Act} {reply : Reply}

theorem accepted_append (first second : List (Act × Reply)) :
    accepted (first ++ second) = accepted first ++ accepted second :=
  List.filterMap_append

theorem receipts_append (first second : List (Act × Reply)) :
    receipts (first ++ second) = receipts first ++ receipts second :=
  List.filterMap_append

def given (notes : List (Act × Reply)) : List ServerMessage :=
  Outbound.messages (Receipt.items (receipts notes))

theorem given_append (first second : List (Act × Reply)) :
    given (first ++ second) = given first ++ given second := by
  unfold given
  rw [receipts_append, Receipt.items_append, Outbound.messages_append]

theorem accepted_done (act : Act) : accepted [(act, .done)] = [] := by cases act <;> rfl

theorem accepted_received (act : Act) (receipt : Receipt) :
    accepted [(act, .received receipt)] = [] := by
  cases act <;> rfl

theorem accepted_true {item : Outbound} (offered : act.offer? = some item) :
    accepted [(act, act.reply true)] = Outbound.messages [item] := by
  cases act with
  | send | close =>
    cases offered
    rfl
  | _ => cases offered

theorem accepted_false (act : Act) : accepted [(act, act.reply false)] = [] := by cases act <;> rfl

theorem receipts_done (act : Act) : receipts [(act, .done)] = [] := by cases act <;> rfl

theorem receipts_reply (act : Act) (taken : Bool) : receipts [(act, act.reply taken)] = [] := by
  cases act <;> rfl

theorem given_reply (act : Act) (taken : Bool) : given [(act, act.reply taken)] = [] := by
  rw [given, receipts_reply]
  rfl

/-! ### Order -/

/-- What was let in has come out in its order or waits still, unless the writer went away. The queue
is not overfull. -/
structure InOrder (exchange : Exchange) (notes : List (Act × Reply)) : Prop where
  order : ∃ lost, accepted notes = given notes ++ Outbound.messages exchange.queue.waiting ++ lost ∧
    (exchange.queue.attended = true → lost = [])
  short : exchange.queue.waiting.length ≤ Queue.capacity

theorem InOrder.quiet {notes : List (Act × Reply)} {note : Act × Reply}
    (inOrder : exchange.InOrder notes) (nothing : accepted [note] = []) (none : given [note] = [])
    (attended : later.queue.attended = exchange.queue.attended)
    (waiting : later.queue.waiting = exchange.queue.waiting) : later.InOrder (notes ++ [note]) := by
  obtain ⟨lost, order, kept⟩ := inOrder.order
  refine ⟨⟨lost, ?_, ?_⟩, ?_⟩
  · rw [accepted_append, given_append, nothing, none, List.append_nil, List.append_nil, waiting,
      order]
  · rw [attended]
    exact kept
  · rw [waiting]
    exact inOrder.short

theorem Leads.inOrder {notes : List (Act × Reply)} (leads : exchange.Leads act reply later)
    (inOrder : exchange.InOrder notes) : later.InOrder (notes ++ [(act, reply)]) := by
  cases leads with
  | rests => exact inOrder.quiet (accepted_done act) rfl rfl rfl
  | handled => exact inOrder.quiet (accepted_done act) rfl rfl rfl
  | stopped => exact inOrder.quiet (accepted_done act) rfl rfl rfl
  | refused => exact inOrder.quiet (accepted_false act) (given_reply act false) rfl rfl
  | lost => exact inOrder.quiet (accepted_false act) (given_reply act false) rfl rfl
  | warned => exact inOrder.quiet (accepted_received act _) rfl rfl rfl
  | missed _ _ _ empty =>
    refine inOrder.quiet (accepted_received act _) ?_ rfl rfl
    change Outbound.messages (Receipt.items [_]) = []
    rw [empty]
    rfl
  | @accepted item offered attended place =>
    obtain ⟨lost, order, kept⟩ := inOrder.order
    refine ⟨⟨[], ?_, fun _ => rfl⟩, ?_⟩
    · rw [accepted_append, given_append, accepted_true offered, given_reply, order, kept attended,
        Outbound.messages_append, List.append_nil, List.append_nil, List.append_nil,
        List.append_assoc]
    · rw [Bool.eq_false_iff, ne_eq, Queue.isFull_iff] at place
      rw [List.length_append]
      exact Nat.not_le.mp place
  | @taken item left looked waiting =>
    obtain ⟨lost, order, kept⟩ := inOrder.order
    have short := inOrder.short
    rw [waiting] at order short
    refine ⟨⟨lost, ?_, kept⟩, Nat.le_of_succ_le short⟩
    have next : given [(act, .received (.item item))] = Outbound.messages [item] := rfl
    have parts := Outbound.messages_append [item] left
    rw [List.singleton_append] at parts
    rw [accepted_append, given_append, accepted_received, List.append_nil, order, next, parts,
      ← List.append_assoc (given notes)]
  | deserted =>
    obtain ⟨lost, order, _⟩ := inOrder.order
    refine ⟨⟨Outbound.messages exchange.queue.waiting ++ lost, ?_, fun there => nomatch there⟩,
      Nat.zero_le _⟩
    have none : given [(act, .done)] = [] := rfl
    have empty : Outbound.messages exchange.queue.desert.waiting = [] := rfl
    rw [accepted_append, given_append, accepted_done, none, empty, List.append_nil,
      List.append_nil, List.append_nil, order, List.append_assoc]

theorem Leads.overflowed (leads : exchange.Leads act reply later) (begins : act.begins = false)
    (stays : act ≠ .desert) (overflowed : exchange.queue.overflowed = true) :
    later.queue.overflowed = true := by
  cases leads with
  | warned looks =>
    rw [begins] at looks
    cases looks
  | refused => rfl
  | deserted deserts => exact absurd deserts stays
  | _ => exact overflowed

theorem Leads.attended (leads : exchange.Leads act reply later) (stays : act ≠ .desert) :
    later.queue.attended = exchange.queue.attended := by
  cases leads with
  | deserted deserts => exact absurd deserts stays
  | _ => rfl

/-- How things stand after the connection was to be closed while a few items were queued: the writer
was told already, or has been given some of these items and finds the others before the order to
close. -/
inductive Heeds (queued : List Outbound) (exchange : Exchange) (told : List Receipt) : Prop
  | closed (closed : .item .close ∈ told.take (queued.length + 1))
  | queued (taken rest : List Outbound) (split : queued = taken ++ rest)
      (given : told = taken.map .item) (ahead : rest ++ [.close] <+: exchange.queue.waiting)
  /-- A writer that is waiting for the first of the items does not look for the overflow. -/
  | overflowed (taken rest : List Outbound) (split : queued = taken ++ rest)
      (given : told = taken.map .item) (ahead : rest <+: exchange.queue.waiting)
      (overflowed : exchange.queue.overflowed = true)
      (unfinished : exchange.awaited = true → rest ≠ [])

variable {queued : List Outbound} {told : List Receipt}

theorem Heeds.closed_or_prefix (heeds : Heeds queued exchange told) :
    .item .close ∈ told.take (queued.length + 1) ∨ told <+: queued.map .item := by
  cases heeds with
  | closed closed => exact .inl closed
  | queued taken rest split given | overflowed taken rest split given =>
    rw [split, given, List.map_append]
    exact .inr (List.prefix_append _ _)

theorem Heeds.close (heeds : Heeds queued exchange told) :
    Heeds queued later (told ++ [.item .close]) := by
  refine .closed ?_
  rcases heeds.closed_or_prefix with closed | ahead
  · rw [List.take_append]
    exact List.mem_append_left _ closed
  · have short := ahead.length_le
    rw [List.length_map] at short
    rw [List.take_of_length_le]
    · exact List.mem_append_right _ (List.mem_singleton_self _)
    · rw [List.length_append]
      exact Nat.succ_le_succ short

theorem Heeds.closed_append (closed : .item .close ∈ told.take (queued.length + 1))
    (more : List Receipt) : Heeds queued later (told ++ more) := by
  refine .closed ?_
  rw [List.take_append]
  exact List.mem_append_left _ closed

theorem Heeds.quiet (heeds : Heeds queued exchange told)
    (waiting : exchange.queue.waiting <+: later.queue.waiting)
    (overflowed : exchange.queue.overflowed = true → later.queue.overflowed = true)
    (awaited : later.awaited = true → exchange.awaited = true) : Heeds queued later told := by
  cases heeds with
  | closed closed => exact .closed closed
  | queued taken rest split given ahead =>
    exact .queued taken rest split given (ahead.trans waiting)
  | overflowed taken rest split given ahead warned unfinished =>
    exact .overflowed taken rest split given (ahead.trans waiting) (overflowed warned)
      (fun waits => unfinished (awaited waits))

theorem Heeds.taken (heeds : Heeds queued exchange told) {item : Outbound} {rest : List Outbound}
    (looked : act.begins = true ∧ exchange.queue.overflowed = false ∨
      act = .resume ∧ exchange.awaited = true)
    (waiting : exchange.queue.waiting = item :: rest) (next : later.queue.waiting = rest)
    (overflowed : later.queue.overflowed = exchange.queue.overflowed)
    (ready : later.awaited = false) : Heeds queued later (told ++ [.item item]) := by
  have ordered : Heeds queued later (told ++ [.item .close]) := heeds.close
  cases heeds with
  | closed closed => exact closed_append closed _
  | queued taken left split given ahead =>
    rw [waiting] at ahead
    cases left with
    -- all that was queued before is out, so this is the order to close
    | nil =>
      obtain ⟨same, _⟩ := List.cons_prefix_cons.mp ahead
      rw [← same]
      exact ordered
    | cons first left =>
      obtain ⟨rfl, after⟩ := List.cons_prefix_cons.mp ahead
      refine .queued (taken ++ [first]) left ?_ ?_ ?_
      · rw [split, List.append_assoc]
        rfl
      · rw [given, List.map_append]
        rfl
      · rw [next]
        exact after
  | overflowed taken left split given ahead warned unfinished =>
    -- only a writer that has waited since before the overflow takes an item past it
    rcases looked with ⟨_, clear⟩ | ⟨_, waits⟩
    · rw [warned] at clear
      cases clear
    · obtain ⟨first, left, rfl⟩ := List.exists_cons_of_ne_nil (unfinished waits)
      rw [waiting] at ahead
      obtain ⟨rfl, after⟩ := List.cons_prefix_cons.mp ahead
      refine .overflowed (taken ++ [first]) left ?_ ?_ ?_ ?_ ?_
      · rw [split, List.append_assoc]
        rfl
      · rw [given, List.map_append]
        rfl
      · rw [next]
        exact after
      · rw [overflowed]
        exact warned
      · intro waits
        rw [ready] at waits
        cases waits

theorem Heeds.waiting_ne_nil (heeds : Heeds queued exchange told)
    (looked : act.begins = true ∧ exchange.queue.overflowed = false ∨
      act = .resume ∧ exchange.awaited = true) :
    .item .close ∈ told.take (queued.length + 1) ∨ exchange.queue.waiting ≠ [] := by
  cases heeds with
  | closed closed => exact .inl closed
  | queued taken left split given ahead =>
    refine .inr ?_
    intro nothing
    rw [nothing, List.prefix_nil] at ahead
    exact List.append_ne_nil_of_right_ne_nil left (List.cons_ne_nil _ _) ahead
  | overflowed taken left split given ahead warned unfinished =>
    refine .inr ?_
    intro nothing
    rw [nothing, List.prefix_nil] at ahead
    rcases looked with ⟨_, clear⟩ | ⟨_, waits⟩
    · rw [warned] at clear
      cases clear
    · exact unfinished waits ahead

theorem Leads.heeds (leads : exchange.Leads act reply later) (stays : act ≠ .desert)
    (heeds : Heeds queued exchange told) :
    Heeds queued later (told ++ receipts [(act, reply)]) := by
  cases leads with
  | rests | handled =>
    rw [receipts_done, List.append_nil]
    exact heeds.quiet (List.prefix_refl _) id id
  | stopped =>
    rw [receipts_done, List.append_nil]
    exact heeds.quiet (List.prefix_refl _) id (fun impossible => nomatch impossible)
  | accepted =>
    rw [receipts_reply, List.append_nil]
    exact heeds.quiet (List.prefix_append _ _) id id
  | refused =>
    rw [receipts_reply, List.append_nil]
    exact heeds.quiet (List.prefix_refl _) (fun _ => rfl) id
  | lost =>
    rw [receipts_reply, List.append_nil]
    exact heeds.quiet (List.prefix_refl _) id id
  | warned => exact heeds.close
  | taken looked waiting => exact heeds.taken looked waiting rfl rfl rfl
  | missed _ looked nothing =>
    rcases heeds.waiting_ne_nil looked with closed | something
    · exact Heeds.closed_append closed _
    · exact absurd nothing something
  | deserted deserts => exact absurd deserts stays

example :
    let full := fresh.after (List.replicate (Queue.capacity + 1) (.send (.pong 1)))
    (full.act .receive).1 = .received (.item .close) ∧
      ((full.act .receive).2.act .receive).1 = .received (.item (.message (.pong 1))) := by
  decide +kernel

end Exchange

end WordGame
