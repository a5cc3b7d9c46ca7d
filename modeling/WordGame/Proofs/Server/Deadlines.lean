import Mathlib.Data.List.Induction
import WordGame.Proofs.Server.Clock
import WordGame.Proofs.Server.Openings
import WordGame.Proofs.Server.Presence

/-!
Deadlines that stand. From the moment when a room is founded its countdown has one deadline, and from
the moment when a turn starts so has its timer; whatever else happens moves neither of them.
-/

namespace WordGame

namespace Server

/-- The moments to which timers that call for something are set: `due` for those that pend. What was
handed over, is handed over at that moment, if nobody lets time go by before it is done. -/
structure Due (server : Server) (prompt : Prop) (concerned : Callback → Prop) (due : Millis) :
    Prop where
  pending : ∀ alarm ∈ server.timers.pending, concerned alarm.call → alarm.deadline = due
  handed : prompt → ∀ callback ∈ server.handed, concerned callback → server.timers.now = due

def Ahead (server : Server) : Prop :=
  ∀ alarm ∈ server.timers.pending, server.timers.now ≤ alarm.deadline

variable {rules : Rules} {fragment : Nat → String} {server later : Server}
  {occurrence : Occurrence}

theorem Elapses.kept_or_same (elapses : server.Elapses rules occurrence later) :
    server.Keeps rules later ∨
      later.store = server.store ∧ later.timers.recorded = server.timers.recorded := by
  cases elapses with
  | kept keeps => exact .inl keeps
  | waited | rang => exact .inr ⟨rfl, rfl⟩

theorem Elapses.now_le (elapses : server.Elapses rules occurrence later) :
    server.timers.now ≤ later.timers.now := by
  cases elapses with
  | kept keeps => exact Nat.le_of_eq keeps.now.symm
  | waited moment => exact Nat.le_max_left _ _
  | rang alarm => exact Nat.le_max_left _ _

theorem Sets.now_le {alarm : Alarm Callback} (sets : server.Sets rules later alarm) :
    server.timers.now ≤ alarm.deadline := by
  cases sets with
  | countdown => exact Nat.le_add_right _ _
  | turn => exact Nat.le_add_right _ _

theorem Elapses.ahead (elapses : server.Elapses rules occurrence later)
    (ahead : server.Ahead) : later.Ahead := by
  intro alarm pending
  cases elapses with
  | kept keeps =>
    rw [keeps.now]
    rcases keeps.pending alarm pending with before | new
    · exact ahead alarm before
    · exact new.now_le
  | waited moment =>
    change alarm ∈ server.timers.pending at pending
    change max server.timers.now (server.horizon moment) ≤ alarm.deadline
    refine Nat.max_le.mpr ⟨ahead alarm pending, ?_⟩
    unfold horizon
    cases next : server.timers.next? with
    | none =>
      unfold Timers.next? at next
      cases waiting : server.timers.pending with
      | nil =>
        rw [waiting] at pending
        cases pending
      | cons =>
        rw [waiting] at next
        cases next
    | some first =>
      have least := Timers.deadline_le_of_next? next pending
      exact Nat.le_trans (Nat.min_le_right _ _) least
  | rang first _ due =>
    have before := (List.mem_filter.mp pending).1
    change max server.timers.now first.deadline ≤ alarm.deadline
    rw [Nat.max_eq_left due]
    exact ahead alarm before

/-- Timers stay due at the moment at which they are due, and so are those that are set. -/
theorem Elapses.due (elapses : server.Elapses rules occurrence later) (ahead : server.Ahead)
    {prompt : Prop} {concerned : Callback → Prop} {due : Millis}
    (busy : prompt → ∀ moment, occurrence = .wait moment → server.handed = [])
    (set : ∀ alarm, server.Sets rules later alarm → concerned alarm.call → alarm.deadline = due)
    (isDue : server.Due prompt concerned due) : later.Due prompt concerned due := by
  cases elapses with
  | kept keeps =>
    constructor
    · intro alarm pending
      rcases keeps.pending alarm pending with before | new
      · exact isDue.pending alarm before
      · exact set alarm new
    · intro punctual callback handed concerns
      rw [keeps.now]
      exact isDue.handed punctual callback (keeps.handed callback handed) concerns
  | waited moment =>
    refine ⟨isDue.pending, ?_⟩
    intro punctual callback handed
    rw [show (server.wait moment).handed = [] from busy punctual moment rfl] at handed
    cases handed
  | rang alarm pending reached =>
    have now : (server.ring alarm).timers.now = server.timers.now := Nat.max_eq_left reached
    constructor
    · intro other left
      exact isDue.pending other (List.mem_filter.mp left).1
    · intro punctual callback handed concerns
      rw [now]
      rcases List.mem_append.mp handed with before | rung
      · exact isDue.handed punctual callback before concerns
      · rw [List.mem_singleton.mp rung] at concerns
        have deadline := isDue.pending alarm pending concerns
        exact (Nat.le_antisymm (ahead alarm pending) reached).trans deadline

theorem Elapses.countdown (elapses : server.Elapses rules occurrence later) {id : RoomId}
    {armed : Armed} (recorded : (later.timers.entry id).countdown = some armed) :
    (server.timers.entry id).countdown = some armed ∨
      server.store.get? id = none ∧
        armed.deadline = server.timers.now + rules.config.countdown := by
  rcases elapses.kept_or_same with keeps | ⟨_, same⟩
  · exact keeps.countdown id armed recorded
  · rw [entry_of_recorded same] at recorded
    exact .inl recorded

theorem Elapses.turn (elapses : server.Elapses rules occurrence later) {id : RoomId}
    {timer : TurnTimer} (recorded : (later.timers.entry id).turn = some timer) :
    (server.timers.entry id).turn = some timer ∨
      ∃ ticket, server.Begins later id ticket ∧ timer.number = ticket.number ∧
        timer.armed.deadline = server.timers.now + ticket.duration := by
  rcases elapses.kept_or_same with keeps | ⟨_, same⟩
  · exact keeps.turn id timer recorded
  · rw [entry_of_recorded same] at recorded
    exact .inl recorded

end Server

namespace Chronicle

/-- What a server has come to by a few occurrences. -/
abbrev reached (rules : Rules) (occurrences : List (Occurrence × (Nat → String))) : Chronicle :=
  (begin (.initial rules.config)).run rules occurrences

/-- Something came about in a run, by one of its occurrences, and has held since: the server as it
was then, and what has happened after it. -/
def Since (rules : Rules) (holds : Server → Prop) (occurrences : List (Occurrence × (Nat → String)))
    (start : Server) (rest : List (Occurrence × (Nat → String))) : Prop :=
  ∃ seen occurrence, occurrences = seen ++ occurrence :: rest ∧
    ¬holds (reached rules seen).server ∧
    (reached rules (seen ++ [occurrence])).server = start ∧
    ∀ middle, middle <+: rest → holds ((begin start).run rules middle).server

variable {rules : Rules} {holds : Server → Prop}
  {occurrences rest : List (Occurrence × (Nat → String))} {start : Server}

theorem Since.server (since : Since rules holds occurrences start rest) :
    ((begin start).run rules rest).server = (reached rules occurrences).server := by
  obtain ⟨seen, occurrence, rfl, _, rfl, _⟩ := since
  rw [server_run_begin, ← run_append, List.append_assoc]
  rfl

theorem Since.begun {occurrence : Occurrence × (Nat → String)}
    (before : ¬holds (reached rules occurrences).server)
    (after : holds (reached rules (occurrences ++ [occurrence])).server) :
    Since rules holds (occurrences ++ [occurrence])
      (reached rules (occurrences ++ [occurrence])).server [] := by
  refine ⟨occurrences, occurrence, rfl, before, rfl, ?_⟩
  intro middle none
  rw [List.prefix_nil.mp none]
  exact after

theorem Since.still {occurrence : Occurrence × (Nat → String)}
    (since : Since rules holds occurrences start rest)
    (after : holds (reached rules (occurrences ++ [occurrence])).server) :
    Since rules holds (occurrences ++ [occurrence]) start (rest ++ [occurrence]) := by
  have server := since.server
  obtain ⟨seen, first, rfl, before, came, held⟩ := since
  refine ⟨seen, first, List.append_assoc _ _ _, before, came, ?_⟩
  intro middle early
  rcases List.prefix_concat_iff.mp early with whole | part
  · rw [whole]
    have goesOn : ((begin start).run rules (rest ++ [occurrence])).server =
        (reached rules (seen ++ first :: rest ++ [occurrence])).server := by
      rw [run_append, ← server_run_begin, server, server_run_begin, ← run_append]
    rw [goesOn]
    exact after
  · exact held middle part

theorem reached_concat (rules : Rules) (occurrences : List (Occurrence × (Nat → String)))
    (occurrence : Occurrence × (Nat → String)) :
    reached rules (occurrences ++ [occurrence]) =
      (reached rules occurrences).step rules occurrence :=
  run_append rules _ occurrences [occurrence]

theorem reached_elapses (rules : Rules) (occurrences : List (Occurrence × (Nat → String)))
    (occurrence : Occurrence × (Nat → String)) :
    (reached rules occurrences).server.Elapses rules occurrence.1
      (reached rules (occurrences ++ [occurrence])).server := by
  rw [reached_concat]
  refine Server.undergo_elapses rules occurrence.2 _ occurrence.1 ?_
  intro id found present
  exact (run_populated rules occurrences id).held found present

theorem reached_step (rules : Rules) (occurrences : List (Occurrence × (Nat → String)))
    (occurrence : Occurrence × (Nat → String)) :
    (reached rules occurrences).server.Step rules occurrence.2 occurrence.1
      (reached rules (occurrences ++ [occurrence])).server := by
  rw [reached_concat]
  exact Server.undergo_step _ rules occurrence.2 occurrence.1

theorem reached_ahead (rules : Rules) (occurrences : List (Occurrence × (Nat → String))) :
    (reached rules occurrences).server.Ahead := by
  induction occurrences using List.reverseRecOn with
  | nil => exact fun _ pending => nomatch pending
  | append_singleton seen occurrence ih =>
    exact (reached_elapses rules seen occurrence).ahead ih

theorem started_le_concat (rules : Rules) (occurrences : List (Occurrence × (Nat → String)))
    (occurrence : Occurrence × (Nat → String)) :
    (reached rules occurrences).started ≤
      (reached rules (occurrences ++ [occurrence])).started := by
  rw [reached_concat]
  exact Nat.le_add_right _ _

/-- The counter of turns has not come round if there are numbers for all of them. -/
theorem reached_counts (rules : Rules) (occurrences : List (Occurrence × (Nat → String)))
    (occurrence : Occurrence × (Nat → String))
    (small : (reached rules (occurrences ++ [occurrence])).started < UInt64.size) :
    (reached rules occurrences).server.Counts
      (reached rules (occurrences ++ [occurrence])).server := by
  have less := Nat.lt_of_le_of_lt (started_le_concat rules occurrences occurrence) small
  have before : (reached rules occurrences).server.turns.toNat =
      (reached rules occurrences).started :=
    (run_settled rules occurrences less).1
  have after : (reached rules (occurrences ++ [occurrence])).server.turns.toNat =
      (reached rules (occurrences ++ [occurrence])).started :=
    (run_settled rules (occurrences ++ [occurrence]) small).1
  rw [reached_concat] at after ⊢
  by_cases same : ((reached rules occurrences).step rules
      occurrence).server.turns = (reached rules occurrences).server.turns
  · exact .inl same
  · refine .inr ?_
    rw [after, before]
    exact congrArg ((reached rules occurrences).started + ·) (if_neg same)

/-- Nobody lets time go by while something that was handed over is left to do. -/
def Prompt (rules : Rules) (occurrences : List (Occurrence × (Nat → String))) : Prop :=
  ∀ seen moment fragment, seen ++ [(.wait moment, fragment)] <+: occurrences →
    (reached rules seen).server.handed = []

/-- Whether nobody lets time go by too early can be seen at each place of a run. -/
theorem Prompt.of_places (idle : ∀ place < occurrences.length,
    (occurrences[place]?.any fun occurrence => occurrence.1 matches .wait _) = true →
      (reached rules (occurrences.take place)).server.handed = []) :
    Prompt rules occurrences := by
  rintro seen moment fragment ⟨later, rfl⟩
  have nothing := idle seen.length (by simp) (by simp)
  rw [List.append_assoc, List.take_left] at nothing
  exact nothing

theorem Prompt.before {occurrence : Occurrence × (Nat → String)}
    (prompt : Prompt rules (occurrences ++ [occurrence])) :
    Prompt rules occurrences :=
  fun seen moment fragment early =>
    prompt seen moment fragment (early.trans (List.prefix_append _ _))

theorem Prompt.busy {occurrence : Occurrence × (Nat → String)}
    (prompt : Prompt rules (occurrences ++ [occurrence])) (moment : Millis)
    (waits : occurrence.1 = .wait moment) :
    (reached rules occurrences).server.handed = [] := by
  obtain ⟨_, fragment⟩ := occurrence
  cases waits
  exact prompt occurrences moment fragment (List.prefix_refl _)

end Chronicle

def Server.Hosts (id : RoomId) (epoch : Epoch) (server : Server) : Prop :=
  (server.store.get? id).map Room.epoch = some epoch

/-- The countdown of a room that was founded at a moment: its record, and the alarm that ends it. -/
structure Server.Counting (rules : Rules) (server : Server) (prompt : Prop) (id : RoomId)
    (epoch : Epoch) (founded : Millis) : Prop where
  since : founded ≤ server.timers.now
  recorded : ∀ armed, (server.timers.entry id).countdown = some armed →
    armed.deadline = founded + rules.config.countdown
  due : server.Due prompt (fun callback => callback = .start id epoch)
    (founded + min rules.config.countdown Timers.maxSpan)

/-- The timer of a turn that was started at a moment: its record, and the alarm that ends it. -/
structure Server.Timing (server : Server) (prompt : Prop) (id : RoomId) (ticket : Ticket)
    (started : Millis) : Prop where
  recorded : ∀ timer, (server.timers.entry id).turn = some timer →
    timer.armed.deadline = started + ticket.duration
  due : server.Due prompt
    (fun callback => ∃ called, callback = .expire id called ∧ called.number = ticket.number)
    (started + min ticket.duration Timers.maxSpan)

namespace Server

variable {rules : Rules} {fragment : Nat → String} {server later : Server}
  {occurrence : Occurrence} {prompt : Prop} {id : RoomId}

theorem Due.of_uncalled {concerned : Callback → Prop} (due : Millis)
    (uncalled : ∀ callback ∈ server.callbacks, ¬concerned callback) :
    server.Due prompt concerned due where
  pending alarm pending concerns :=
    absurd concerns (uncalled alarm.call
      (List.mem_append_left _ (List.mem_map_of_mem pending)))
  handed _ callback handed concerns :=
    absurd concerns (uncalled callback (List.mem_append_right _ handed))

theorem Due.mono {earlier : Prop} {concerned : Callback → Prop} {due : Millis}
    (isDue : server.Due earlier concerned due) (implies : prompt → earlier) :
    server.Due prompt concerned due :=
  ⟨isDue.pending, fun punctual => isDue.handed (implies punctual)⟩

theorem Keeps.counting (keeps : server.Keeps rules later) (counted : server.Counted)
    (agrees : (server.site id).Agrees)
    (elapses : server.Elapses rules occurrence later) (ahead : server.Ahead)
    (busy : prompt → ∀ moment, occurrence = .wait moment → server.handed = [])
    (absent : server.store.get? id = none) :
    later.Counting rules prompt id server.store.epochs later.timers.now := by
  have uncalled : ∀ callback ∈ server.callbacks, callback ≠ .start id server.store.epochs := by
    rintro callback member rfl
    have never := counted.unfounded id server.store.epochs (Nat.le_refl _)
    exact List.count_eq_zero.mp never member
  refine ⟨Nat.le_refl _, ?_, elapses.due ahead busy ?_ (.of_uncalled _ uncalled)⟩
  · intro armed recorded
    rw [keeps.now]
    rcases keeps.countdown id armed recorded with before | ⟨_, deadline⟩
    · have nothing : server.timers.entry id = .none := agrees.timers_of_absent absent
      rw [nothing] at before
      cases before
    · exact deadline
  · intro alarm sets concerns
    rw [keeps.now]
    cases sets with
    | countdown => rfl
    | turn => cases concerns

theorem Counting.still {epoch : Epoch} {founded : Millis} {earlier : Prop}
    (counting : server.Counting rules earlier id epoch founded) (implies : prompt → earlier)
    (elapses : server.Elapses rules occurrence later) (ahead : server.Ahead)
    (busy : prompt → ∀ moment, occurrence = .wait moment → server.handed = [])
    (present : server.store.get? id ≠ none) (older : epoch < server.store.epochs) :
    later.Counting rules prompt id epoch founded := by
  refine ⟨Nat.le_trans counting.since elapses.now_le, ?_,
    elapses.due ahead busy ?_ (counting.due.mono implies)⟩
  · intro armed recorded
    rcases elapses.countdown recorded with before | ⟨absent, _⟩
    · exact counting.recorded armed before
    · exact absurd absent present
  · intro alarm sets concerns
    cases sets with
    | countdown =>
      cases concerns
      exact absurd older (Nat.lt_irrefl _)
    | turn => cases concerns

theorem Settled.number_le (settled : server.Settled id) {ticket : Ticket}
    (running : server.running? id = some ticket) : ticket.number.toNat ≤ server.turns.toNat := by
  obtain ⟨room, present, runs⟩ := Option.bind_eq_some_iff.mp running
  have watched := settled.watched room present (Room.running_of_runningTicket? runs)
  obtain ⟨timer, recorded, number⟩ := Option.map_eq_some_iff.mp watched
  rw [← Room.turnNumber_of_runningTicket? runs, ← number]
  exact settled.numbered.recorded timer recorded

/-- The turn that is running has its timer. -/
theorem Settled.timer (settled : server.Settled id) {ticket : Ticket}
    (running : server.running? id = some ticket) :
    ∃ timer, (server.timers.entry id).turn = some timer ∧ timer.number = ticket.number := by
  obtain ⟨room, present, runs⟩ := Option.bind_eq_some_iff.mp running
  have watched := settled.watched room present (Room.running_of_runningTicket? runs)
  obtain ⟨timer, recorded, number⟩ := Option.map_eq_some_iff.mp watched
  exact ⟨timer, recorded, number.trans (Room.turnNumber_of_runningTicket? runs)⟩

theorem Begins.newer {ticket : Ticket} (begins : server.Begins later id ticket)
    (counts : server.Counts later) : ticket.number.toNat = server.turns.toNat + 1 := by
  have counts : server.turns + 1 = server.turns ∨
      (server.turns + 1).toNat = server.turns.toNat + 1 := by
    unfold Counts at counts
    rw [begins.latest, begins.number] at counts
    exact counts
  rw [begins.number]
  exact toNat_of_counts counts

theorem Keeps.timing (keeps : server.Keeps rules later) (settled : server.Settled id)
    (renewed : later.Settled id) (counts : server.Counts later)
    (elapses : server.Elapses rules occurrence later) (ahead : server.Ahead)
    (busy : prompt → ∀ moment, occurrence = .wait moment → server.handed = []) {ticket : Ticket}
    (begins : server.Begins later id ticket) : later.Timing prompt id ticket later.timers.now := by
  have newer := begins.newer counts
  have uncalled : ∀ callback ∈ server.callbacks,
      ¬∃ called, callback = .expire id called ∧ called.number = ticket.number := by
    rintro callback member ⟨called, rfl, same⟩
    have bound := settled.numbered.called called member
    rw [same] at bound
    omega
  refine ⟨?_, elapses.due ahead busy ?_ (.of_uncalled _ uncalled)⟩
  · intro timer recorded
    rw [keeps.now]
    rcases keeps.turn id timer recorded with before | ⟨other, again, _, deadline⟩
    · obtain ⟨latest, shown, number⟩ := renewed.timer begins.running
      cases shown.symm.trans recorded
      have bound := settled.numbered.recorded timer before
      rw [number] at bound
      omega
    · cases again.running.symm.trans begins.running
      exact deadline
  · intro alarm sets concerns
    rw [keeps.now]
    cases sets with
    | countdown =>
      obtain ⟨_, other, _⟩ := concerns
      cases other
    | turn room other again =>
      obtain ⟨_, same, _⟩ := concerns
      cases same
      cases again.running.symm.trans begins.running
      rfl

theorem Timing.still {ticket : Ticket} {started : Millis} {earlier : Prop}
    (timing : server.Timing earlier id ticket started) (implies : prompt → earlier)
    (settled : server.Settled id) (counts : server.Counts later)
    (elapses : server.Elapses rules occurrence later) (ahead : server.Ahead)
    (busy : prompt → ∀ moment, occurrence = .wait moment → server.handed = [])
    (running : server.running? id = some ticket) (still : later.running? id = some ticket) :
    later.Timing prompt id ticket started := by
  have older := settled.number_le running
  refine ⟨?_, elapses.due ahead busy ?_ (timing.due.mono implies)⟩
  · intro timer recorded
    rcases elapses.turn recorded with before | ⟨other, begins, _⟩
    · exact timing.recorded timer before
    · cases begins.running.symm.trans still
      have newer := begins.newer counts
      omega
  · intro alarm sets concerns
    cases sets with
    | countdown =>
      obtain ⟨_, other, _⟩ := concerns
      cases other
    | turn room other begins =>
      obtain ⟨_, same, number⟩ := concerns
      cases same
      have newer := begins.newer counts
      rw [number] at newer
      omega

end Server

namespace Chronicle

/-- The openings of a game that is to begin at a moment: none as long as the countdown goes on, and
then one, when the members of the room are told. -/
structure OpensOnce (prompt : Prop) (id : RoomId) (room : Room) (moment : Millis)
    (openings : List (Server × List Delivery)) : Prop where
  yet : room.phase = .waiting → openings = []
  once : prompt → room.phase ≠ .waiting → ∃ (opener : Server) (fragment : String) (round limit : UInt32),
    openings = [(opener, opener.registry.broadcast id (.startGame id fragment round limit))] ∧
      opener.timers.now = moment

/-- An occurrence after which the room still exists. -/
theorem OpensOnce.still {room later : Room} {id : RoomId} {moment : Millis} {before after : Prop}
    {server : Server} (once : OpensOnce before id room moment
      (openings rules id start rest))
    (runs : ((begin start).run rules rest).server = server) (implies : after → before)
    (occurrence : Occurrence × (Nat → String)) (filed : server.Filed)
    (agrees : ∀ id, (server.site id).Agrees) (present : server.store.get? id = some room)
    (stored : (server.undergo rules occurrence.2 occurrence.1).server.store.get? id = some later)
    (due : after → .start id room.epoch ∈ server.handed → server.timers.now = moment) :
    OpensOnce after id later moment
      (openings rules id start (rest ++ [occurrence])) := by
  rw [openings_concat, runs]
  dsimp only
  cases server.undergo_opening occurrence.1 filed (fun id => (agrees id).rostered) present with
  | quiet silent same =>
    rw [silent, List.isEmpty_nil, if_pos rfl, List.append_nil]
    refine ⟨fun waiting => once.yet ((same later stored).mp waiting), ?_⟩
    intro punctual begun
    exact once.once (implies punctual) (fun waiting => begun ((same later stored).mpr waiting))
  | opened fragment round limit called waiting begun told =>
    have told_some := Server.broadcast_ne_nil (agrees id) present (.startGame id fragment round limit)
    rw [told, once.yet waiting, if_neg (mt List.isEmpty_iff.mp told_some)]
    refine ⟨fun still => absurd still (begun later stored), ?_⟩
    intro punctual _
    exact ⟨server, fragment, round, limit, rfl, due punctual called⟩

/-- Every room that exists was founded once, its countdown has the deadline that it was given then,
and its game is opened at the end of the countdown. -/
theorem reached_counting (rules : Rules) (occurrences : List (Occurrence × (Nat → String)))
    {id : RoomId} {room : Room}
    (present : (reached rules occurrences).server.store.get? id = some room) :
    ∃ start rest, Since rules (Server.Hosts id room.epoch) occurrences start rest ∧
      (reached rules occurrences).server.Counting rules
        (Prompt rules occurrences) id room.epoch start.timers.now ∧
      OpensOnce (Prompt rules occurrences) id room
        (start.timers.now + min rules.config.countdown Timers.maxSpan)
        (openings rules id start rest) := by
  induction occurrences using List.reverseRecOn generalizing room with
  | nil => cases present
  | append_singleton seen occurrence ih =>
    have elapses := reached_elapses rules seen occurrence
    have ahead := reached_ahead rules seen
    have counted := run_counted rules seen
    have agrees := run_agrees rules seen
    have hosts : Server.Hosts id room.epoch
        (reached rules (seen ++ [occurrence])).server := by
      unfold Server.Hosts
      rw [present]
      rfl
    have stored := present
    rw [reached_concat] at stored
    have still : ∀ found, (reached rules seen).server.store.get? id = some found →
        room.epoch = found.epoch →
        ∃ start rest, Since rules (Server.Hosts id room.epoch) (seen ++ [occurrence]) start rest ∧
          (reached rules (seen ++ [occurrence])).server.Counting rules
            (Prompt rules (seen ++ [occurrence])) id room.epoch start.timers.now ∧
          OpensOnce (Prompt rules (seen ++ [occurrence])) id room
            (start.timers.now + min rules.config.countdown Timers.maxSpan)
            (openings rules id start rest) := by
      intro found before same
      obtain ⟨start, rest, since, counting, once⟩ := ih before
      have called := counting.due.handed
      rw [← same] at since counting
      have older := counted.founded id found before
      rw [← same] at older
      refine ⟨start, rest ++ [occurrence], since.still hosts, ?_, ?_⟩
      · refine counting.still Prompt.before elapses ahead Prompt.busy ?_ older
        rw [before]
        exact Option.some_ne_none found
      · exact once.still since.server Prompt.before occurrence (run_filed rules seen)
          agrees before stored
          (fun prompt handed => called prompt.before _ handed rfl)
    cases (reached_step rules seen occurrence).origin present with
    | same before => exact still room before rfl
    | moved found supply move before after =>
      exact still found before (after ▸ found.epoch_perform rules supply move)
    | founded founder absent new =>
      have keeps := elapses.kept_or_same.resolve_right (by
        rintro ⟨same, _⟩
        rw [same, absent] at present
        cases present)
      have epoch : room.epoch = (reached rules seen).server.store.epochs := by
        rw [new]
        rfl
      refine ⟨_, [], Since.begun ?_ hosts, ?_, fun _ => rfl, ?_⟩
      · unfold Server.Hosts
        rw [absent]
        exact fun impossible => nomatch impossible
      · rw [epoch]
        exact keeps.counting counted (agrees id) elapses ahead Prompt.busy absent
      · intro _ begun
        rw [new] at begun
        exact absurd rfl begun

/-- Every turn that is running was started once, and its timer has the deadline that it was given
then, as long as there are numbers for all turns. -/
theorem reached_timing (rules : Rules) (occurrences : List (Occurrence × (Nat → String)))
    {id : RoomId} {ticket : Ticket} (small : (reached rules occurrences).started < UInt64.size)
    (running : (reached rules occurrences).server.running? id = some ticket) :
    ∃ start rest,
      Since rules (fun server => server.running? id = some ticket) occurrences start rest ∧
        (reached rules occurrences).server.Timing
          (Prompt rules occurrences) id ticket start.timers.now := by
  induction occurrences using List.reverseRecOn with
  | nil => cases running
  | append_singleton seen occurrence ih =>
    have elapses := reached_elapses rules seen occurrence
    have ahead := reached_ahead rules seen
    have less := Nat.lt_of_le_of_lt (started_le_concat rules seen occurrence) small
    have settled : (reached rules seen).server.Settled id :=
      (run_settled rules seen less).2 id
    have renewed : (reached rules (seen ++ [occurrence])).server.Settled id :=
      (run_settled rules (seen ++ [occurrence]) small).2 id
    have counts := reached_counts rules seen occurrence small
    have still : (reached rules seen).server.running? id = some ticket →
        ∃ start rest,
          Since rules (fun server => server.running? id = some ticket)
              (seen ++ [occurrence]) start rest ∧
            (reached rules (seen ++ [occurrence])).server.Timing
              (Prompt rules (seen ++ [occurrence])) id ticket start.timers.now := by
      intro before
      obtain ⟨start, rest, since, timing⟩ := ih less before
      exact ⟨start, rest ++ [occurrence], since.still running,
        timing.still Prompt.before settled counts elapses ahead Prompt.busy before running⟩
    rcases elapses.kept_or_same with keeps | ⟨same, _⟩
    · rcases keeps.running id ticket running with before | begins
      · exact still before
      · refine ⟨_, [], Since.begun ?_ running, ?_⟩
        · intro before
          have older := settled.number_le before
          have newer := begins.newer counts
          omega
        · exact keeps.timing settled renewed counts elapses ahead Prompt.busy begins
    · refine still ?_
      unfold Server.running? at running ⊢
      rw [← same]
      exact running

end Chronicle

end WordGame
