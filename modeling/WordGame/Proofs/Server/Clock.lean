import WordGame.Proofs.Game.TurnHeld
import WordGame.Proofs.Server.Moves
import WordGame.Proofs.Server.Numbering
import WordGame.Proofs.Server.Pending

/-!
Where the deadlines of a server come from. Nothing but waiting moves the clock, and whatever else
happens keeps the deadlines that there are, unless it sets the timer of a room or of a turn that was
not there before.
-/

namespace WordGame

/-- The timer of a turn that shows after the outcome of a move was there before, or was set by it. -/
theorem Outcome.turn_follow {outcome : Outcome} {room id : RoomId} {timers : Timers Callback}
    {timer : TurnTimer} (recorded : ((outcome.follow room timers).entry id).turn = some timer) :
    (timers.entry id).turn = some timer ∨
      ∃ ticket, outcome.turn = some ticket ∧ id = room ∧
        timer = ⟨ticket.number, timers.count, timers.now + ticket.duration⟩ := by
  unfold follow at recorded
  split at recorded
  · rw [Timers.entry_stopTurn] at recorded
    split at recorded
    · cases recorded
    · exact .inl recorded
  · cases issued : outcome.turn with
    | none =>
      rw [issued] at recorded
      exact .inl recorded
    | some ticket =>
      rw [issued] at recorded
      dsimp only at recorded
      rw [Timers.entry_scheduleTurn] at recorded
      split at recorded
      · rename_i here
        cases recorded
        exact .inr ⟨ticket, rfl, here.1, rfl⟩
      · exact .inl recorded

theorem Outcome.countdown_follow (outcome : Outcome) (room id : RoomId)
    (timers : Timers Callback) :
    ((outcome.follow room timers).entry id).countdown = (timers.entry id).countdown := by
  by_cases here : id = room
  · obtain ⟨armed, followed⟩ := outcome.entry_follow room timers
    rw [here, followed, countdown_followed]
  · rw [outcome.entry_follow_of_ne timers here]

namespace Server

def running? (server : Server) (id : RoomId) : Option Ticket :=
  (server.store.get? id).bind Room.runningTicket?

/-- A step starts the turn of a ticket in a room: the turn gets the next number. -/
structure Begins (server later : Server) (room : RoomId) (ticket : Ticket) : Prop where
  running : later.running? room = some ticket
  number : ticket.number = server.turns + 1
  latest : later.turns = ticket.number

/-- The alarms that a step sets: for the countdown of a room that is founded, and for a turn that is
started. -/
inductive Sets (rules : Rules) (server later : Server) : Alarm Callback → Prop
  | countdown (room : RoomId) (absent : server.store.get? room = none) :
      Sets rules server later
        (server.timers.alarm rules.config.countdown (.start room server.store.epochs))
  | turn (room : RoomId) (ticket : Ticket) (begins : server.Begins later room ticket) :
      Sets rules server later (server.timers.alarm ticket.duration (.expire room ticket))

/-- A step in which no time goes by. What is recorded, pends or was handed over was so before, unless
a room is founded or a turn is started. -/
structure Keeps (rules : Rules) (server later : Server) : Prop where
  now : later.timers.now = server.timers.now
  pending : ∀ alarm ∈ later.timers.pending,
    alarm ∈ server.timers.pending ∨ server.Sets rules later alarm
  handed : ∀ callback ∈ later.handed, callback ∈ server.handed
  countdown : ∀ id armed, (later.timers.entry id).countdown = some armed →
    (server.timers.entry id).countdown = some armed ∨
      server.store.get? id = none ∧
        armed.deadline = server.timers.now + rules.config.countdown
  turn : ∀ id timer, (later.timers.entry id).turn = some timer →
    (server.timers.entry id).turn = some timer ∨
      ∃ ticket, server.Begins later id ticket ∧ timer.number = ticket.number ∧
        timer.armed.deadline = server.timers.now + ticket.duration
  running : ∀ id ticket, later.running? id = some ticket →
    server.running? id = some ticket ∨ server.Begins later id ticket

/-- Some of what was recorded, pends or was handed over is given up, and nothing else changes. -/
structure Sheds (server lesser : Server) : Prop where
  store : lesser.store = server.store
  turns : lesser.turns = server.turns
  now : lesser.timers.now = server.timers.now
  count : lesser.timers.count = server.timers.count
  pending : lesser.timers.pending = server.timers.pending
  handed : ∀ callback ∈ lesser.handed, callback ∈ server.handed
  countdown : ∀ id armed, (lesser.timers.entry id).countdown = some armed →
    (server.timers.entry id).countdown = some armed
  turn : ∀ id timer, (lesser.timers.entry id).turn = some timer →
    (server.timers.entry id).turn = some timer

variable {rules : Rules} {fragment : Nat → String} {server lesser later : Server}

theorem Sheds.alarm (sheds : server.Sheds lesser) (span : Millis) (call : Callback) :
    lesser.timers.alarm span call = server.timers.alarm span call := by
  unfold Timers.alarm
  rw [sheds.now, sheds.count]

theorem Sheds.running? (sheds : server.Sheds lesser) (id : RoomId) :
    lesser.running? id = server.running? id := by
  unfold Server.running?
  rw [sheds.store]

theorem Sheds.begins (sheds : server.Sheds lesser) {room : RoomId} {ticket : Ticket}
    (begins : lesser.Begins later room ticket) : server.Begins later room ticket where
  running := begins.running
  number := sheds.turns ▸ begins.number
  latest := begins.latest

theorem Sheds.keeps (sheds : server.Sheds lesser) (keeps : lesser.Keeps rules later) :
    server.Keeps rules later := by
  constructor
  · exact keeps.now.trans sheds.now
  · intro alarm pending
    rcases keeps.pending alarm pending with before | new
    · rw [sheds.pending] at before
      exact .inl before
    · refine .inr ?_
      cases new with
      | countdown room absent =>
        rw [sheds.alarm, sheds.store]
        rw [sheds.store] at absent
        exact .countdown room absent
      | turn room ticket begins =>
        rw [sheds.alarm]
        exact .turn room ticket (sheds.begins begins)
  · exact fun callback handed => sheds.handed callback (keeps.handed callback handed)
  · intro id armed recorded
    rcases keeps.countdown id armed recorded with before | new
    · exact .inl (sheds.countdown id armed before)
    · rw [sheds.store, sheds.now] at new
      exact .inr new
  · intro id timer recorded
    rcases keeps.turn id timer recorded with before | ⟨ticket, begins, number, deadline⟩
    · exact .inl (sheds.turn id timer before)
    · rw [sheds.now] at deadline
      exact .inr ⟨ticket, sheds.begins begins, number, deadline⟩
  · intro id ticket running
    rcases keeps.running id ticket running with before | begins
    · rw [sheds.running?] at before
      exact .inl before
    · exact .inr (sheds.begins begins)

theorem Keeps.refl (rules : Rules) (server : Server) : server.Keeps rules server where
  now := rfl
  pending _ pending := .inl pending
  handed _ handed := handed
  countdown _ _ recorded := .inl recorded
  turn _ _ recorded := .inl recorded
  running _ _ running := .inl running

theorem running?_played_of_ne (server : Server) (rules : Rules) (fragment : Nat → String)
    {room id : RoomId} (found : Room) (move : Move) (other : id ≠ room) :
    (server.played rules fragment room found move).running? id = server.running? id := by
  unfold Server.running?
  rw [server.get?_played_of_ne rules fragment found move other]

theorem running?_played (server : Server) (rules : Rules) (fragment : Nat → String)
    (room : RoomId) (found : Room) (move : Move) :
    (server.played rules fragment room found move).running? room =
      (found.perform rules ⟨server.turns + 1, fragment⟩ move).room.runningTicket? := by
  unfold Server.running?
  rw [get?_played]
  rfl

/-- A turn that is started by a move runs after it. -/
theorem running_of_issued {found : Room} {supply : Supply} {move : Move} {ticket : Ticket}
    (issued : (found.perform rules supply move).outcome.turn = some ticket) :
    (found.perform rules supply move).room.runningTicket? = some ticket ∧
      ticket.number = supply.turnNumber := by
  cases found.perform_sequel rules supply move with
  | same _ _ _ _ ticketless | ended _ _ ticketless => cases ticketless.symm.trans issued
  | turn other _ _ running again number =>
    cases again.symm.trans issued
    exact ⟨running, number⟩

/-- A turn that runs after a move ran before it, or is started by it. -/
theorem running_before {found : Room} {supply : Supply} {move : Move} {ticket : Ticket}
    (held : found.TurnHeld)
    (running : (found.perform rules supply move).room.runningTicket? = some ticket) :
    found.runningTicket? = some ticket ∨
      (found.perform rules supply move).outcome.turn = some ticket := by
  cases found.perform_sequel rules supply move with
  | same _ phase _ goesOn =>
    have inProgress := Room.running_of_runningTicket? running
    rw [phase] at inProgress
    obtain ⟨_, player, current, _⟩ := held inProgress
    obtain ⟨other, before⟩ : ∃ other, found.runningTicket? = some other :=
      ⟨_, Option.map_eq_some_iff.mpr ⟨player, current, rfl⟩⟩
    cases (goesOn other before).symm.trans running
    exact .inl before
  | ended _ finished =>
    have inProgress := Room.running_of_runningTicket? running
    cases finished.symm.trans inProgress
  | turn other _ _ again issued =>
    cases again.symm.trans running
    exact .inr issued

theorem played_begins (server : Server) (rules : Rules) (fragment : Nat → String) (room : RoomId)
    (found : Room) (move : Move) {ticket : Ticket}
    (issued : (found.perform rules ⟨server.turns + 1, fragment⟩ move).outcome.turn = some ticket) :
    server.Begins (server.played rules fragment room found move) room ticket := by
  obtain ⟨running, number⟩ := running_of_issued issued
  refine ⟨?_, number, Outcome.turnsAfter_of_issued server.turns issued⟩
  rw [running?_played]
  exact running

theorem played_keeps (rules : Rules) (fragment : Nat → String) {room : RoomId} {found : Room}
    (move : Move) (present : server.store.get? room = some found) (held : found.TurnHeld) :
    server.Keeps rules (server.played rules fragment room found move) := by
  constructor
  · exact Outcome.now_follow _ room server.timers
  · intro alarm pending
    rcases Outcome.mem_pending_follow pending with before | ⟨ticket, issued, new⟩
    · exact .inl before
    · rw [new]
      exact .inr (.turn room ticket (server.played_begins rules fragment room found move issued))
  · exact fun _ handed => handed
  · intro id armed recorded
    change (((_ : Outcome).follow room server.timers).entry id).countdown = _ at recorded
    rw [Outcome.countdown_follow] at recorded
    exact .inl recorded
  · intro id timer recorded
    rcases Outcome.turn_follow recorded with before | ⟨ticket, issued, here, new⟩
    · exact .inl before
    · rw [here, new]
      exact .inr ⟨ticket, server.played_begins rules fragment room found move issued, rfl, rfl⟩
  · intro id ticket running
    by_cases here : id = room
    · subst here
      rw [running?_played] at running
      rcases running_before held running with before | issued
      · refine .inl ?_
        unfold Server.running?
        rw [present]
        exact before
      · exact .inr (server.played_begins rules fragment id found move issued)
    · rw [server.running?_played_of_ne rules fragment found move here] at running
      exact .inl running

theorem makeMove_keeps (rules : Rules) (fragment : Nat → String) {room : RoomId} (move : Move)
    (news : List Delivery) (held : ∀ found, server.store.get? room = some found → found.TurnHeld) :
    server.Keeps rules (server.makeMove rules fragment room move news).server := by
  cases present : server.store.get? room with
  | none =>
    rw [makeMove_of_absent present]
    exact .refl rules server
  | some found =>
    rw [makeMove_of_present present]
    exact played_keeps rules fragment move present (held found present)

theorem removed_keeps (rules : Rules) (server : Server) (room : RoomId) (registry : Registry) :
    server.Keeps rules
      { server with
        registry := registry
        store := server.store.remove room
        timers := server.timers.cancelRoom room } := by
  have cancelled := server.timers.entry_cancelRoom room
  constructor
  · exact server.timers.now_cancelRoom room
  · intro alarm pending
    dsimp only at pending
    rw [Timers.pending_cancelRoom] at pending
    exact .inl (List.mem_filter.mp pending).1
  · exact fun _ handed => handed
  · intro id armed recorded
    dsimp only at recorded
    rw [cancelled] at recorded
    split at recorded
    · cases recorded
    · exact .inl recorded
  · intro id timer recorded
    dsimp only at recorded
    rw [cancelled] at recorded
    split at recorded
    · cases recorded
    · exact .inl recorded
  · intro id ticket running
    unfold Server.running? at running
    dsimp only at running
    rw [RoomStore.get?_remove] at running
    split at running
    · cases running
    · exact .inl running

theorem welcome_keeps (rules : Rules) (server : Server) (connection : Connection) (room : RoomId)
    (registration : Registration) (registry : Registry)
    (held : ∀ found, server.store.get? room = some found → found.TurnHeld) :
    server.Keeps rules
      (server.welcome rules connection room registration registry).server := by
  unfold welcome
  cases listed : server.store.get? room with
  | none =>
    have started := server.timers.entry_startCountdown room
    dsimp only
    constructor
    · exact server.timers.now_startCountdown room _ _
    · intro alarm pending
      dsimp only at pending
      rw [Timers.pending_startCountdown] at pending
      rcases List.mem_append.mp (List.mem_filter.mp pending).1 with before | new
      · exact .inl before
      · rw [List.mem_singleton.mp new]
        exact .inr (.countdown room listed)
    · exact fun _ handed => handed
    · intro id armed recorded
      dsimp only at recorded
      rw [started] at recorded
      split at recorded
      · rename_i here
        cases recorded
        rw [here]
        exact .inr ⟨listed, rfl⟩
      · exact .inl recorded
    · intro id timer recorded
      dsimp only at recorded
      rw [started] at recorded
      split at recorded
      · rename_i here
        rw [here]
        exact .inl recorded
      · exact .inl recorded
    · intro id ticket running
      unfold Server.running? at running
      dsimp only at running
      rw [RoomStore.get?_create] at running
      split at running
      · cases running
      · exact .inl running
  | some found =>
    dsimp only
    have sheds : server.Sheds { server with registry := registry } :=
      ⟨rfl, rfl, rfl, rfl, rfl, fun _ handed => handed, fun _ _ recorded => recorded,
        fun _ _ recorded => recorded⟩
    exact sheds.keeps (played_keeps rules (fun _ => "")
      (.add connection.identity.id rules.config.initialLives) listed (held found listed))

/-- The steps of a server as far as the clock is concerned. -/
inductive Elapses (rules : Rules) (server : Server) : Occurrence → Server → Prop
  | kept {occurrence : Occurrence} {later : Server} (keeps : server.Keeps rules later) :
      Elapses rules server occurrence later
  | waited (moment : Millis) : Elapses rules server (.wait moment) (server.wait moment)
  | rang (alarm : Alarm Callback) (pending : alarm ∈ server.timers.pending)
      (due : alarm.deadline ≤ server.timers.now) :
      Elapses rules server .ring (server.ring alarm)

theorem sheds_eraseIdx (server : Server) (index : Nat) (timers : Timers Callback)
    (now : timers.now = server.timers.now) (count : timers.count = server.timers.count)
    (pending : timers.pending = server.timers.pending)
    (countdown : ∀ id armed, (timers.entry id).countdown = some armed →
      (server.timers.entry id).countdown = some armed)
    (turn : ∀ id timer, (timers.entry id).turn = some timer →
      (server.timers.entry id).turn = some timer) :
    server.Sheds { server with handed := server.handed.eraseIdx index, timers := timers } :=
  ⟨rfl, rfl, now, count, pending, fun _ handed => List.mem_of_mem_eraseIdx handed, countdown, turn⟩

theorem callNth_keeps (rules : Rules) (fragment : Nat → String) (server : Server) (index : Nat)
    (held : ∀ id found, server.store.get? id = some found → found.TurnHeld) :
    server.Keeps rules (server.callNth rules fragment index).server := by
  cases handed : server.handed[index]? with
  | none =>
    unfold callNth
    rw [handed]
    exact .refl rules server
  | some callback =>
    cases callback with
    | start room epoch =>
      rw [callNth_start rules fragment handed]
      split
      · have sheds := server.sheds_eraseIdx index (server.timers.clearCountdown room) rfl rfl rfl
          (by
            intro id armed recorded
            rw [Timers.entry_clearCountdown] at recorded
            split at recorded
            · cases recorded
            · exact recorded)
          (by
            intro id timer recorded
            rw [Timers.entry_clearCountdown] at recorded
            split at recorded
            · rename_i here
              rw [here]
              exact recorded
            · exact recorded)
        exact sheds.keeps (makeMove_keeps rules fragment .start [] (held room))
      · have sheds := server.sheds_eraseIdx index server.timers rfl rfl rfl
          (fun _ _ recorded => recorded) (fun _ _ recorded => recorded)
        exact sheds.keeps (.refl rules _)
    | expire room ticket =>
      rw [callNth_expire rules fragment handed]
      have cleared := server.timers.entry_clearTurn room
      have sheds := server.sheds_eraseIdx index (server.timers.clearTurn room ticket.number)
        (server.timers.now_clearTurn room _) (server.timers.count_clearTurn room _)
        (server.timers.pending_clearTurn room _)
        (by
          intro id armed recorded
          rw [cleared] at recorded
          split at recorded
          · rename_i here
            rw [here]
            unfold RoomTimers.cleared at recorded
            split at recorded
            · exact recorded
            · exact recorded
          · exact recorded)
        (by
          intro id timer recorded
          rw [cleared] at recorded
          split at recorded
          · rename_i here
            rw [here]
            exact turn_of_cleared recorded
          · exact recorded)
      exact sheds.keeps (makeMove_keeps rules fragment (.expire ticket) [] (held room))

theorem undergo_elapses (rules : Rules) (fragment : Nat → String) (server : Server)
    (occurrence : Occurrence)
    (held : ∀ id found, server.store.get? id = some found → found.TurnHeld) :
    server.Elapses rules occurrence (server.undergo rules fragment occurrence).server := by
  cases occurrence with
  | join connection room objection =>
    rw [undergo_join]
    split
    · exact .kept (welcome_keeps rules server connection room _ _ (held room))
    · exact .kept (.refl rules server)
  | leave connection room =>
    dsimp only [undergo]
    rw [leave_eq]
    cases server.registry.unregister room connection.identity.id connection.id with
    | none => exact .kept (.refl rules server)
    | some pair =>
      obtain ⟨left, registry⟩ := pair
      dsimp only [Option.map_some, Option.getD_some]
      split
      · exact .kept (removed_keeps rules server room registry)
      · have sheds : server.Sheds { server with registry := registry } :=
          ⟨rfl, rfl, rfl, rfl, rfl, fun _ handed => handed, fun _ _ recorded => recorded,
            fun _ _ recorded => recorded⟩
        exact .kept (sheds.keeps (makeMove_keeps rules fragment _ _ (held room)))
  | answer room player text =>
    dsimp only [undergo]
    rw [answer_eq]
    exact .kept (makeMove_keeps rules fragment _ _ (held room))
  | relay => exact .kept (.refl rules server)
  | wait moment => exact .waited moment
  | ring =>
    dsimp only [undergo, Transaction.begin]
    unfold ringDue
    cases next : server.timers.next? with
    | none => exact .kept (.refl rules server)
    | some alarm =>
      dsimp only
      split
      · rename_i due
        exact .rang alarm (Timers.mem_pending_of_next? next) due
      · exact .kept (.refl rules server)
  | call index => exact .kept (callNth_keeps rules fragment server index held)

end Server

end WordGame
