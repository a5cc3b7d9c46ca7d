import WordGame.Proofs.Server.Deadlines

/-!
Games that keep their time. Whatever happens in between, a game is opened at the end of its countdown,
a turn that is not played in time is over when its time is, and whoever comes to a room that waits is
told how long it still has to.
-/

namespace WordGame

def Delivery.isTimer (delivery : Delivery) : Bool :=
  match delivery.item with
  | .message (.timerStarted ..) => true
  | _ => false

namespace Room

variable {rules : Rules} {supply : Supply} {room : Room} {ticket : Ticket}

/-- What is said when the time of the running turn is up. -/
theorem messages_expire (rules : Rules) (supply : Supply) (running : room.isRunning ticket = true) :
    ∃ lives round points message,
      (room.perform rules supply (.expire ticket)).outcome.messages =
          [.turnEnded room.id ticket.player .timeout lives round points, message] ∧
        (room.perform rules supply (.expire ticket)).room.GoesOn message := by
  have step := room.perform_step rules supply (.expire ticket)
  generalize room.perform rules supply (.expire ticket) = play at *
  cases step with
  | ignored stale => cases running.symm.trans stale
  | expired _ passes =>
    obtain ⟨message, told, goesOn⟩ := passes.goesOn (running_of_isRunning running)
    exact ⟨_, _, _, message, told, goesOn⟩

end Room

namespace Server

variable {rules : Rules} {fragment : Nat → String} {server : Server} {connection : Connection}
  {id : RoomId} {room : Room} {index : Nat}

/-- Whoever joins a room that exists is told what is left of its countdown, if anything is. -/
theorem timers_join {objection : Option Refusal} {admission : Admission}
    (present : server.store.get? id = some room)
    (admitted : server.join rules objection connection id = .ok admission) :
    admission.transaction.deliveries.filter Delivery.isTimer =
      remainingNews server.timers connection id := by
  obtain ⟨registration, registry, _, _, told⟩ := deliveries_join admitted
  have closing : (registration.closing connection).filter Delivery.isTimer = [] := by
    unfold Registration.closing
    split
    · rfl
    · split
      · rfl
      · rfl
  have arrival : (arrivalNews registry connection id registration).filter Delivery.isTimer = [] := by
    rw [List.filter_eq_nil_iff]
    intro delivery member
    cases registration with
    | added =>
      unfold Delivery.isTimer
      rw [Registry.item_of_mem_broadcast member]
      exact Bool.false_ne_true
    | replaced previous => cases member
  have news : countdownNews rules server registry connection id =
      remainingNews server.timers connection id := by
    unfold countdownNews
    rw [present]
  rw [told, List.filter_append, List.filter_append, closing, arrival, news, List.append_nil]
  unfold remainingNews
  dsimp only
  split
  · rfl
  · rfl

/-- When the end of its countdown is called for, the game of a room that waits begins. -/
theorem callNth_opens (rules : Rules) (fragment : Nat → String)
    (handed : server.handed[index]? = some (.start id room.epoch))
    (present : server.store.get? id = some room) (waiting : room.phase = .waiting) :
    ∃ later, (server.callNth rules fragment index).server.store.get? id = some later ∧
      later.phase ≠ .waiting := by
  have stands : (server.store.get? id).map Room.epoch = some room.epoch := by
    rw [present]
    rfl
  have moved := @makeMove_of_present
    { server with
      handed := server.handed.eraseIdx index
      timers := server.timers.clearCountdown id } id room present rules fragment .start []
  refine ⟨(room.perform rules ⟨server.turns + 1, fragment⟩ .start).room, ?_, ?_⟩
  · rw [callNth_start rules fragment handed, if_pos stands, moved]
    exact get?_played _ rules fragment id room .start
  · intro still
    cases room.perform_sequel rules ⟨server.turns + 1, fragment⟩ .start with
    | same begun => exact begun waiting
    | ended _ finished => cases finished.symm.trans still
    | turn _ _ _ running => cases (Room.running_of_runningTicket? running).symm.trans still

/-- When the end of the running turn is called for, it ends by the clock, and the game goes on to
another turn or is over. -/
theorem callNth_ends (rules : Rules) (fragment : Nat → String) {called : Ticket}
    (handed : server.handed[index]? = some (.expire id called)) (filed : server.Filed)
    (present : server.store.get? id = some room) (running : room.isRunning called = true) :
    ∃ lives round points message later,
      (server.callNth rules fragment index).deliveries =
          server.registry.broadcast id
              (.turnEnded id called.player .timeout lives round points) ++
            server.registry.broadcast id message ∧
        (server.callNth rules fragment index).server.store.get? id = some later ∧
        later.GoesOn message := by
  obtain ⟨lives, round, points, message, told, goesOn⟩ :=
    room.messages_expire rules ⟨server.turns + 1, fragment⟩ running
  have moved := @makeMove_of_present
    { server with
      handed := server.handed.eraseIdx index
      timers := server.timers.clearTurn id called.number } id room present rules fragment
    (.expire called) []
  rw [filed id room present] at told
  rw [callNth_expire rules fragment handed, moved]
  refine ⟨lives, round, points, message, _, ?_, get?_played _ rules fragment id room _, goesOn⟩
  dsimp only
  rw [told]
  simp only [List.nil_append, List.flatMap_cons, List.flatMap_nil, List.append_nil]

/-- The whole seconds that are left of a countdown fit in the message that tells of them. -/
theorem Counting.remaining {prompt : Prop} {founded : Millis} {armed : Armed}
    (counting : server.Counting rules prompt id room.epoch founded)
    (recorded : (server.timers.entry id).countdown = some armed) :
    server.timers.remaining id =
        (founded + rules.config.countdown - server.timers.now) / 1000 ∧
      server.timers.remaining id < UInt64.size := by
  have deadline := counting.recorded armed recorded
  have remaining : server.timers.remaining id =
      (founded + rules.config.countdown - server.timers.now) / 1000 := by
    unfold Timers.remaining
    rw [recorded]
    dsimp only
    rw [deadline]
  have left (founded now seconds : Nat) (since : founded ≤ now) :
      (founded + seconds * 1000 - now) / 1000 ≤ seconds := by omega
  refine ⟨remaining, ?_⟩
  rw [remaining]
  exact Nat.lt_of_le_of_lt (left _ _ _ counting.since) rules.config.countdownSecs.toNat_lt

end Server

namespace Chronicle

/-- Whatever happens, deadlines stand. The countdown of a room has the deadline that it was given when
the room was founded, whoever joins it is told the whole seconds that are left, and its game is
opened once. The running turn has the deadline that it was given when it started, and if it still runs
when the end of its time is called for, it ends by the clock. Games are opened and turns end at these
deadlines, as long as nobody lets time go by before what was handed over is done; only where a
deadline is more than thirty years off, they do so after thirty years. -/
theorem deadlines_stand (rules : Rules) (occurrences : List (Occurrence × (Nat → String)))
    (id : RoomId) (room : Room)
    (present : (reached rules occurrences).server.store.get? id = some room) :
    let chronicle := reached rules occurrences
    let server := chronicle.server
    let prompt := Prompt rules occurrences
    (∃ start rest, Since rules (Server.Hosts id room.epoch) occurrences start rest ∧
      let deadline := start.timers.now + rules.config.countdown
      let opening := start.timers.now + min rules.config.countdown Timers.maxSpan
      OpensOnce prompt id room opening (openings rules id start rest) ∧
      (room.phase = .waiting →
        (∃ armed, (server.timers.entry id).countdown = some armed ∧ armed.deadline = deadline) ∧
        ∀ connection objection admission,
          server.join rules objection connection id = .ok admission →
            ∃ seconds : UInt64, seconds.toNat = (deadline - server.timers.now) / 1000 ∧
              admission.transaction.deliveries.filter Delivery.isTimer =
                if 1 ≤ seconds.toNat then
                  [⟨connection.id, .message (.timerStarted id seconds)⟩]
                else []) ∧
      ∀ index fragment, server.handed[index]? = some (.start id room.epoch) →
        (prompt → server.timers.now = opening) ∧ room.phase = .waiting ∧
          ∃ later, (server.callNth rules fragment index).server.store.get? id = some later ∧
            later.phase ≠ .waiting) ∧
    (chronicle.started < UInt64.size → room.phase = .inProgress →
      ∃ ticket start rest, room.runningTicket? = some ticket ∧
        Since rules (fun server => server.running? id = some ticket) occurrences start rest ∧
        (∃ timer, (server.timers.entry id).turn = some timer ∧ timer.number = ticket.number ∧
          timer.armed.deadline = start.timers.now + ticket.duration) ∧
        ∀ index fragment called, server.handed[index]? = some (.expire id called) →
          room.isRunning called = true →
            (prompt →
              server.timers.now = start.timers.now + min ticket.duration Timers.maxSpan) ∧
            ∃ lives round points message later,
              (server.callNth rules fragment index).deliveries =
                  server.registry.broadcast id
                      (.turnEnded id ticket.player .timeout lives round points) ++
                    server.registry.broadcast id message ∧
                (server.callNth rules fragment index).server.store.get? id = some later ∧
                later.GoesOn message) := by
  intro chronicle server prompt
  have filed : server.Filed := run_filed rules occurrences
  have agrees : (server.site id).Agrees := run_agrees rules occurrences id
  have counted : server.Counted := run_counted rules occurrences
  constructor
  · obtain ⟨start, rest, since, counting, once⟩ :=
      reached_counting rules occurrences present
    refine ⟨start, rest, since, once, ?_, ?_⟩
    · intro waiting
      have timed := agrees.timed_of_present present
      rw [waiting] at timed
      obtain ⟨armed, recorded⟩ := Option.isSome_iff_exists.mp timed.1
      refine ⟨⟨armed, recorded, counting.recorded armed recorded⟩, ?_⟩
      intro connection objection admission admitted
      obtain ⟨remaining, small⟩ := counting.remaining recorded
      have exact : (UInt64.ofNat (server.timers.remaining id)).toNat = server.timers.remaining id :=
        UInt64.toNat_ofNat_of_lt small
      refine ⟨UInt64.ofNat (server.timers.remaining id), exact.trans remaining, ?_⟩
      rw [Server.timers_join present admitted, exact]
      rfl
    · intro index fragment handed
      have called : Callback.start id room.epoch ∈ server.handed := List.mem_of_getElem? handed
      have waiting := counted.waiting_of_called present (Server.mem_callbacks_of_handed handed)
      exact ⟨fun punctual => counting.due.handed punctual _ called rfl, waiting,
        Server.callNth_opens rules fragment handed present waiting⟩
  · intro small inProgress
    have settled : server.Settled id := (run_settled rules occurrences small).2 id
    have held := (run_populated rules occurrences id).held room present
    obtain ⟨_, player, current, _⟩ := held inProgress
    obtain ⟨ticket, runs⟩ : ∃ ticket, room.runningTicket? = some ticket :=
      ⟨_, Option.map_eq_some_iff.mpr ⟨player, current, rfl⟩⟩
    have running : server.running? id = some ticket :=
      Option.bind_eq_some_iff.mpr ⟨room, present, runs⟩
    obtain ⟨start, rest, since, timing⟩ :=
      reached_timing rules occurrences small running
    obtain ⟨timer, recorded, number⟩ := settled.timer running
    refine ⟨ticket, start, rest, runs, since,
      ⟨timer, recorded, number, timing.recorded timer recorded⟩, ?_⟩
    intro index fragment called handed isRunning
    cases runs.symm.trans ((room.isRunning_iff_runningTicket? called).mp isRunning)
    have member : Callback.expire id called ∈ server.handed := List.mem_of_getElem? handed
    have ends := Server.callNth_ends rules fragment handed filed present isRunning
    exact ⟨fun punctual => timing.due.handed punctual _ member ⟨called, rfl, rfl⟩, ends⟩

/-- Two players. The second one joins while the countdown goes on; in the first turn a wrong answer
is given, a third player joins and leaves, and then the time of the turn is up. -/
theorem deadlines_stand_in_a_game :
    let rules : Rules := ⟨{}, ⟨fun _ => false, fun _ _ => false⟩⟩
    let one : Connection := ⟨1, ⟨10, "one", false⟩⟩
    let two : Connection := ⟨2, ⟨20, "two", false⟩⟩
    let three : Connection := ⟨3, ⟨30, "three", false⟩⟩
    let moves : List Occurrence :=
      [.wait 500, .join one 7 none, .wait 60000, .join two 7 none, .wait 120500, .ring, .call 0,
        .wait 130000, .answer 7 10 "other", .join three 7 none, .leave three 7, .wait 139500, .ring]
    let occurrences := moves.map fun move => (move, fun _ => "the")
    let server := (reached rules occurrences).server
    let ticket : Ticket := ⟨0, 1, 0, 10, 19⟩
    server.handed[0]? = some (.expire 7 ticket) ∧ server.timers.now = 139500 ∧
      ∃ room, server.store.get? 7 = some room ∧ room.runningTicket? = some ticket ∧
      (∃ start rest opener told,
        Since rules (Server.Hosts 7 room.epoch) occurrences start rest ∧
          openings rules 7 start rest = [(opener, told)] ∧
          opener.timers.now = start.timers.now + 120000) ∧
      ∃ start rest,
        Since rules (fun server => server.running? 7 = some ticket) occurrences start rest ∧
          server.timers.now = start.timers.now + 19000 := by
  intro rules one two three moves occurrences
  have handed : (reached rules occurrences).server.handed[0]? =
      some (.expire 7 ⟨0, 1, 0, 10, 19⟩) := by decide +kernel
  have running : (reached rules occurrences).server.running? 7 =
      some ⟨0, 1, 0, 10, 19⟩ := by decide +kernel
  have small : (reached rules occurrences).started < UInt64.size := by decide +kernel
  have prompt : Prompt rules occurrences := Prompt.of_places (by decide +kernel)
  have countdown : min rules.config.countdown Timers.maxSpan = 120000 := by decide
  have limit : min (Ticket.duration ⟨0, 1, 0, 10, 19⟩) Timers.maxSpan = 19000 := by decide
  obtain ⟨room, present, runs⟩ := Option.bind_eq_some_iff.mp running
  have inProgress := Room.running_of_runningTicket? runs
  have begun : room.phase ≠ .waiting := by
    rw [inProgress]
    decide
  have isRunning := ((room.runningTicket?_eq_some_iff _).mp runs).1
  have stand := deadlines_stand rules occurrences 7 room present
  obtain ⟨start, rest, since, once, _⟩ := And.left stand
  obtain ⟨opener, fragment, round, _, opened, moment⟩ := once.once prompt begun
  obtain ⟨other, started, later, again, sinceThen, _, ends⟩ := And.right stand small inProgress
  cases runs.symm.trans again
  have due := (ends 0 (fun _ => "the") _ handed isRunning).1 prompt
  rw [countdown] at moment
  rw [limit] at due
  exact ⟨handed, by decide +kernel, room, present, runs,
    ⟨start, rest, opener, _, since, opened, moment⟩, started, later, sinceThen, due⟩

/-- A countdown of a thousand million seconds ends after thirty years, before its deadline: the game
of the room is opened then. -/
theorem long_countdown_ends_early :
    let rules : Rules := ⟨{ countdownSecs := 1000000000 }, ⟨fun _ => false, fun _ _ => false⟩⟩
    let one : Connection := ⟨1, ⟨10, "one", false⟩⟩
    let moves : List Occurrence := [.join one 7 none, .wait 2000000000000, .ring]
    let occurrences := moves.map fun move => (move, fun _ => "the")
    let server := (reached rules occurrences).server
    (server.store.get? 7).map Room.phase = some .waiting ∧
      (server.timers.entry 7).countdown.map Armed.deadline = some 1000000000000 ∧
      server.timers.now = 946080000000 ∧ server.handed = [.start 7 0] ∧
      (server.callNth rules (fun _ => "the") 0).deliveries.filter (Delivery.opens 7) =
        [⟨1, .message (.startGame 7 "the" 1 19)⟩] := by
  refine ⟨?_, ?_, ?_, ?_, ?_⟩
  · decide +kernel
  · decide +kernel
  · decide +kernel
  · decide +kernel
  · decide +kernel

end Chronicle

end WordGame
