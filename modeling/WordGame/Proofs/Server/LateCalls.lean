import WordGame.Proofs.Server.Agreement
import WordGame.Proofs.Server.Countdowns

/-!
Timers that rang too late. What they called for is still done, whatever became of the timers, but it
does nothing: neither to a later turn, nor to a room that was founded anew. And the end of its own
countdown always finds a room waiting.
-/

namespace WordGame

/-- A transaction after which everything in a server is as it was, but for what is left to do. -/
structure Transaction.LeavesAlone (transaction : Transaction) (server : Server) : Prop where
  store : transaction.server.store = server.store
  registry : transaction.server.registry = server.registry
  timers : transaction.server.timers = server.timers
  turns : transaction.server.turns = server.turns
  queues : ∀ queues : Queues, queues.deliverAll transaction.deliveries = queues

theorem RoomStore.put_of_present {store : RoomStore} {id : RoomId} {room : Room}
    (present : store.get? id = some room) : store.put id room = store := by
  have same : store.rooms.insert id room = store.rooms := by
    apply Table.ext_get?
    intro query
    rw [Table.get?_insert]
    split
    · rename_i here
      rw [here]
      exact present.symm
    · rfl
  unfold put
  rw [same]

namespace Server

variable {rules : Rules} {fragment : Nat → String} {server : Server} {room : RoomId}
  {ticket : Ticket}

/-- The record of a room is not that of a turn that is over. -/
theorem unrecorded_of_stale (agrees : (server.site room).Agrees) (settled : server.Settled room)
    (called : server.Calls room ticket)
    (stale : ∀ found, server.store.get? room = some found → found.isRunning ticket = false) :
    (server.timers.entry room).turn.map TurnTimer.number ≠ some ticket.number := by
  intro recorded
  cases present : server.store.get? room with
  | none =>
    have nothing : server.timers.entry room = .none := agrees.timers_of_absent present
    rw [nothing] at recorded
    cases recorded
  | some found =>
    have timed : (server.timers.entry room).Fits (some found.phase) :=
      agrees.timed_of_present present
    cases phase : found.phase with
    | waiting =>
      rw [phase] at timed
      rw [timed.2] at recorded
      cases recorded
    | inProgress =>
      have watched := settled.watched found present phase
      have number := Option.some.inj (watched.symm.trans recorded)
      have genuine := settled.numbered.genuine ticket found called present phase number
      rw [stale found present] at genuine
      cases genuine
    | finished =>
      rw [phase] at timed
      rw [show server.timers.entry room = .none from timed] at recorded
      cases recorded

theorem endTurn_of_stale
    (unrecorded : (server.timers.entry room).turn.map TurnTimer.number ≠ some ticket.number)
    (stale : ∀ found, server.store.get? room = some found → found.isRunning ticket = false) :
    server.endTurn rules fragment room ticket = .begin server := by
  have kept : server.timers.clearTurn room ticket.number = server.timers := if_neg unrecorded
  unfold endTurn
  rw [kept]
  cases present : server.store.get? room with
  | none =>
    dsimp only
    rw [server.move_of_absent _ present]
  | some found =>
    have still : found.perform rules ⟨server.turns + 1, fragment⟩ (.expire ticket) =
        Play.begin found := Room.expire_of_stale (stale found present)
    dsimp only
    rw [server.move_of_present _ present, still]
    change Transaction.begin { server with store := server.store.put room found } = _
    rw [RoomStore.put_of_present present]

theorem startGame_of_other {epoch : Epoch}
    (other : ∀ found, server.store.get? room = some found → found.epoch ≠ epoch) :
    server.startGame rules fragment room epoch = .begin server := by
  unfold startGame
  rw [if_neg]
  intro same
  obtain ⟨found, present, stands⟩ := Option.map_eq_some_iff.mp same
  exact other found present stands

/-- What was handed over does nothing if it does nothing to a server that it has been taken from. -/
theorem callNth_leavesAlone {index : Nat} {callback : Callback}
    (handed : server.handed[index]? = some callback)
    (idle : let left := { server with handed := server.handed.eraseIdx index }
      left.call rules fragment callback = .begin left) :
    (server.callNth rules fragment index).LeavesAlone server := by
  unfold callNth
  rw [handed]
  dsimp only
  rw [idle]
  exact ⟨rfl, rfl, rfl, rfl, fun _ => rfl⟩

end Server

namespace Chronicle

/-- Whatever has happened to a server, and in whatever order the calls of its timers are answered:
the end of a turn that is not running leaves everything alone, and so does the end of the countdown
of a room that has gone or was founded anew. The end of its own countdown finds a room waiting. Only
when the counter of turns has come round, after `2 ^ 64` turns, may the end of an old turn be taken
for that of a new one. -/
theorem late_calls_do_nothing (rules : Rules) (occurrences : List (Occurrence × (Nat → String)))
    (fragment : Nat → String) (index : Nat) (room : RoomId) :
    let chronicle := (begin (.initial rules.config)).run rules occurrences
    let server := chronicle.server
    (∀ ticket, server.handed[index]? = some (.expire room ticket) →
        (∀ found, server.store.get? room = some found → found.isRunning ticket = false) →
        chronicle.started < UInt64.size →
          (server.callNth rules fragment index).LeavesAlone server) ∧
      (∀ epoch, server.handed[index]? = some (.start room epoch) →
        (∀ found, server.store.get? room = some found → found.epoch ≠ epoch) →
          (server.callNth rules fragment index).LeavesAlone server) ∧
      ∀ found, server.handed[index]? = some (.start room found.epoch) →
        server.store.get? room = some found → found.phase = .waiting := by
  intro chronicle server
  refine ⟨?_, ?_, ?_⟩
  · intro ticket handed stale small
    have agrees : (server.site room).Agrees := run_agrees rules occurrences room
    have settled : server.Settled room :=
      (run_settled rules occurrences small).2 room
    have called : server.Calls room ticket := Server.mem_callbacks_of_handed handed
    have unrecorded := Server.unrecorded_of_stale agrees settled called stale
    exact Server.callNth_leavesAlone handed (Server.endTurn_of_stale unrecorded stale)
  · intro epoch handed other
    exact Server.callNth_leavesAlone handed (Server.startGame_of_other other)
  · intro found handed present
    have counted : server.Counted := run_counted rules occurrences
    exact counted.waiting_of_called present (Server.mem_callbacks_of_handed handed)

/-- Two rooms. In the first one the timer of the first turn has rung, but the turn was answered. The
second one was given up when its countdown was over, and founded anew. -/
theorem late_calls_do_nothing_in_two_rooms :
    let rules : Rules := ⟨{}, ⟨fun _ => true, fun _ _ => true⟩⟩
    let one : Connection := ⟨1, ⟨10, "one", false⟩⟩
    let two : Connection := ⟨2, ⟨20, "two", false⟩⟩
    let three : Connection := ⟨3, ⟨30, "three", false⟩⟩
    let pass : List Occurrence := [.wait 1000000, .ring]
    let moves : List Occurrence :=
      [.join one 7 none, .join two 7 none] ++ pass ++ [.call 0] ++ pass ++
        [.answer 7 10 "other", .join three 8 none] ++ pass ++ pass ++
        [.leave three 8, .join three 8 none] ++ pass
    let occurrences := moves.map fun move => (move, fun _ => "the")
    let chronicle := (begin (.initial rules.config)).run rules occurrences
    let server := chronicle.server
    chronicle.started < UInt64.size ∧
      server.handed = [.expire 7 ⟨0, 1, 0, 10, 19⟩, .expire 7 ⟨0, 2, 1, 20, 19⟩, .start 8 1,
        .start 8 2] ∧
      (server.callNth rules (fun _ => "other") 0).LeavesAlone server ∧
      (server.callNth rules (fun _ => "other") 2).LeavesAlone server ∧
      ∃ found, server.store.get? 8 = some found ∧ found.epoch = 2 ∧ found.phase = .waiting := by
  intro rules one two three pass moves occurrences chronicle server
  have small : chronicle.started < UInt64.size := by decide +kernel
  have handed : server.handed = [.expire 7 ⟨0, 1, 0, 10, 19⟩, .expire 7 ⟨0, 2, 1, 20, 19⟩,
      .start 8 1, .start 8 2] := by decide +kernel
  have stale :
      (server.store.get? 7).all (fun room => !room.isRunning ⟨0, 1, 0, 10, 19⟩) = true := by
    decide +kernel
  have renewed : (server.store.get? 8).map Room.epoch = some 2 := by decide +kernel
  obtain ⟨found, present, epoch⟩ := Option.map_eq_some_iff.mp renewed
  have first := late_calls_do_nothing rules occurrences (fun _ => "other") 0 7
  have third := late_calls_do_nothing rules occurrences (fun _ => "other") 2 8
  have fourth := late_calls_do_nothing rules occurrences (fun _ => "other") 3 8
  refine ⟨small, handed, ?_, ?_, found, present, epoch, ?_⟩
  · refine And.left first ⟨0, 1, 0, 10, 19⟩ (congrArg (fun calls => calls[0]?) handed) ?_ small
    intro other held
    rw [held] at stale
    exact (Bool.not_eq_true' _).mp stale
  · refine And.left (And.right third) 1 (congrArg (fun calls => calls[2]?) handed) ?_
    intro other held
    cases present.symm.trans held
    rw [epoch]
    decide
  · refine And.right (And.right fourth) found ?_ present
    rw [epoch]
    exact congrArg (fun calls => calls[3]?) handed

end Chronicle

end WordGame
