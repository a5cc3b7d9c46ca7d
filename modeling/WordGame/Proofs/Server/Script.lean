import WordGame.Proofs.Server.Step
import WordGame.Server.Script

/-!
Transactions and their pieces: all pieces together are the transaction.
-/

namespace WordGame

namespace Script

theorem run_cons (piece : Piece) (script : Script) (transaction : Transaction) :
    run (piece :: script) transaction = run script (piece.act transaction) := rfl

theorem run_append (first second : Script) (transaction : Transaction) :
    run (first ++ second) transaction = run second (run first transaction) :=
  List.foldl_append

end Script

namespace Transaction

/-- Whoever is told of something does not depend on what was drawn. -/
theorem tell_drawn (transaction : Transaction) (room : RoomId) (messages : List ServerMessage)
    (drawn : Nat) :
    messages.foldl (fun told message => told.broadcast room message)
        { transaction with drawn := drawn } =
      { messages.foldl (fun told message => told.broadcast room message) transaction with
        drawn := drawn } := by
  induction messages generalizing transaction with
  | nil => rfl
  | cons message rest ih => exact ih (transaction.broadcast room message)

theorem drawn_tell (transaction : Transaction) (room : RoomId) (messages : List ServerMessage) :
    (messages.foldl (fun told message => told.broadcast room message) transaction).drawn =
      transaction.drawn := by
  induction messages generalizing transaction with
  | nil => rfl
  | cons message rest ih => exact ih (transaction.broadcast room message)

end Transaction

namespace Outcome

theorem run_script (outcome : Outcome) (room : RoomId) (transaction : Transaction) :
    Script.run (outcome.script room)
        { transaction with drawn := transaction.drawn + outcome.drawn } =
      transaction.settle room outcome := by
  have told : ∀ start : Transaction,
      Script.run (outcome.messages.map (Piece.tell room)) start =
        outcome.messages.foldl (fun told message => told.broadcast room message) start :=
    fun start => List.foldl_map
  unfold script Transaction.settle
  rw [Script.run_append, told, Transaction.tell_drawn]
  dsimp only
  rw [Transaction.drawn_tell]
  unfold Outcome.follow
  split
  · rfl
  · cases outcome.turn with
    | none => rfl
    | some ticket => rfl

end Outcome

namespace Server

variable {rules : Rules} {fragment : Nat → String} {server later : Server}
  {connection : Connection} {room : RoomId} {objection : Option Refusal} {outcome : Outcome}
  {move : Move}

theorem act_play (moved : server.move rules fragment room move = some (outcome, later)) :
    (Piece.play outcome later).act (.begin server) =
      { Transaction.begin later with drawn := 0 + outcome.drawn } := by
  unfold Server.move at moved
  cases listed : server.store.get? room with
  | none =>
    rw [listed] at moved
    cases moved
  | some found =>
    rw [listed] at moved
    cases moved
    rfl

theorem run_enterScript (arrival : Arrival) (store : RoomStore) (transaction : Transaction)
    (timers : transaction.server.timers = server.timers) :
    Script.run (server.enterScript rules connection room arrival store) transaction =
      greet rules { transaction with server := { transaction.server with store := store } }
        connection room arrival := by
  cases arrival with
  | founded epoch =>
    unfold enterScript greet Transaction.time Timers.startCountdown
    dsimp only
    rw [timers]
    rfl
  | added | alreadyPresent => rfl

theorem run_joinScript (server : Server) :
    Script.run (server.joinScript rules objection connection room) (.begin server) =
      server.undergo rules fragment (.join connection room objection) := by
  dsimp only [undergo]
  unfold joinScript Server.join
  cases objection with
  | some refusal => rfl
  | none =>
    unfold letIn
    cases registered : server.registry.register room connection with
    | error full => rfl
    | ok pair =>
      obtain ⟨registration, registry⟩ := pair
      dsimp only
      rw [Script.run_cons, Script.run_cons, Script.run_cons, Script.run_append, run_enterScript]
      · cases registration with
        | added => rfl
        | replaced previous => rfl
      · rfl

theorem run_leaveScript (server : Server) :
    Script.run (server.leaveScript rules fragment connection room) (.begin server) =
      server.undergo rules fragment (.leave connection room) := by
  dsimp only [undergo]
  unfold leaveScript Server.leave
  dsimp only
  cases unregistered : server.registry.unregister room connection.identity.id connection.id with
  | none => rfl
  | some pair =>
    obtain ⟨left, registry⟩ := pair
    cases left with
    | zero => rfl
    | succ left =>
      let parted : Server := { server with registry := registry }
      dsimp only
      rw [Script.run_cons, Script.run_cons, Script.run_append]
      change Script.run (parted.partScript rules fragment connection room) (.begin parted) = _
      unfold partScript
      dsimp only
      cases moved : parted.move rules fragment room (.remove connection.identity.id) with
      | none => rfl
      | some pair =>
        obtain ⟨outcome, later⟩ := pair
        dsimp only
        rw [Script.run_cons, act_play moved, Option.getD_some, ← outcome.run_script]
        rfl

/-- Nothing is drawn for an answer of which nothing is made known. -/
theorem drawn_of_isEmpty {found : Room} {supply : Supply} {player : PlayerId} {text : String}
    (empty : (found.perform rules supply (.answer player text)).outcome.isEmpty = true) :
    (found.perform rules supply (.answer player text)).outcome.drawn = 0 := by
  have step := found.perform_step rules supply (.answer player text)
  generalize found.perform rules supply (.answer player text) = play at step empty ⊢
  unfold Outcome.isEmpty at empty
  rw [Bool.and_eq_true, List.isEmpty_iff] at empty
  cases step with
  | ignored => rfl
  | accepted _ _ passes | failed _ _ _ _ passes => exact absurd empty.1 passes.told
  | lost => exact absurd empty.1 (Play.messages_finish_ne_nil _ _)
  | erred => cases empty.1

theorem run_answerScript (server : Server) (player : PlayerId) (text : String) :
    Script.run (server.answerScript rules fragment room player text) (.begin server) =
      server.undergo rules fragment (.answer room player text) := by
  dsimp only [undergo]
  unfold answerScript Server.answer
  cases listed : server.store.get? room with
  | none =>
    rw [server.move_of_absent _ listed]
    rfl
  | some found =>
    rw [server.move_of_present _ listed]
    dsimp only
    unfold Transaction.settleUnlessEmpty
    cases empty : (found.perform rules ⟨server.turns + 1, fragment⟩
        (.answer player text)).outcome.isEmpty with
    | false =>
      rw [if_neg Bool.false_ne_true, if_neg Bool.false_ne_true, ← Outcome.run_script]
      rfl
    | true =>
      rw [if_pos rfl, if_pos rfl]
      change (Piece.play _ _).act (.begin server) = _
      rw [act_play (server.move_of_present _ listed), drawn_of_isEmpty empty]
      rfl

theorem run_relayScript (server : Server) (player : PlayerId) (text : String) :
    Script.run (relayScript room player text) (.begin server) =
      server.undergo rules fragment (.relay room player text) := rfl

end Server

end WordGame
