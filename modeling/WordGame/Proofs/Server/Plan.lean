import WordGame.Proofs.Server.Deliveries
import WordGame.Server.Plan

/-!
Plans and transactions: a plan that is done with nobody in between is the transaction (`run_plan`).
-/

namespace WordGame

namespace Plan

variable {rules : Rules} {room : RoomId}

theorem run_sendAll (deliveries : List Delivery) (next : Plan) (server : Server) :
    (sendAll deliveries next).run server =
      ((next.run server).1, deliveries ++ (next.run server).2) := by
  induction deliveries with
  | nil => rfl
  | cons delivery rest ih =>
    have first : (sendAll (delivery :: rest) next).run server =
        (((sendAll rest next).run server).1, delivery :: ((sendAll rest next).run server).2) := rfl
    rw [first, ih, List.cons_append]

theorem run_tellAll (messages : List ServerMessage) (next : Plan) (server : Server) :
    (tellAll room messages next).run server =
      ((next.run server).1,
        messages.flatMap (server.registry.broadcast room) ++ (next.run server).2) := by
  induction messages with
  | nil => rfl
  | cons message rest ih =>
    have first : (tellAll room (message :: rest) next).run server =
        (((tellAll room rest next).run server).1,
          server.registry.broadcast room message ++ ((tellAll room rest next).run server).2) := rfl
    rw [first, ih, List.flatMap_cons, List.append_assoc]

theorem run_settle (outcome : Outcome) (server : Server) :
    (settle room outcome).run server =
      ({ server with timers := outcome.follow room server.timers },
        outcome.messages.flatMap (server.registry.broadcast room)) := by
  unfold settle
  rw [run_tellAll]
  exact congrArg (Prod.mk _) (List.append_nil _)

end Plan

/-- What a transaction comes to, but for the number of fragments that it draws. -/
def Transaction.effect (transaction : Transaction) : Server × List Delivery :=
  (transaction.server, transaction.deliveries)

namespace Transaction

theorem effect_settle (transaction : Transaction) (room : RoomId) (outcome : Outcome) :
    (transaction.settle room outcome).effect =
      ((Plan.settle room outcome).run transaction.server).map id
        (transaction.deliveries ++ ·) := by
  rw [Plan.run_settle]
  unfold effect
  rw [server_settle, deliveries_settle]
  rfl

end Transaction

namespace Server

variable {rules : Rules} {fragment : Nat → String} {server : Server}
  {connection : Connection} {room : RoomId}

theorem run_answerPlan (server : Server) (player : PlayerId) (text : String) :
    (answerPlan rules fragment room player text).run server =
      (server.answer rules fragment room player text).effect := by
  unfold answerPlan Plan.move Server.answer
  cases moved : server.move rules fragment room (.answer player text) with
  | none => simp [Plan.run, moved, Plan.tellAll, Transaction.effect, Transaction.begin]
  | some pair =>
    obtain ⟨outcome, later⟩ := pair
    simp only [Plan.run, moved, Plan.tellAll, List.foldr_nil]
    unfold Transaction.settleUnlessEmpty
    split
    · rfl
    · rw [Transaction.effect_settle]
      rfl

theorem run_startPlan (server : Server) (epoch : Epoch) :
    (startPlan rules fragment room epoch).run server =
      (server.startGame rules fragment room epoch).effect := by
  unfold startPlan Plan.move startGame
  by_cases same : (server.store.get? room).map Room.epoch = some epoch
  · cases moved : server.move rules fragment room .start with
    | none =>
      simp [Plan.run, same, moved, Plan.tellAll, Transaction.effect, Transaction.begin]
    | some pair =>
      obtain ⟨outcome, later⟩ := pair
      simp only [Plan.run, same, moved, Plan.tellAll, List.foldr_nil, if_true, Plan.time]
      rw [Transaction.effect_settle]
      rfl
  · simp [Plan.run, same, Plan.tellAll, Transaction.effect, Transaction.begin]

theorem run_expirePlan (server : Server) (ticket : Ticket) :
    (expirePlan rules fragment room ticket).run server =
      (server.endTurn rules fragment room ticket).effect := by
  let cleared : Server := { server with timers := server.timers.clearTurn room ticket.number }
  unfold expirePlan Plan.move Plan.time endTurn
  cases moved : cleared.move rules fragment room (.expire ticket) with
  | none =>
    simp only [cleared] at moved
    simp [Plan.run, moved, Plan.tellAll, Transaction.effect, Transaction.begin]
  | some pair =>
    obtain ⟨outcome, later⟩ := pair
    simp only [cleared] at moved
    simp only [Plan.run, moved, Plan.tellAll, List.foldr_nil]
    unfold Transaction.settleUnlessEmpty
    split
    · rfl
    · rw [Transaction.effect_settle]
      rfl

theorem run_leavePlan (server : Server) :
    (leavePlan rules fragment connection room).run server =
      ((server.leave rules fragment connection room).getD (.begin server)).effect := by
  unfold leavePlan leave
  cases unregistered : server.registry.unregister room connection.identity.id connection.id with
  | none => simp [Plan.run, unregistered, Transaction.effect, Transaction.begin]
  | some pair =>
    obtain ⟨left, registry⟩ := pair
    cases left with
    | zero => simp [Plan.run, unregistered, Transaction.effect, Transaction.begin, Plan.time]
    | succ left =>
      let later : Server := { server with registry := registry }
      cases moved : later.move rules fragment room (.remove connection.identity.id) with
      | none =>
        simp only [later] at moved
        simp [Plan.run, unregistered, moved, Plan.move, Plan.tellAll, Transaction.effect,
          Transaction.begin, Transaction.broadcast]
      | some pair =>
        obtain ⟨outcome, last⟩ := pair
        simp only [later] at moved
        simp only [Plan.run, unregistered, moved, Plan.move, Plan.tellAll, List.foldr_cons,
          List.foldr_nil, Option.getD_some]
        rw [Transaction.effect_settle]
        rfl

theorem run_greetPlan (transaction : Transaction) (arrival : Arrival) (next : Plan) :
    let greeted := greet rules transaction connection room arrival
    let run := (greetPlan rules connection room arrival next).run transaction.server
    run.1 = (next.run greeted.server).1 ∧
      transaction.deliveries ++ run.2 = greeted.deliveries ++ (next.run greeted.server).2 := by
  cases arrival with
  | founded epoch =>
    dsimp only [greetPlan, greet, Plan.time, Plan.run, foundingNotes]
    rw [Plan.run_tellAll, List.flatMap_singleton, ← List.append_assoc]
    exact ⟨rfl, rfl⟩
  | added | alreadyPresent =>
    dsimp only [greetPlan, greet, Plan.run]
    split
    · exact ⟨rfl, (List.append_assoc _ [_] _).symm⟩
    · exact ⟨rfl, rfl⟩

theorem run_announce (transaction : Transaction) (registration : Registration) :
    (announce transaction connection room registration).effect =
      (transaction.server,
        transaction.deliveries ++
          ((Plan.tellAll room (arrivalNotes connection room registration) .done).run
            transaction.server).2) := by
  unfold Transaction.effect
  rw [server_announce, deliveries_announce, Plan.run_tellAll]
  cases registration with
  | added => simp [arrivalNotes, arrivalNews, Plan.run]
  | replaced previous => simp [arrivalNotes, arrivalNews, Plan.run]

/-- A connection that is registered comes into its room, and is greeted and announced. -/
theorem run_enterPlan {arrival : Arrival} {store : RoomStore} (registration : Registration)
    (deliveries : List Delivery)
    (joined : server.store.join room connection.identity.id rules.config.initialLives =
      (arrival, store)) :
    (announce (greet rules ⟨{ server with store := store }, deliveries, 0⟩ connection room arrival)
        connection room registration).effect =
      (((enterPlan rules connection room registration).run server).1,
        deliveries ++ ((enterPlan rules connection room registration).run server).2) := by
  let entered : Transaction := ⟨{ server with store := store }, deliveries, 0⟩
  let last := Plan.tellAll room (arrivalNotes connection room registration) .done
  have whole : (enterPlan rules connection room registration).run server =
      (greetPlan rules connection room arrival last).run entered.server := by
    simp only [enterPlan, Plan.run, joined, entered, last]
  obtain ⟨sameServer, sameDeliveries⟩ := run_greetPlan entered arrival last
  have told : (last.run (greet rules entered connection room arrival).server).1 =
      (greet rules entered connection room arrival).server := by
    rw [Plan.run_tellAll]
    rfl
  rw [whole, run_announce, sameServer, sameDeliveries, told]

theorem run_joinPlan (server : Server) :
    (joinPlan rules connection room).run server =
      match server.letIn rules connection room with
      | .ok admission => admission.transaction.effect
      | .error _ => (server, []) := by
  unfold joinPlan letIn
  cases registered : server.registry.register room connection with
  | error full => simp [Plan.run, registered]
  | ok pair =>
    obtain ⟨registration, registry⟩ := pair
    simp only [Plan.run, registered]
    rw [Plan.run_sendAll]
    cases joined : server.store.join room connection.identity.id rules.config.initialLives with
    | mk arrival store =>
      have entered : ({ server with registry := registry } : Server).store.join room
          connection.identity.id rules.config.initialLives = (arrival, store) := joined
      exact (run_enterPlan registration (registration.closing connection) entered).symm

/-- A plan that is done with nobody in between is the transaction. -/
theorem run_plan {occurrence : Occurrence} {start : Server} {plan : Plan}
    (planned : server.plan? rules fragment occurrence = some (start, plan)) :
    plan.run start = (server.undergo rules fragment occurrence).effect := by
  cases occurrence with
  | join connection room objection =>
    cases objection with
    | some refusal => cases planned
    | none =>
      cases planned
      dsimp only [undergo]
      unfold Server.join
      rw [run_joinPlan]
      cases entered : server.letIn rules connection room with
      | error full => rfl
      | ok admission => rfl
  | leave connection room =>
    cases planned
    exact run_leavePlan server
  | answer room player text =>
    cases planned
    exact run_answerPlan server player text
  | call index =>
    obtain ⟨callback, listed, same⟩ := Option.map_eq_some_iff.mp planned
    cases same
    dsimp only [undergo]
    unfold callNth
    rw [listed]
    cases callback with
    | start room epoch => exact run_startPlan _ epoch
    | expire room ticket => exact run_expirePlan _ ticket
  | relay | wait | ring => cases planned

end Server

end WordGame
