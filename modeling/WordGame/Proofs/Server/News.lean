import WordGame.Proofs.Server.Registration
import WordGame.Server.Plan

/-!
What plans do to rooms and to the registry. Every change of a room is followed by its news, message
by message and before anything else is changed; and nobody is registered but who joins.
-/

namespace WordGame

namespace Registry

/-- All who are registered are among the joiners, each of them for its own player. -/
def Within (joiners : List Connection) (registry : Registry) : Prop :=
  ∀ room player holder, registry.connection? room player = some holder →
    holder ∈ joiners ∧ player = holder.identity.id

variable {joiners : List Connection} {registry later : Registry} {room : RoomId}
  {connection : Connection}

theorem Registers.within (registers : registry.Registers room connection later)
    (member : connection ∈ joiners) (before : registry.Within joiners) : later.Within joiners := by
  intro query player holder registered
  rw [registers.connection?] at registered
  split at registered
  · rename_i own
    cases registered
    exact ⟨member, own.2⟩
  · exact before query player holder registered

theorem Unregisters.within {left : Nat}
    (unregisters : registry.Unregisters room connection left later)
    (before : registry.Within joiners) : later.Within joiners := by
  intro query player holder registered
  rw [unregisters.connection?] at registered
  split at registered
  · cases registered
  · exact before query player holder registered

end Registry

namespace Plan

/-- The plan tells a room what it owes it, before it changes that room. A change of the room makes
it owe the news, and when the plan is done nothing is owed. -/
inductive Owes (room : RoomId) : Plan → List ServerMessage → Prop
  | done : Owes room done []
  | step {act : Server → Server} {next : Server → Plan} {owed : List ServerMessage}
      (rest : ∀ server, Owes room (next server) owed) : Owes room (step act next) owed
  | change {query : RoomId} {act : Server → Change} {next : Server → Plan}
      (rest : ∀ server, Owes room (next server) (if query = room then (act server).news else [])) :
      Owes room (change query act next) []
  | send {delivery : Delivery} {next : Plan} {owed : List ServerMessage}
      (rest : Owes room next owed) : Owes room (send delivery next) owed
  | tell {message : ServerMessage} {next : Plan} {owed : List ServerMessage}
      (rest : Owes room next owed) : Owes room (tell room message next) (message :: owed)
  | elsewhere {query : RoomId} {message : ServerMessage} {next : Plan} {owed : List ServerMessage}
      (other : query ≠ room) (rest : Owes room next owed) :
      Owes room (tell query message next) owed

/-- The plan keeps the registry within those who join. -/
inductive Admits (joiners : List Connection) : Plan → Prop
  | done : Admits joiners done
  | step {act : Server → Server} {next : Server → Plan}
      (keeps : ∀ server : Server, server.registry.Within joiners →
        (act server).registry.Within joiners)
      (rest : ∀ server, Admits joiners (next server)) : Admits joiners (step act next)
  | change {room : RoomId} {act : Server → Change} {next : Server → Plan}
      (keeps : ∀ server, (act server).server.registry = server.registry)
      (rest : ∀ server, Admits joiners (next server)) : Admits joiners (change room act next)
  | send {delivery : Delivery} {next : Plan} (rest : Admits joiners next) :
      Admits joiners (send delivery next)
  | tell {room : RoomId} {message : ServerMessage} {next : Plan} (rest : Admits joiners next) :
      Admits joiners (tell room message next)

variable {room query : RoomId} {joiners : List Connection} {next : Plan}
  {owed messages : List ServerMessage}

theorem Owes.tellAll (rest : next.Owes room owed) (query : RoomId)
    (messages : List ServerMessage) :
    (tellAll query messages next).Owes room (if query = room then messages ++ owed else owed) := by
  induction messages with
  | nil =>
    rw [List.nil_append, ite_self]
    exact rest
  | cons message messages ih =>
    split
    · rename_i here
      subst here
      rw [if_pos rfl] at ih
      exact .tell ih
    · rename_i other
      rw [if_neg other] at ih
      exact .elsewhere other ih

theorem Owes.sendAll (rest : next.Owes room owed) (deliveries : List Delivery) :
    (sendAll deliveries next).Owes room owed := by
  induction deliveries with
  | nil => exact rest
  | cons delivery deliveries ih => exact .send ih

theorem Owes.time (rest : next.Owes room owed) (change : Timers Callback → Timers Callback) :
    (time change next).Owes room owed :=
  .step fun _ => rest

theorem owes_settle (room query : RoomId) (outcome : Outcome) :
    (settle query outcome).Owes room (if query = room then outcome.messages else []) := by
  have told : (settle query outcome).Owes room
      (if query = room then outcome.messages ++ [] else []) :=
    (Owes.done.time (outcome.follow query)).tellAll query outcome.messages
  rw [List.append_nil] at told
  exact told

theorem owes_settleUnlessEmpty (room query : RoomId) (outcome : Outcome) :
    (if outcome.isEmpty then done else settle query outcome).Owes room
      (if query = room then outcome.messages else []) := by
  cases empty : outcome.isEmpty with
  | true =>
    unfold Outcome.isEmpty at empty
    rw [Bool.and_eq_true, List.isEmpty_iff] at empty
    rw [empty.1, ite_self]
    exact .done
  | false => exact owes_settle room query outcome

/-- A move makes a plan owe the first messages and those of the outcome. -/
theorem owes_move (room query : RoomId) (first : List ServerMessage)
    (moved : Server → Option (Outcome × Server)) (next : Outcome → Plan)
    (rest : ∀ outcome, (next outcome).Owes room (if query = room then outcome.messages else [])) :
    (move query first moved next).Owes room [] := by
  refine .change (fun server => ?_)
  cases moved server with
  | none =>
    have told : (tellAll query first done).Owes room (if query = room then first ++ [] else []) :=
      Owes.done.tellAll query first
    rw [List.append_nil] at told
    exact told
  | some pair =>
    have told := (rest pair.1).tellAll query first
    by_cases here : query = room
    · rw [if_pos here, if_pos here] at told
      rw [if_pos here]
      exact told
    · rw [if_neg here, if_neg here] at told
      rw [if_neg here]
      exact told

theorem Admits.tellAll (rest : next.Admits joiners) (room : RoomId)
    (messages : List ServerMessage) : (tellAll room messages next).Admits joiners := by
  induction messages with
  | nil => exact rest
  | cons message messages ih => exact .tell ih

theorem Admits.sendAll (rest : next.Admits joiners) (deliveries : List Delivery) :
    (sendAll deliveries next).Admits joiners := by
  induction deliveries with
  | nil => exact rest
  | cons delivery deliveries ih => exact .send ih

theorem Admits.time (rest : next.Admits joiners) (change : Timers Callback → Timers Callback) :
    (time change next).Admits joiners :=
  .step (fun _ before => before) (fun _ => rest)

theorem admits_settle (room : RoomId) (outcome : Outcome) : (settle room outcome).Admits joiners :=
  (Admits.done.time (outcome.follow room)).tellAll room outcome.messages

theorem admits_settleUnlessEmpty (room : RoomId) (outcome : Outcome) :
    (if outcome.isEmpty then done else settle room outcome).Admits joiners := by
  split
  · exact .done
  · exact admits_settle room outcome

theorem admits_move (room : RoomId) (first : List ServerMessage)
    {moved : Server → Option (Outcome × Server)} {next : Outcome → Plan}
    (keeps : ∀ server outcome later, moved server = some (outcome, later) →
      later.registry = server.registry)
    (rest : ∀ outcome, (next outcome).Admits joiners) :
    (move room first moved next).Admits joiners := by
  refine .change ?_ ?_
  · intro server
    cases moved : moved server with
    | none => rfl
    | some pair => exact keeps server pair.1 pair.2 moved
  · intro server
    apply Admits.tellAll
    split
    · exact rest _
    · exact .done

end Plan

namespace Server

variable {rules : Rules} {fragment : Nat → String} {server : Server}
  {room query : RoomId} {connection : Connection} {joiners : List Connection}

theorem registry_of_move {outcome : Outcome} {later : Server} {play : Move}
    (moved : server.move rules fragment room play = some (outcome, later)) :
    later.registry = server.registry := by
  unfold Server.move at moved
  split at moved
  · cases moved
    rfl
  · cases moved

theorem owes_answerPlan (room query : RoomId) (player : PlayerId) (text : String) :
    (answerPlan rules fragment query player text).Owes room [] :=
  Plan.owes_move _ _ _ _ _ fun outcome => Plan.owes_settleUnlessEmpty room query outcome

theorem owes_expirePlan (room query : RoomId) (ticket : Ticket) :
    (expirePlan rules fragment query ticket).Owes room [] :=
  (Plan.owes_move _ _ _ _ _ fun outcome => Plan.owes_settleUnlessEmpty room query outcome).time _

theorem owes_startPlan (room query : RoomId) (epoch : Epoch) :
    (startPlan rules fragment query epoch).Owes room [] :=
  Plan.owes_move _ _ _ _ _ fun outcome => (Plan.owes_settle room query outcome).time _

theorem owes_callPlan (room : RoomId) (callback : Callback) :
    (callPlan rules fragment callback).Owes room [] := by
  cases callback with
  | start query epoch => exact owes_startPlan room query epoch
  | expire query ticket => exact owes_expirePlan room query ticket

theorem owes_leavePlan (room query : RoomId) :
    (leavePlan rules fragment connection query).Owes room [] := by
  refine .step fun server => ?_
  split
  · exact .done
  · refine Plan.Owes.time (.change fun _ => ?_) _
    rw [ite_self]
    exact .done
  · exact Plan.owes_move _ _ _ _ _ fun outcome => Plan.owes_settle room query outcome

/-- What a founder is greeted with is owed to the whole room. -/
theorem owes_greetPlan (rules : Rules) (connection : Connection) (query : RoomId)
    (arrival : Arrival) {next : Plan} {owed : List ServerMessage} (rest : next.Owes room owed) :
    (greetPlan rules connection query arrival next).Owes room
      (if query = room then foundingNotes rules query arrival ++ owed else owed) := by
  cases arrival with
  | founded epoch =>
    unfold greetPlan
    exact (rest.tellAll query _).time _
  | added | alreadyPresent =>
    have none : (if query = room then [] ++ owed else owed) = owed := ite_self owed
    unfold foundingNotes
    rw [none]
    refine .step fun server => ?_
    dsimp only
    split
    · exact .send rest
    · exact rest

theorem owes_enterPlan (room query : RoomId) (registration : Registration) :
    (enterPlan rules connection query registration).Owes room [] := by
  refine .change fun server => ?_
  let arrival := (server.store.join query connection.identity.id rules.config.initialLives).1
  let notes := arrivalNotes connection query registration
  let last := Plan.tellAll query notes .done
  have told : last.Owes room (if query = room then notes ++ [] else []) :=
    Plan.Owes.done.tellAll query notes
  have greeted := owes_greetPlan rules connection query arrival told
  by_cases here : query = room
  · rw [if_pos here, if_pos here, List.append_nil] at greeted
    rw [if_pos here]
    exact greeted
  · rw [if_neg here, if_neg here] at greeted
    rw [if_neg here]
    exact greeted

theorem owes_joinPlan (room query : RoomId) :
    (joinPlan rules connection query).Owes room [] := by
  refine .step fun server => ?_
  split
  · exact (owes_enterPlan room query _).sendAll _
  · exact .done

theorem registry_of_plan {occurrence : Occurrence} {start : Server} {plan : Plan}
    (planned : server.plan? rules fragment occurrence = some (start, plan)) :
    start.registry = server.registry := by
  cases occurrence with
  | join connection room objection =>
    cases objection with
    | some refusal => cases planned
    | none =>
      cases planned
      rfl
  | leave connection room | answer room player text =>
    cases planned
    rfl
  | call index =>
    obtain ⟨callback, _, same⟩ := Option.map_eq_some_iff.mp planned
    cases same
    rfl
  | relay | wait | ring => cases planned

/-- A transaction that begins owes nothing. -/
theorem owes_plan {occurrence : Occurrence} {start : Server} {plan : Plan}
    (planned : server.plan? rules fragment occurrence = some (start, plan))
    (room : RoomId) : plan.Owes room [] := by
  cases occurrence with
  | join connection query objection =>
    cases objection with
    | some refusal => cases planned
    | none =>
      cases planned
      exact owes_joinPlan room query
  | leave connection query =>
    cases planned
    exact owes_leavePlan room query
  | answer query player text =>
    cases planned
    exact owes_answerPlan room query player text
  | call index =>
    obtain ⟨callback, _, same⟩ := Option.map_eq_some_iff.mp planned
    cases same
    exact owes_callPlan room callback
  | relay | wait | ring => cases planned

theorem admits_callPlan (callback : Callback) :
    (callPlan rules fragment callback).Admits joiners := by
  cases callback with
  | start query epoch =>
    refine Plan.admits_move query [] ?_ fun outcome => (Plan.admits_settle query outcome).time _
    intro server outcome later moved
    split at moved
    · exact registry_of_move moved
    · cases moved
  | expire query ticket =>
    unfold callPlan expirePlan
    apply Plan.Admits.time
    exact Plan.admits_move query [] (fun _ _ _ moved => registry_of_move moved)
      fun outcome => Plan.admits_settleUnlessEmpty query outcome

theorem admits_leavePlan (room : RoomId) :
    (leavePlan rules fragment connection room).Admits joiners := by
  refine .step ?_ ?_
  · intro server before
    split
    · rename_i left registry unregistered
      exact (Registry.unregisters_of_some unregistered).within before
    · exact before
  · intro server
    split
    · exact .done
    · exact Plan.Admits.time (.change (fun _ => rfl) (fun _ => .done)) _
    · exact Plan.admits_move room _ (fun _ _ _ moved => registry_of_move moved)
        fun outcome => Plan.admits_settle room outcome

theorem admits_greetPlan {next : Plan} (room : RoomId) (arrival : Arrival)
    (rest : next.Admits joiners) :
    (greetPlan rules connection room arrival next).Admits joiners := by
  cases arrival with
  | founded epoch =>
    unfold greetPlan
    exact (rest.tellAll room _).time _
  | added | alreadyPresent =>
    refine .step (fun _ before => before) fun server => ?_
    dsimp only
    split
    · exact .send rest
    · exact rest

theorem admits_joinPlan (room : RoomId) (member : connection ∈ joiners) :
    (joinPlan rules connection room).Admits joiners := by
  refine .step ?_ ?_
  · intro server before
    split
    · rename_i registration registry registered
      exact (Registry.registers_of_ok registered).within member before
    · exact before
  · intro server
    split
    · rename_i registration _ _
      refine Plan.Admits.sendAll (.change (fun _ => rfl) fun server => ?_) _
      exact admits_greetPlan room _ (Plan.Admits.done.tellAll room _)
    · exact .done

/-- A transaction registers nobody but who joins. -/
theorem admits_plan {occurrence : Occurrence} {start : Server} {plan : Plan}
    (planned : server.plan? rules fragment occurrence = some (start, plan))
    (joins : ∀ connection room, occurrence = .join connection room none → connection ∈ joiners) :
    plan.Admits joiners := by
  cases occurrence with
  | join connection room objection =>
    cases objection with
    | some refusal => cases planned
    | none =>
      cases planned
      exact admits_joinPlan room (joins connection room rfl)
  | leave connection room =>
    cases planned
    exact admits_leavePlan room
  | answer room player text =>
    cases planned
    exact Plan.admits_move room [] (fun _ _ _ moved => registry_of_move moved)
      fun outcome => Plan.admits_settleUnlessEmpty room outcome
  | call index =>
    obtain ⟨callback, _, same⟩ := Option.map_eq_some_iff.mp planned
    cases same
    exact admits_callPlan callback
  | relay | wait | ring => cases planned

end Server

end WordGame
