import WordGame.Proofs.Server.Script

/-!
Transactions that are cut off. A join or a leave that is cut off has changed the registry as the whole
would have, or not at all. Every other transaction leaves the registry alone.
-/

namespace WordGame

/-- The waits of somebody who holds the gate and has been let into a room. -/
def Await.Inside (await : Await) : Prop := await = .store ∨ await = .timers ∨ await = .members

instance (await : Await) : Decidable await.Inside :=
  inferInstanceAs (Decidable (_ ∨ _ ∨ _))

namespace Piece

def Quiet (piece : Piece) : Prop :=
  ∀ transaction, (piece.act transaction).server.registry = transaction.server.registry

/-- A piece of somebody who has been let in, which leaves the registry alone. -/
structure Inner (piece : Piece) : Prop where
  inside : piece.await.Inside
  quiet : piece.Quiet

@[simp] theorem quiet_idle (await : Await) : (idle await).Quiet := fun _ => rfl

@[simp] theorem inner_idle_store : (idle .store).Inner := ⟨.inl rfl, fun _ => rfl⟩

@[simp] theorem inner_keep (store : RoomStore) : (keep store).Inner := ⟨.inl rfl, fun _ => rfl⟩

@[simp] theorem inner_play (outcome : Outcome) (later : Server) : (play outcome later).Inner :=
  ⟨.inl rfl, fun _ => rfl⟩

@[simp] theorem inner_time (change : Timers Callback → Timers Callback) : (time change).Inner :=
  ⟨.inr (.inl rfl), fun _ => rfl⟩

@[simp] theorem inner_tell (room : RoomId) (message : ServerMessage) : (tell room message).Inner :=
  ⟨.inr (.inr rfl), fun _ => rfl⟩

end Piece

namespace Script

theorem run_quiet {script : Script} (quiet : ∀ piece ∈ script, piece.Quiet)
    (transaction : Transaction) :
    (run script transaction).server.registry = transaction.server.registry := by
  induction script generalizing transaction with
  | nil => rfl
  | cons piece rest ih =>
    rw [run_cons, ih (fun other member => quiet other (List.mem_cons_of_mem _ member))]
    exact quiet piece List.mem_cons_self transaction

theorem run_take_quiet {script : Script} (quiet : ∀ piece ∈ script, piece.Quiet) (place : Nat)
    (transaction : Transaction) :
    (run (script.take place) transaction).server.registry = transaction.server.registry :=
  run_quiet (fun piece member => quiet piece (List.mem_of_mem_take member)) transaction

/-- Where one piece only changes the registry, it has been changed from that piece on. -/
theorem run_take_register {early rest : Script} {registry : Registry} {deliveries : List Delivery}
    (before : ∀ piece ∈ early, piece.Quiet) (after : ∀ piece ∈ rest, piece.Quiet)
    {place : Nat} {piece : Piece} (transaction : Transaction)
    (found : (early ++ .register registry deliveries :: rest)[place]? = some piece) :
    let run :=
      Script.run ((early ++ .register registry deliveries :: rest).take place) transaction
    (piece ∈ early ++ [.register registry deliveries] ∧
        run.server.registry = transaction.server.registry) ∨
      (piece ∈ rest ∧ run.server.registry = registry) := by
  -- Induction on what comes before the change. Each quiet piece moves the start, not the registry.
  induction early generalizing place transaction with
  | nil =>
    cases place with
    | zero =>
      cases found
      exact .inl ⟨List.mem_singleton.mpr rfl, rfl⟩
    | succ place =>
      refine .inr ⟨List.mem_of_getElem? found, ?_⟩
      exact run_take_quiet after place ((Piece.register registry deliveries).act transaction)
  | cons first early ih =>
    cases place with
    | zero =>
      cases found
      exact .inl ⟨List.mem_cons_self, rfl⟩
    | succ place =>
      have quiet := before first List.mem_cons_self
      have later := ih (fun other member => before other (List.mem_cons_of_mem _ member))
        (first.act transaction) found
      rw [quiet transaction] at later
      rcases later with ⟨member, same⟩ | late
      · exact .inl ⟨List.mem_cons_of_mem _ member, same⟩
      · exact .inr late

end Script

theorem Outcome.inner_script (outcome : Outcome) (room : RoomId) :
    ∀ piece ∈ outcome.script room, piece.Inner := by
  unfold script
  rw [List.forall_mem_append, List.forall_mem_map]
  refine ⟨fun message _ => Piece.inner_tell room message, ?_⟩
  split
  · simp
  · split
    · simp
    · simp

namespace Server

variable {rules : Rules} {fragment : Nat → String} {server : Server} {connection : Connection}
  {room : RoomId} {objection : Option Refusal}

theorem inner_enterScript (arrival : Arrival) (store : RoomStore) :
    ∀ piece ∈ server.enterScript rules connection room arrival store, piece.Inner := by
  cases arrival with
  | founded epoch =>
    have placed (timers : Timers Callback) : Piece.Inner ⟨.store, fun transaction =>
        { transaction with
          server := { transaction.server with store := store, timers := timers } }⟩ :=
      ⟨.inl rfl, fun _ => rfl⟩
    simp [enterScript, placed]
  | added | alreadyPresent =>
    refine List.forall_mem_cons.mpr ⟨Piece.inner_keep store, List.forall_mem_singleton.mpr ?_⟩
    refine ⟨.inr (.inl rfl), ?_⟩
    intro transaction
    dsimp only
    rw [server_greet_of_present transaction connection room (by simp)]

theorem inner_announceScript (registration : Registration) :
    ∀ piece ∈ announceScript connection room registration, piece.Inner := by
  cases registration with
  | added => exact List.forall_mem_singleton.mpr (Piece.inner_tell room _)
  | replaced => exact List.forall_mem_nil _

theorem inner_partScript :
    ∀ piece ∈ server.partScript rules fragment connection room, piece.Inner := by
  unfold partScript
  dsimp only
  split
  · rw [List.forall_mem_cons, List.forall_mem_cons]
    exact ⟨Piece.inner_play _ _, Piece.inner_tell room _, Outcome.inner_script _ room⟩
  · simp

/-- How a join goes: it fails early, or it registers the connection and goes on inside. -/
inductive Joins (rules : Rules) (objection : Option Refusal) (server : Server)
    (connection : Connection) (room : RoomId) (script : Script) : Prop
  | fails (error : JoinError) (refused : server.join rules objection connection room = .error error)
      (outside : ∀ piece ∈ script, ¬piece.await.Inside ∧ piece.Quiet) :
      Joins rules objection server connection room script
  | enters (registry : Registry) (deliveries : List Delivery) (rest : Script)
      (split : script =
        [.idle .records, .idle .gate] ++ .register registry deliveries :: rest)
      (registers : server.registry.Registers room connection registry)
      (inner : ∀ piece ∈ rest, piece.Inner) :
      Joins rules objection server connection room script

theorem joinScript_joins (server : Server) :
    server.Joins rules objection connection room
      (server.joinScript rules objection connection room) := by
  have idle (await : Await) (outside : ¬await.Inside) :
      ¬(Piece.idle await).await.Inside ∧ (Piece.idle await).Quiet :=
    ⟨outside, Piece.quiet_idle await⟩
  unfold joinScript
  cases objection with
  | some refusal =>
    refine .fails (.refused refusal) rfl ?_
    exact List.forall_mem_singleton.mpr (idle .records (by decide))
  | none =>
    dsimp only
    cases registered : server.registry.register room connection with
    | error full =>
      refine .fails (.full full) ?_ ?_
      · unfold Server.join letIn
        rw [registered]
        rfl
      · rw [List.forall_mem_cons, List.forall_mem_cons, List.forall_mem_singleton]
        exact ⟨idle .records (by decide), idle .gate (by decide), idle .registration (by decide)⟩
    | ok pair =>
      obtain ⟨registration, registry⟩ := pair
      refine .enters registry _ _ rfl (Registry.registers_of_ok registered) ?_
      rw [List.forall_mem_append]
      exact ⟨inner_enterScript _ _, inner_announceScript registration⟩

/-- How a leave goes: there is nobody to take out, or the connection is taken out and the others are
told. -/
inductive Leaves (server : Server) (connection : Connection) (room : RoomId) (script : Script) :
    Prop
  | stays (absent : server.registry.unregister room connection.identity.id connection.id = none)
      (split : script = [.idle .gate, .idle .registration]) : Leaves server connection room script
  | goes (left : Nat) (registry : Registry) (rest : Script)
      (unregistered : server.registry.unregister room connection.identity.id connection.id =
        some (left, registry))
      (split : script = [.idle .gate] ++ .register registry [] :: rest)
      (late : ∀ piece ∈ rest, piece.Inner ∨ piece = .idle .records) :
      Leaves server connection room script

theorem leaveScript_leaves (server : Server) :
    server.Leaves connection room (server.leaveScript rules fragment connection room) := by
  unfold leaveScript
  dsimp only
  cases unregistered : server.registry.unregister room connection.identity.id connection.id with
  | none => exact .stays unregistered rfl
  | some pair =>
    obtain ⟨left, registry⟩ := pair
    cases left with
    | zero => exact .goes 0 registry _ unregistered rfl (by simp)
    | succ left =>
      refine .goes (left + 1) registry _ unregistered rfl ?_
      rw [List.forall_mem_append]
      exact ⟨fun piece member => .inl (inner_partScript piece member), by simp⟩

theorem quiet_answerScript (player : PlayerId) (text : String) :
    ∀ piece ∈ server.answerScript rules fragment room player text, piece.Quiet := by
  unfold answerScript
  split
  · rw [List.forall_mem_cons, List.forall_mem_cons]
    refine ⟨Piece.quiet_idle .gate, (Piece.inner_play _ _).quiet, ?_⟩
    split
    · exact List.forall_mem_nil _
    · exact fun piece member => (Outcome.inner_script _ room piece member).quiet
  · simp

theorem quiet_relayScript (player : PlayerId) (text : String) :
    ∀ piece ∈ relayScript room player text, piece.Quiet :=
  List.forall_mem_singleton.mpr (Piece.inner_tell room _).quiet

/-! ### The registry after a transaction and after a part of it -/

theorem join_registers {admission : Admission}
    (admitted : server.join rules objection connection room = .ok admission) :
    server.registry.Registers room connection admission.transaction.server.registry := by
  -- The whole join is the run of its pieces, and only one of these touches the registry.
  have whole := @run_joinScript rules (fun _ => "") connection room objection server
  dsimp only [undergo] at whole
  rw [admitted] at whole
  dsimp only at whole
  rw [← whole]
  cases server.joinScript_joins with
  | fails error refused => cases refused.symm.trans admitted
  | enters registry deliveries rest split registers inner =>
    rw [split, Script.run_append, Script.run_cons,
      Script.run_quiet (fun piece member => (inner piece member).quiet)]
    exact registers

theorem quiet_of_late {rest : Script} (late : ∀ piece ∈ rest, piece.Inner ∨ piece = .idle .records) :
    ∀ piece ∈ rest, piece.Quiet := by
  intro piece member
  rcases late piece member with inner | rfl
  · exact inner.quiet
  · exact Piece.quiet_idle .records

theorem leave_quits (rules : Rules) (fragment : Nat → String) (server : Server)
    (connection : Connection) (room : RoomId) :
    server.registry.Quits room connection
      ((server.leave rules fragment connection room).getD (.begin server)).server.registry := by
  have whole := @run_leaveScript rules fragment connection room server
  dsimp only [undergo] at whole
  rw [← whole]
  cases server.leaveScript_leaves with
  | stays absent split =>
    rw [split]
    exact Registry.quits_of_unregister_eq_none absent
  | goes left registry rest unregistered split late =>
    rw [split, Script.run_append, Script.run_cons, Script.run_quiet (quiet_of_late late)]
    exact Registry.quits_of_unregister_eq_some unregistered

theorem registry_answer (rules : Rules) (fragment : Nat → String) (server : Server) (room : RoomId)
    (player : PlayerId) (text : String) :
    (server.answer rules fragment room player text).server.registry = server.registry := by
  have whole := @run_answerScript rules fragment room server player text
  dsimp only [undergo] at whole
  rw [← whole]
  exact Script.run_quiet (quiet_answerScript player text) (.begin server)

theorem registry_callNth (rules : Rules) (fragment : Nat → String) (server : Server)
    (index : Nat) : (server.callNth rules fragment index).server.registry = server.registry := by
  have step : server.Step rules fragment (.call index)
    (server.callNth rules fragment index).server := callNth_step index
  generalize (server.callNth rules fragment index).server = later at step ⊢
  cases step with
  | idle _ registry => exact registry
  | started | expired | outlived => rfl

theorem registry_ringDue (server : Server) : server.ringDue.registry = server.registry := by
  unfold ringDue
  split
  · split
    · rfl
    · rfl
  · rfl

theorem Joins.cut {script : Script} {place : Nat} {piece : Piece}
    (joins : server.Joins rules objection connection room script)
    (found : script[place]? = some piece) :
    let registry := (Script.run (script.take place) (.begin server)).server.registry
    (¬piece.await.Inside ∧ registry = server.registry) ∨
      (piece.await.Inside ∧ server.registry.Registers room connection registry) := by
  cases joins with
  | fails error _ outside =>
    have quiet := Script.run_take_quiet (fun other member => (outside other member).2) place
      (.begin server)
    exact .inl ⟨(outside piece (List.mem_of_getElem? found)).1, quiet⟩
  | enters registry deliveries rest split registers inner =>
    subst split
    have early : ∀ other ∈ ([.idle .records, .idle .gate] : Script), other.Quiet := by simp
    rcases Script.run_take_register early (fun other member => (inner other member).quiet)
      (.begin server) found with ⟨member, same⟩ | ⟨member, same⟩
    · refine .inl ⟨?_, same⟩
      simp only [List.mem_append, List.mem_cons, List.not_mem_nil, or_false] at member
      rcases member with (rfl | rfl) | rfl
      · exact (by decide : ¬Await.Inside .records)
      · exact (by decide : ¬Await.Inside .gate)
      · exact (by decide : ¬Await.Inside .registration)
    · rw [← same] at registers
      exact .inr ⟨(inner piece member).inside, registers⟩

theorem Leaves.cut {script : Script} {place : Nat} {piece : Piece}
    (leaves : server.Leaves connection room script) (found : script[place]? = some piece) :
    let registry := (Script.run (script.take place) (.begin server)).server.registry
    ((piece.await = .gate ∨ piece.await = .registration) ∧ registry = server.registry) ∨
      (¬(piece.await = .gate ∨ piece.await = .registration) ∧
        server.registry.Quits room connection registry) := by
  cases leaves with
  | stays _ split =>
    subst split
    have quiet := @Script.run_take_quiet [.idle .gate, .idle .registration] (by simp) place
      (.begin server)
    have member := List.mem_of_getElem? found
    simp only [List.mem_cons, List.not_mem_nil, or_false] at member
    rcases member with rfl | rfl
    · exact .inl ⟨.inl rfl, quiet⟩
    · exact .inl ⟨.inr rfl, quiet⟩
  | goes left registry rest unregistered split late =>
    subst split
    rcases Script.run_take_register (by simp) (quiet_of_late late) (.begin server) found with
      ⟨member, same⟩ | ⟨member, same⟩
    · simp only [List.mem_append, List.mem_cons, List.not_mem_nil, or_false] at member
      rcases member with rfl | rfl
      · exact .inl ⟨.inl rfl, same⟩
      · exact .inl ⟨.inr rfl, same⟩
    · have quits := Registry.quits_of_unregister_eq_some unregistered
      rw [← same] at quits
      refine .inr ⟨?_, quits⟩
      rcases late piece member with ⟨store | timers | members, _⟩ | rfl
      · simp [store]
      · simp [timers]
      · simp [members]
      · exact (by decide : ¬(Await.records = .gate ∨ Await.records = .registration))

end Server

end WordGame
