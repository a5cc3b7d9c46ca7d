import WordGame.Proofs.Server.Cut
import WordGame.Proofs.Server.Deliveries

/-!
A server that nobody is connected to. It keeps nothing: no room is listed, none exists and no timer
is recorded, whatever has happened before.
-/

namespace WordGame

namespace Registry

variable {registry later : Registry} {room : RoomId} {connection : Connection}

/-- No room is listed without connections. -/
def Tidy (registry : Registry) : Prop :=
  ∀ room members, registry.rooms.get? room = some members → members.isEmpty = false

theorem initial_tidy (capacity : Nat) : (initial capacity).Tidy := by
  intro _ _ impossible
  cases impossible

theorem Tidy.list (tidy : registry.Tidy) (room : RoomId) (members : Table PlayerId Connection) :
    (registry.list room members).Tidy := by
  intro query found listed
  unfold Registry.list at listed
  dsimp only at listed
  split at listed
  · rw [Table.get?_erase] at listed
    split at listed
    · cases listed
    · exact tidy query found listed
  · rename_i present
    rw [Table.get?_insert] at listed
    split at listed
    · cases listed
      exact Bool.eq_false_iff.mpr present
    · exact tidy query found listed

theorem Tidy.register {registration : Registration} (tidy : registry.Tidy)
    (registered : registry.register room connection = .ok (registration, later)) : later.Tidy := by
  unfold Registry.register at registered
  dsimp only at registered
  split at registered
  · cases registered
    exact tidy.list room _
  · split at registered
    · cases registered
    · cases registered
      exact tidy.list room _

theorem Tidy.unregister {player : PlayerId} {id : ConnectionId} {left : Nat} (tidy : registry.Tidy)
    (unregistered : registry.unregister room player id = some (left, later)) : later.Tidy := by
  unfold Registry.unregister at unregistered
  dsimp only at unregistered
  split at unregistered
  · cases unregistered
    exact tidy.list room _
  · cases unregistered

theorem Tidy.rooms_eq_empty (tidy : registry.Tidy)
    (nobody : ∀ room player, registry.connection? room player = none) :
    registry.rooms = .empty := by
  refine Table.ext_get? ?_
  intro room
  cases listed : registry.rooms.get? room with
  | none => rfl
  | some members =>
    have empty : members = .empty := by
      refine Table.ext_get? ?_
      intro player
      have absent := nobody room player
      unfold connection? Registry.members Table.getD at absent
      rw [listed] at absent
      exact absent
    have present := tidy room members listed
    rw [empty] at present
    cases present

end Registry

namespace Server

theorem undergo_tidy {server : Server} (rules : Rules) (fragment : Nat → String)
    (tidy : server.registry.Tidy) (occurrence : Occurrence) :
    (server.undergo rules fragment occurrence).server.registry.Tidy := by
  cases occurrence with
  | join connection room objection =>
    dsimp only [undergo]
    cases admitted : server.join rules objection connection room with
    | error error => exact tidy
    | ok admission =>
      obtain ⟨registration, registry, registered, same, _⟩ := deliveries_join admitted
      dsimp only
      rw [same]
      exact tidy.register registered
  | leave connection room =>
    dsimp only [undergo]
    cases departed : server.leave rules fragment connection room with
    | none => exact tidy
    | some transaction =>
      obtain ⟨left, registry, unregistered, same, _⟩ := deliveries_leave departed
      dsimp only [Option.getD]
      rw [same]
      exact tidy.unregister unregistered
  | answer room player text =>
    dsimp only [undergo]
    rw [registry_answer]
    exact tidy
  | relay | wait => exact tidy
  | ring =>
    have same := server.registry_ringDue
    dsimp only [undergo, Transaction.begin]
    rw [same]
    exact tidy
  | call index =>
    dsimp only [undergo]
    rw [registry_callNth]
    exact tidy

end Server

namespace Chronicle

theorem run_registry_tidy (rules : Rules) (occurrences : List (Occurrence × (Nat → String))) :
    ((begin (.initial rules.config)).run rules occurrences).server.registry.Tidy := by
  refine run_preserves rules (fun chronicle => chronicle.server.registry.Tidy) ?_ _ _ ?_
  · intro chronicle fragment occurrence tidy
    exact Server.undergo_tidy rules fragment tidy occurrence
  · exact Registry.initial_tidy _

/-- What is kept while nobody is connected. -/
theorem tables_of_nobody (rules : Rules) (occurrences : List (Occurrence × (Nat → String))) :
    let server := ((begin (.initial rules.config)).run rules occurrences).server
    (∀ room player, server.registry.connection? room player = none) →
      server.registry.rooms = .empty ∧ server.store.rooms = .empty ∧
        server.timers.recorded = .empty := by
  intro server nobody
  have nowhere := (run_registry_tidy rules occurrences).rooms_eq_empty nobody
  have absent : ∀ id, server.store.get? id = none := by
    intro id
    cases present : server.store.get? id with
    | none => rfl
    | some room =>
      have occupied := (run_agrees rules occurrences id).occupied.mp
        (Option.isSome_of_eq_some present)
      obtain ⟨player, member⟩ := (Table.size_pos_iff _).mp occupied
      have gone : (server.registry.members id).get? player = none := nobody id player
      unfold Table.contains at member
      rw [show (server.site id).members.get? player = none from gone] at member
      cases member
  refine ⟨nowhere, Table.ext_get? absent, Table.ext_get? ?_⟩
  intro id
  have untimed := (run_agrees rules occurrences id).timers_of_absent (absent id)
  have nothing := (run_tidy rules occurrences).hasTimers_eq_false untimed
  exact Option.not_isSome_iff_eq_none.mp (Bool.eq_false_iff.mp nothing)

end Chronicle

end WordGame
