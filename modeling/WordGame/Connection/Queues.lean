import WordGame.Connection.Registry

/-!
The queues of all connections, and how deliveries get into them.
-/

namespace WordGame

abbrev Queues := Table ConnectionId Queue

namespace Queues

/-- The queue of a connection; a connection that never was has one without a writer. -/
def queue (queues : Queues) (id : ConnectionId) : Queue := queues.getD id ⟨[], false, false⟩

def accepts (queues : Queues) (delivery : Delivery) : Bool := (queues.queue delivery.receiver).accepts

def deliver (queues : Queues) (delivery : Delivery) : Queues :=
  queues.insert delivery.receiver ((queues.queue delivery.receiver).push delivery.item)

def deliverAll (queues : Queues) (deliveries : List Delivery) : Queues :=
  deliveries.foldl deliver queues

/-- The number of deliveries that are accepted, made one after the other. -/
def accepted (queues : Queues) : List Delivery → Nat
  | [] => 0
  | delivery :: rest =>
    (if queues.accepts delivery then 1 else 0) + (queues.deliver delivery).accepted rest

theorem queue_insert (queues : Queues) (owner id : ConnectionId) (queue : Queue) :
    Queues.queue (queues.insert owner queue) id =
      if id = owner then queue else queues.queue id :=
  Table.getD_insert queues owner id queue _

theorem queue_deliver (queues : Queues) (delivery : Delivery) (id : ConnectionId) :
    (queues.deliver delivery).queue id =
      if id = delivery.receiver then (queues.queue id).push delivery.item else queues.queue id := by
  unfold deliver queue Table.getD
  rw [Table.get?_insert]
  split
  · rename_i same
    rw [same]
    rfl
  · rfl

end Queues

end WordGame
