import WordGame.Message.Server

/-!
The queue between the server and the writer of one connection.

It holds a limited number of items. Whatever finds it full is lost, and the connection is to be
closed: the next item that the writer takes is then the order to close, ahead of all that waits.
-/

namespace WordGame

inductive Outbound where
  | message (message : ServerMessage)
  | close
  deriving DecidableEq

structure Queue where
  /-- What waits to be written, the oldest first. -/
  waiting : List Outbound
  overflowed : Bool
  /-- The writer is there. -/
  attended : Bool
  deriving DecidableEq

inductive Receipt where
  | item (item : Outbound)
  | empty
  /-- Nothing waits, and nobody is left who could send anything. -/
  | disconnected
  deriving DecidableEq

namespace Queue

def capacity : Nat := 256

def fresh : Queue := ⟨[], false, true⟩

def isFull (queue : Queue) : Bool := capacity ≤ queue.waiting.length

def accepts (queue : Queue) : Bool := queue.attended && !queue.isFull

def push (queue : Queue) (item : Outbound) : Queue :=
  if queue.attended then
    if queue.isFull then { queue with overflowed := true }
    else { queue with waiting := queue.waiting ++ [item] }
  else queue

/-- Takes the next item; `held` says whether anybody is left who can send. -/
def receive (queue : Queue) (held : Bool) : Receipt × Queue :=
  if queue.overflowed then (.item .close, { queue with overflowed := false })
  else
    match queue.waiting with
    | item :: rest => (.item item, { queue with waiting := rest })
    | [] => (if held then .empty else .disconnected, queue)

def desert (_ : Queue) : Queue := ⟨[], false, false⟩

/-- All that a writer takes who keeps on until nothing waits. -/
def backlog (queue : Queue) : List Outbound :=
  if queue.overflowed then .close :: queue.waiting else queue.waiting

def drained (queue : Queue) : Queue := { queue with waiting := [], overflowed := false }

variable {queue : Queue}

theorem isFull_iff : queue.isFull = true ↔ capacity ≤ queue.waiting.length :=
  decide_eq_true_iff

theorem accepts_iff : queue.accepts = true ↔ queue.attended = true ∧ queue.isFull = false := by
  rw [accepts, Bool.and_eq_true, Bool.not_eq_true']

theorem push_of_full (item : Outbound) (attended : queue.attended = true)
    (full : queue.isFull = true) : queue.push item = { queue with overflowed := true } := by
  rw [push, if_pos attended, if_pos full]

theorem waiting_push (queue : Queue) (item : Outbound) :
    (queue.push item).waiting =
      if queue.accepts then queue.waiting ++ [item] else queue.waiting := by
  unfold push accepts
  cases queue.attended with
  | false => rfl
  | true =>
    cases queue.isFull with
    | false => rfl
    | true => rfl

end Queue

end WordGame
