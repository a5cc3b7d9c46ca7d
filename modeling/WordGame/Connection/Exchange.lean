import WordGame.Connection.Queue

/-!
The two ends of a queue, and all that can be done there in any order.

Whoever has a handle can send, ask for the connection to be closed, and make further handles. The
writer at the other end takes one item after the other, or waits for one. It looks for an overflow
when it begins to wait, and only at the queue itself when it goes on.
-/

namespace WordGame

/-- What the queue itself gives to a writer, if it has not overflowed. -/
def Queue.next (queue : Queue) (held : Bool) : Receipt × Queue :=
  match queue.waiting with
  | item :: rest => (.item item, { queue with waiting := rest })
  | [] => (if held then .empty else .disconnected, queue)

def Outbound.messages (items : List Outbound) : List ServerMessage :=
  items.filterMap fun
    | .message sent => some sent
    | .close => none

def Receipt.items (receipts : List Receipt) : List Outbound :=
  receipts.filterMap fun
    | .item given => some given
    | _ => none

structure Exchange where
  queue : Queue
  handles : Nat
  /-- The writer waits for an item. -/
  awaited : Bool
  deriving DecidableEq

namespace Exchange

inductive Act where
  | send (message : ServerMessage)
  | close
  | share
  | release
  /-- The writer takes the next item, or begins to wait for one. -/
  | receive
  | poll
  /-- A writer that waits looks again. -/
  | resume
  | giveUp
  | desert
  deriving DecidableEq

inductive Reply where
  | done
  | sent (accepted : Bool)
  | received (receipt : Receipt)
  deriving DecidableEq

def fresh : Exchange := ⟨.fresh, 1, false⟩

def push (exchange : Exchange) (item : Outbound) : Exchange :=
  { exchange with queue := exchange.queue.push item }

def isIdle (exchange : Exchange) : Bool := exchange.queue.attended && !exchange.awaited

def hand (exchange : Exchange) (waits : Bool) (taken : Receipt × Queue) : Reply × Exchange :=
  (.received taken.1,
    { exchange with queue := taken.2, awaited := waits && decide (taken.1 = .empty) })

/-- What becomes of an act. One that cannot be done where things stand changes nothing. -/
def act (exchange : Exchange) : Act → Reply × Exchange
  | .send message =>
    if exchange.handles = 0 then (.done, exchange)
    else (.sent exchange.queue.accepts, exchange.push (.message message))
  | .close => if exchange.handles = 0 then (.done, exchange) else (.done, exchange.push .close)
  | .share =>
    if exchange.handles = 0 then (.done, exchange)
    else (.done, { exchange with handles := exchange.handles + 1 })
  | .release => (.done, { exchange with handles := exchange.handles - 1 })
  | .receive =>
    if exchange.isIdle then exchange.hand true (exchange.queue.receive (0 < exchange.handles))
    else (.done, exchange)
  | .poll =>
    if exchange.isIdle then exchange.hand false (exchange.queue.receive (0 < exchange.handles))
    else (.done, exchange)
  | .resume =>
    if exchange.awaited then exchange.hand true (exchange.queue.next (0 < exchange.handles))
    else (.done, exchange)
  | .giveUp => (.done, { exchange with awaited := false })
  | .desert => (.done, { exchange with queue := exchange.queue.desert, awaited := false })

def after (exchange : Exchange) (acts : List Act) : Exchange :=
  acts.foldl (fun exchange act => (exchange.act act).2) exchange

def report : Exchange → List Act → List (Act × Reply)
  | _, [] => []
  | exchange, act :: rest =>
    (act, (exchange.act act).1) :: (exchange.act act).2.report rest

def accepted (notes : List (Act × Reply)) : List ServerMessage :=
  notes.filterMap fun
    | (.send message, .sent true) => some message
    | _ => none

def receipts (notes : List (Act × Reply)) : List Receipt :=
  notes.filterMap fun
    | (_, .received receipt) => some receipt
    | _ => none

end Exchange

end WordGame
