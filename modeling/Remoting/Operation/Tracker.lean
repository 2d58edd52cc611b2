import Remoting.Error

/-!
# Tracking operations in flight

A `Tracker` admits operations, cancels them one channel at a time or all at once, and counts those
whose tickets are still alive. An operation consists of a ticket, which is alive until it is
dropped, and a receiver, which learns the reason when the operation is cancelled. Cancelling takes
an operation off the list of active ones, but only its ticket ends it.
-/

namespace Remoting

/-- The number of an operation. -/
abbrev OperationId := Nat

/-- The number of a channel. -/
abbrev ChannelId := Nat

/-- The receiving side of an operation's cancellation. -/
inductive Receiver where
  /-- Nothing has happened yet. -/
  | waiting
  /-- The operation was cancelled for a reason that has not been taken. -/
  | fired (reason : Error)
  /-- Nothing will happen any more. -/
  | closed
  deriving DecidableEq, Inhabited

/-- An operation that no cancellation has matched. -/
structure ActiveOperation where
  id : OperationId
  /-- The channel the operation runs on, once known. -/
  channel : Option ChannelId
  deriving DecidableEq, Inhabited

/-- The operations in flight. -/
structure Tracker where
  nextId : OperationId
  /-- Whether new operations are admitted. -/
  accepting : Bool
  /-- The operations that can still be cancelled, in the order of registration. -/
  active : List ActiveOperation
  /-- The number of operations in flight that waiters see. -/
  count : Nat
  /-- The operations whose tickets are alive. -/
  tickets : List OperationId
  /-- The receivers that have not been dropped. -/
  receivers : List (OperationId × Receiver)
  deriving DecidableEq

namespace Tracker

/-- The tracker without operations. -/
def empty : Tracker := ⟨1, true, [], 0, [], []⟩

instance : Inhabited Tracker := ⟨empty⟩

/-- Registers an operation. Fails once the tracker has stopped admitting, but uses up a number even
then. -/
def register (tracker : Tracker) : Except Error OperationId × Tracker :=
  let id := tracker.nextId
  let tracker := { tracker with nextId := id + 1 }
  if tracker.accepting then
    (.ok id,
      { tracker with
        active := tracker.active ++ [⟨id, none⟩]
        count := tracker.count + 1
        tickets := tracker.tickets ++ [id]
        receivers := tracker.receivers ++ [(id, .waiting)] })
  else (.error (.closed "ManagementChannelHandler"), tracker)

/-- Notes the channel that an operation runs on, unless a cancellation has matched it. -/
def bind (tracker : Tracker) (id : OperationId) (channel : ChannelId) : Tracker :=
  { tracker with
    active := tracker.active.map fun op =>
      if op.id = id then { op with channel := some channel } else op }

/-- Stops admitting operations. -/
def stop (tracker : Tracker) : Tracker :=
  { tracker with accepting := false }

/-- The receiver of an operation, unless it was dropped. -/
def receiver? (tracker : Tracker) (id : OperationId) : Option Receiver :=
  tracker.receivers.lookup id

/-- The tracker with one receiver changed. -/
def setReceiver (tracker : Tracker) (id : OperationId) (receiver : Receiver) : Tracker :=
  { tracker with
    receivers := tracker.receivers.map fun entry => if entry.1 = id then (id, receiver) else entry }

/-- Fires a receiver that waits. -/
def fire (tracker : Tracker) (reason : Error) (id : OperationId) : Tracker :=
  match tracker.receiver? id with
  | some .waiting => tracker.setReceiver id (.fired reason.clone)
  | _ => tracker

/-- What a cancellation has done. -/
structure Cancellation where
  /-- The operations that were matched. -/
  matched : List OperationId
  /-- Those of them whose receivers had been dropped. -/
  undelivered : List OperationId
  after : Tracker

/-- Cancels the active operations that match. -/
def cancelWhere (tracker : Tracker) (matching : ActiveOperation → Bool) (reason : Error) :
    Cancellation :=
  let matched := (tracker.active.filter matching).map ActiveOperation.id
  let rest := { tracker with active := tracker.active.filter (!matching ·) }
  ⟨matched, matched.filter fun id => (tracker.receiver? id).isNone,
    matched.foldl (fire · reason ·) rest⟩

/-- Cancels all active operations. -/
def cancelAll (tracker : Tracker) (reason : Error) : Cancellation :=
  tracker.cancelWhere (fun _ => true) reason

/-- Cancels the active operations on a channel. -/
def cancelChannel (tracker : Tracker) (channel : ChannelId) (reason : Error) : Cancellation :=
  tracker.cancelWhere (·.channel = some channel) reason

/-- Drops the ticket of an operation and so ends it. A receiver that still waits is closed. -/
def dropTicket (tracker : Tracker) (id : OperationId) : Tracker :=
  if tracker.tickets.contains id then
    let ended :=
      { tracker with
        active := tracker.active.filter (·.id ≠ id)
        count := tracker.count - 1
        tickets := tracker.tickets.erase id }
    match tracker.receiver? id with
    | some .waiting => ended.setReceiver id .closed
    | _ => ended
  else tracker

/-- Drops the receiver of an operation. -/
def dropReceiver (tracker : Tracker) (id : OperationId) : Tracker :=
  { tracker with receivers := tracker.receivers.filter (·.1 ≠ id) }

/-- Looks at a receiver; a reason is taken by this. -/
def pollReceiver (tracker : Tracker) (id : OperationId) : Option Receiver × Tracker :=
  match tracker.receiver? id with
  | some (.fired reason) => (some (.fired reason), tracker.setReceiver id .closed)
  | receiver => (receiver, tracker)

/-- Whether a wait for the operations to drain is over, and with what answer: no ticket is alive, or
else the deadline has passed. -/
def drained? (tracker : Tracker) (deadline now : Nat) : Option Bool :=
  if tracker.count = 0 then some true
  else if deadline ≤ now then some false
  else none

/-- The reason that an operation whose receiver is not waiting was cancelled for. -/
def cancellation? (tracker : Tracker) (id : OperationId) : Option Error :=
  match tracker.receiver? id with
  | some (.fired reason) => some reason
  | some .closed => some (.cancelled "operation abandoned")
  | _ => none

end Tracker

end Remoting
