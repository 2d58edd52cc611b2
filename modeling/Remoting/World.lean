import Remoting.Journal

/-!
# The world of a run

A `World` holds the clients with everything they use, the tasks in progress, the clock and the
journal. This module has the types, the small changes that every larger step is made of, and the
locks.
-/

namespace Remoting

/-- A lock that is granted in the order of the requests. The owner is the task that holds the lock
or has been granted it; tasks wait only while there is an owner. -/
structure Lock where
  owner : Option TaskId
  waiting : List TaskId

namespace Lock

/-- A lock that nobody holds. -/
def free : Lock := ⟨none, []⟩

/-- The lock after a request. -/
def request (lock : Lock) (task : TaskId) : Lock :=
  match lock.owner with
  | none => { lock with owner := some task }
  | some owner =>
    if owner = task || lock.waiting.contains task then lock
    else { lock with waiting := lock.waiting ++ [task] }

/-- The lock after a task gives it up: the owner hands it to the first that waits, another task only
stops waiting. -/
def leave (lock : Lock) (task : TaskId) : Lock :=
  if lock.owner = some task then
    match lock.waiting with
    | [] => ⟨none, []⟩
    | first :: rest => ⟨some first, rest⟩
  else { lock with waiting := lock.waiting.erase task }

/-- The lock after its owner has handed it to a given task. -/
def give (lock : Lock) (task : TaskId) : Lock :=
  { lock with owner := some task }

/-- A task that asks for a free lock has it. -/
@[simp] theorem owner_request_free (task : TaskId) : (free.request task).owner = some task := rfl

/-- Asking does not take a lock from its owner. -/
theorem owner_request_of_owner {lock : Lock} {owner : TaskId} (h : lock.owner = some owner)
    (task : TaskId) : (lock.request task).owner = some owner := by
  simp only [request, h]
  split <;> simp [h]

/-- A task without the lock does not change its owner by leaving. -/
theorem owner_leave_of_ne {lock : Lock} {task : TaskId} (h : lock.owner ≠ some task) :
    (lock.leave task).owner = lock.owner := by
  unfold leave
  rw [if_neg h]

end Lock

/-- The source of channels of a handler. -/
inductive Supplier where
  /-- Channels from a list; the number counts the calls. -/
  | plan (channels : List ChannelPlan) (calls : Nat)
  /-- The channel of a client, as long as the client exists. -/
  | client (client : ClientId)

/-- A channel handler. -/
structure Handler where
  tracker : Tracker
  supplier : Supplier

/-- An endpoint together with how it behaves as a collaborator. -/
structure EndpointCell where
  endpoint : LocalEndpoint
  /-- The client that it was made for. -/
  client : Option ClientId
  /-- The behaviour of an endpoint that is more than its owned tasks. -/
  plan : Option EndpointPlan

/-- A strategy. -/
structure StrategyCell where
  client : ClientId
  plan : StrategyPlan
  /-- The number of calls for a channel. -/
  calls : Nat
  /-- The last channel that the strategy has yielded. -/
  current : Option ChannelId

/-- A configuration that clients share. -/
structure ConfigCell where
  config : Config
  release : Release

/-- What routes the operations of a client. -/
inductive Association where
  | handler (handler : HandlerId)
  | recorder (plan : RecorderPlan)

/-- The connection of a client. Only an open client has transport resources. -/
inductive ClientState where
  | opened (endpoint : Option EndpointId) (strategy : Option StrategyId)
  /-- The client is closed; every closer is told the outcome. -/
  | closed (outcome : Except Error Unit)

/-- A client. -/
structure Client where
  config : Nat
  association : Association
  factory : FactoryPlan
  /-- The number of calls for an endpoint. -/
  endpointCalls : Nat
  /-- The number of calls for a strategy. -/
  strategyCalls : Nat
  /-- The strategies that were made. -/
  strategies : List StrategyId
  lock : Lock
  state : ClientState
  /-- Whether a close has begun; readable without the lock. -/
  closed : Bool
  /-- Whether the user's handle still exists. -/
  held : Bool
  trace : AllocationTrace

/-- Something that may let waiting tasks go on. -/
inductive Signal where
  /-- A time has come. -/
  | time (deadline : Nat)
  /-- A task has started. -/
  | spawned (task : TaskId)
  /-- The lock of a client was granted to a task. -/
  | granted (task : TaskId)
  /-- The number of operations of a handler has changed. -/
  | count (handler : HandlerId)
  /-- An operation was cancelled. -/
  | cancelled (handler : HandlerId) (operation : OperationId)
  /-- A token was cancelled. -/
  | token (token : TokenName)
  /-- The state of an endpoint has changed. -/
  | state (endpoint : EndpointId)
  /-- The tasks of an endpoint are gone. -/
  | tasksGone (endpoint : EndpointId)
  /-- An owned task was told to finish. -/
  | finishOrder (task : TaskId)
  /-- A task has ended. -/
  | finished (task : TaskId)
  deriving DecidableEq

/-- The state of a run. -/
structure World where
  /-- The time in milliseconds. -/
  now : Nat
  /-- Whether new tasks can run. -/
  running : Bool
  tasks : List Task
  nextTask : TaskId
  finished : List (TaskId × Finish)
  handlers : List Handler
  endpoints : List EndpointCell
  strategies : List StrategyCell
  configs : List ConfigCell
  clients : List Client
  registry : Registry
  /-- The tokens that were cancelled. -/
  cancelled : List TokenName
  /-- The channels that were closed. -/
  closedChannels : List ChannelId
  events : List Event
  log : List LogLine
  /-- The calls of the clients to their collaborators. -/
  contacts : List (ClientId × Contact)
  /-- What has happened that tasks may wait for. -/
  signals : List Signal
  /-- The clients that were dropped while open when nothing ran any more. -/
  stranded : List ClientId

namespace World

/-- The world in which nothing exists. -/
def empty : World where
  now := 0
  running := true
  tasks := []
  nextTask := 0
  finished := []
  handlers := []
  endpoints := []
  strategies := []
  configs := []
  clients := []
  registry := []
  cancelled := []
  closedChannels := []
  events := []
  log := []
  contacts := []
  signals := []
  stranded := []

/-! ## Journal -/

/-- Notes an event. -/
def emit (w : World) (event : Event) : World :=
  { w with events := w.events ++ [event] }

/-- Writes a log line. -/
def warn (w : World) (line : LogLine) : World :=
  { w with log := w.log ++ [line] }

/-- Notes a call of a client to a collaborator. -/
def contact (w : World) (client : ClientId) (contact : Contact) : World :=
  { w with contacts := w.contacts ++ [(client, contact)] }

/-- Announces something that tasks may wait for. -/
def signal (w : World) (signal : Signal) : World :=
  { w with signals := w.signals ++ [signal] }

/-- Logs a failure that the teardown of a client tolerates. -/
def swallow (w : World) (client : ClientId) (step : TeardownStep) (error : Error) : World :=
  w.warn (.swallowed (client + 1) step error)

/-! ## Parts -/

/-- Changes a handler. -/
def modifyHandler (w : World) (handler : HandlerId) (change : Handler → Handler) : World :=
  { w with handlers := w.handlers.modify handler change }

/-- Changes an endpoint. -/
def modifyEndpoint (w : World) (endpoint : EndpointId) (change : EndpointCell → EndpointCell) :
    World :=
  { w with endpoints := w.endpoints.modify endpoint change }

/-- Changes a strategy. -/
def modifyStrategy (w : World) (strategy : StrategyId) (change : StrategyCell → StrategyCell) :
    World :=
  { w with strategies := w.strategies.modify strategy change }

/-- Changes a client. -/
def modifyClient (w : World) (client : ClientId) (change : Client → Client) : World :=
  { w with clients := w.clients.modify client change }

/-- The configuration of a client. -/
def configOf? (w : World) (client : ClientId) : Option ConfigCell := do
  w.configs[(← w.clients[client]?).config]?

/-- Whether a channel is open. -/
def isOpen (w : World) (channel : ChannelId) : Bool :=
  !w.closedChannels.contains channel

/-- Closes a channel. -/
def closeChannel (w : World) (channel : ChannelId) : World :=
  if w.isOpen channel then { w with closedChannels := w.closedChannels ++ [channel] } else w

/-- A value as it is shown: a handle of a channel becomes what the channel is at the moment. -/
def present (w : World) : Value → Value
  | .handle channel => .channel channel (w.isOpen channel)
  | value => value

/-! ## Tasks -/

/-- The task of a given number, unless it has ended. -/
def task? (w : World) (task : TaskId) : Option Task :=
  w.tasks.find? (·.id = task)

/-- Says what a task does next, and on which frames. -/
def goto (w : World) (task : TaskId) (control : Control) (frames : List Frame) : World :=
  { w with
    tasks := w.tasks.map fun t => if t.id = task then { t with control, frames } else t }

/-- How a task has ended. -/
def finish? (w : World) (task : TaskId) : Option Finish :=
  w.finished.lookup task

/-- Whether a frame keeps a client alive. -/
def keeps (client : ClientId) : Frame → Bool
  | .keep kept | .background kept => kept = client
  | _ => false

/-- Whether somebody holds a handle of a client. -/
def hasHandle (w : World) (client : ClientId) : Bool :=
  (w.clients[client]?.any (·.held)) || w.tasks.any (·.handle = some client)

/-- Whether a client still exists. -/
def exists? (w : World) (client : ClientId) : Bool :=
  w.hasHandle client || w.tasks.any fun t => t.frames.any (keeps client)

/-! ## Locks -/

/-- Lets a task ask for the lock of a client. -/
def requestLock (w : World) (task : TaskId) (client : ClientId) : World :=
  w.modifyClient client fun c => { c with lock := c.lock.request task }

/-- Whether a task has the lock of a client. -/
def ownsLock (w : World) (task : TaskId) (client : ClientId) : Bool :=
  w.clients[client]?.any (·.lock.owner = some task)

/-- Lets a task give up the lock of a client, or stop waiting for it. -/
def leaveLock (w : World) (task : TaskId) (client : ClientId) : World :=
  let w' := w.modifyClient client fun c => { c with lock := c.lock.leave task }
  match w.ownsLock task client, w'.clients[client]?.bind (·.lock.owner) with
  | true, some next => w'.signal (.granted next)
  | _, _ => w'

/-- Hands the lock of a client on to another task. -/
def giveLock (w : World) (client : ClientId) (task : TaskId) : World :=
  w.modifyClient client fun c => { c with lock := c.lock.give task }

end World

end Remoting
