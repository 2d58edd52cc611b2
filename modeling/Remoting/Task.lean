import Remoting.Collaborator
import Remoting.Endpoint.Local
import Remoting.Operation.Script

/-!
# Tasks

A task is a call in progress: what it does next, and a stack of frames that say how each enclosing
call goes on once the inner one has returned. Everything that a call holds while it waits (a lock,
the ticket of an operation, a reference to a client) is in its frames, so a task that is dropped
gives it all back.
-/

namespace Remoting

/-- The number of a client. -/
abbrev ClientId := Nat

/-- The number of a channel handler. -/
abbrev HandlerId := Nat

/-- The number of an endpoint. -/
abbrev EndpointId := Nat

/-- The number of a strategy. -/
abbrev StrategyId := Nat

/-- The name of a token that interrupts a close. -/
abbrev TokenName := String

/-- What a call returns when it succeeds. -/
inductive Value where
  | unit
  /-- A value that is only handed on. -/
  | data (value : Datum)
  /-- A handle of a channel. -/
  | handle (channel : ChannelId)
  /-- A channel as seen at one moment. -/
  | channel (channel : ChannelId) (isOpen : Bool)
  /-- A client has been closed. -/
  | closed
  | flag (value : Bool)
  | state (state : EndpointState)
  deriving DecidableEq, Inhabited

/-- What a call returns. -/
abbrev Reply := Except Error Value

/-- What a task can wait for. -/
inductive Wait where
  /-- The given time. -/
  | sleep (deadline : Nat)
  /-- Nothing that ever happens. -/
  | forever
  /-- The lock of a client. -/
  | lock (client : ClientId)
  /-- The end of all operations of a handler, up to a deadline. -/
  | drained (handler : HandlerId) (deadline : Nat)
  /-- One of some states of an endpoint. -/
  | state (endpoint : EndpointId) (allowed : List EndpointState)
  /-- The request to close an endpoint. -/
  | closeRequested (endpoint : EndpointId)
  /-- The end of all tasks that an endpoint owns. -/
  | tasksGone (endpoint : EndpointId)
  /-- The order to finish that an endpoint gives to its tasks. -/
  | finishOrder (endpoint : EndpointId)
  /-- The end of another task. -/
  | join (task : TaskId)

/-- Where an operation runs. -/
structure Site where
  handler : HandlerId
  channel : ChannelId
  client : Option ClientId

/-- What a teardown has taken out of an open client. -/
structure Teardown where
  client : ClientId
  endpoint : Option EndpointId
  strategy : Option StrategyId
  interrupt : Option TokenName
  deriving DecidableEq

/-- The parts of a teardown in order. -/
inductive Teardown.Stage where
  | shutdown
  | closeStrategy
  | closeEndpoint
  | shutdownNow
  | drain
  | release
  | awaitEndpoint
  | finish (outcome : Except Error Unit)

/-- What a teardown waits for. -/
inductive Teardown.Pause where
  | strategy (strategy : StrategyId)
  | drain (deadline : Nat)
  | endpoint

/-- What a task does next: the call it makes. -/
inductive Call where
  /-- Get the current channel of a client. -/
  | getChannel (client : ClientId)
  /-- Make a strategy over an endpoint, holding the lock, and get a channel from it. -/
  | connect (client : ClientId) (endpoint : EndpointId)
  /-- Get a channel from a strategy, holding the lock. -/
  | openChannel (client : ClientId) (strategy : StrategyId)
  /-- Get a channel from the source of a handler. -/
  | supply (handler : HandlerId)
  /-- Get a channel from the source that a client hands to its association. -/
  | clientSupply (client : ClientId)
  /-- Run an operation on a handler; the client is the one that the operation can use. -/
  | execute (handler : HandlerId) (routine : Routine) (client : Option ClientId)
  /-- Run the rest of a script of an operation. -/
  | operate (script : Script) (site : Site)
  /-- Close a client. -/
  | close (client : ClientId) (interrupt : Option TokenName)
  /-- Go on with the teardown of a client. -/
  | teardown (teardown : Teardown) (stage : Teardown.Stage)
  /-- Act like a collaborator. -/
  | behave (behaviour : Behaviour)
  /-- Wait until the operations of a client's association have ended. -/
  | awaitCompletion (client : ClientId)
  /-- Wait until an endpoint is closed. -/
  | awaitClosed (endpoint : EndpointId)
  /-- Wait until the tasks of an endpoint are gone and mark it as closed. -/
  | awaitLocal (endpoint : EndpointId)
  /-- Run the rest of the script of a task that an endpoint owns. -/
  | own (endpoint : EndpointId) (script : List OwnedStep)
  /-- Run a call in a task of its own and wait for it. -/
  | spawn (call : Call)
  /-- Wait for something. -/
  | await (wait : Wait)
  /-- Wait a number of milliseconds for the operations of a handler to end. -/
  | awaitDrained (handler : HandlerId) (ms : Nat)

/-- How an enclosing call goes on. -/
inductive Frame where
  /-- A call for a channel waits for the client's lock. -/
  | getLock (client : ClientId)
  /-- A call for a channel holds the lock while the factory makes a strategy. -/
  | creation (client : ClientId) (endpoint : EndpointId) (plan : StrategyPlan)
  /-- A call for a channel holds the lock while the strategy yields the channel. -/
  | channel (client : ClientId) (strategy : StrategyId) (channel : ChannelId)
  /-- A close waits for the client's lock. -/
  | closeLock (client : ClientId) (interrupt : Option TokenName)
  /-- A close waits for the task of the teardown. -/
  | closeJoin (client : ClientId)
  /-- A close whose teardown was lost waits for the lock to note its failure. -/
  | recordLock (client : ClientId) (error : Error)
  /-- The close of a client that was dropped while open. -/
  | background (client : ClientId)
  /-- A call that keeps a client alive without being a handle of it. -/
  | keep (client : ClientId)
  /-- A stand-alone source is about to yield a channel. -/
  | supplied (channel : ChannelId)
  /-- An operation waits for its channel; it holds its ticket and can be cancelled. -/
  | supply (handler : HandlerId) (operation : OperationId) (routine : Routine)
    (client : Option ClientId)
  /-- An operation is being called, and its body is to run afterwards; it holds its ticket. -/
  | opening (operation : OperationId) (body : Script) (site : Site)
  /-- The body of an operation runs; it holds its ticket and can be cancelled. -/
  | operation (handler : HandlerId) (operation : OperationId)
  /-- The rest of an operation's script after a wait. -/
  | script (rest : Script) (site : Site)
  /-- The rest of an operation's script after a call whose result is noted. -/
  | nested (rest : Script) (site : Site)
  /-- A teardown holds the lock and waits. -/
  | teardown (teardown : Teardown) (pause : Teardown.Pause)
  /-- A collaborator takes its time. -/
  | behaviour (behaviour : Behaviour)
  /-- A recording association is about to answer. -/
  | completion (completed : Bool)
  /-- An endpoint notes that the wait for its closure is over. -/
  | endpointClosed (endpoint : EndpointId)
  /-- A wait for the closure of an endpoint waits for the request. -/
  | localRequest (endpoint : EndpointId)
  /-- A wait for the closure of an endpoint waits for the owned tasks. -/
  | localTasks (endpoint : EndpointId)
  /-- The rest of the script of an owned task after a wait. -/
  | owned (endpoint : EndpointId) (rest : List OwnedStep)

/-- What a task is about to do. -/
inductive Control where
  /-- Make a call. -/
  | call (call : Call)
  /-- Hand a reply to the innermost frame. -/
  | reply (reply : Reply)
  /-- Hand a panic to the innermost frame. -/
  | unwind (content : Panic)
  /-- Tell the innermost frame that the task it waited for was lost. -/
  | lost
  /-- Wait. -/
  | wait (wait : Wait)

/-- How a task has ended. -/
inductive Finish where
  | value (reply : Reply)
  | panicked (content : Panic)
  | aborted

/-- A call in progress. The innermost frame comes first. -/
structure Task where
  id : TaskId
  control : Control
  frames : List Frame
  /-- The client that the task holds a handle of. -/
  handle : Option ClientId
  /-- The endpoint that owns the task. -/
  owner : Option EndpointId

end Remoting
