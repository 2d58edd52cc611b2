import Remoting.Task
import Remoting.Leak
import Remoting.TeardownStep
import Remoting.Connection
import Remoting.Config.Release

/-!
# The journal of a run

What can be seen of a run besides the results of its calls: events, which collaborators and scripts
note, log lines, and the calls that clients make to their collaborators.
-/

namespace Remoting

/-- What a collaborator or a script notes. -/
inductive Event where
  | mark (value : Datum)
  /-- The result of a call made inside an operation. -/
  | result (reply : Reply)
  /-- The number of operations of a handler. -/
  | active (count : Nat)
  /-- Whether an owned task was told to finish. -/
  | requested (told : Bool)
  /-- Something that a cleanup action did. -/
  | disposal (event : Release.Event)
  | createEndpoint (name : String)
  | createStrategy (config : Config) (connection : ConnectionSettings)
  | endpointClose
  | endpointAwait
  | endpointClosed
  | strategyChannel
  | strategyClose
  | strategyClosed
  | handlerShutdown
  | handlerShutdownNow
  | handlerAwait (limit : Duration)
  | handlerCompletion
  | handlerChannelClosed (channel : ChannelId) (cause : Option Error)
  /-- A report about a client that was dropped while open. -/
  | leak (report : LeakReport)

/-- The text of an event that is nothing but a text. -/
def Event.text? : Event → Option String
  | .createEndpoint name => some ("factory.create_endpoint " ++ name)
  | .endpointClose => some "endpoint.close_async"
  | .endpointAwait => some "endpoint.await_closed"
  | .endpointClosed => some "endpoint.closed"
  | .strategyChannel => some "strategy.channel"
  | .strategyClose => some "strategy.close"
  | .strategyClosed => some "strategy.closed"
  | .handlerShutdown => some "handler.shutdown"
  | .handlerShutdownNow => some "handler.shutdown_now"
  | .handlerAwait limit => some ("handler.await_completion " ++ limit.describe)
  | .handlerCompletion => some "handler.completion"
  | .leak report => some ("leak " ++ report.describe)
  | .disposal (.ran id) => some ("disposer " ++ id)
  | _ => none

/-- A line of the log. Clients have the numbers that users see. -/
inductive LogLine where
  /-- A failure that a teardown tolerates. -/
  | swallowed (client : Nat) (step : TeardownStep) (error : Error)
  /-- A client that was dropped while open. -/
  | leaked (report : LeakReport)
  /-- A failure of the close of such a client. -/
  | closeFailed (client : Nat) (error : Error)
  /-- An operation that could not be told that it was cancelled. -/
  | undelivered (operation : OperationId)

/-- The text of a log line. -/
def LogLine.text : LogLine → String
  | .swallowed client step error =>
    "WARN client=" ++ toString client ++ " step=" ++ step.describe ++
      " Ignoring failure during close: " ++ error.message
  | .leaked report =>
    "ERROR client=" ++ toString report.client ++ " location=" ++ report.trace.site ++
      " Leaked management client: " ++ report.describe
  | .closeFailed client error =>
    "WARN Failed to close leaked management client #" ++ toString client ++ ": " ++ error.message
  | .undelivered operation =>
    "WARN Operation " ++ toString operation ++ " finished before its cancellation was delivered"

/-- A call of a client to one of its collaborators, what such a call has yielded, or that a teardown
was interrupted and has left a call out. -/
inductive Contact where
  | createEndpoint
  | endpointCreated (endpoint : EndpointId)
  | createStrategy (endpoint : EndpointId)
  | strategyCreated (strategy : StrategyId)
  | channel (strategy : StrategyId)
  /-- The teardown was handed to a task. -/
  | teardown (task : TaskId) (teardown : Teardown)
  | shutdown
  | closeStrategy (strategy : StrategyId)
  | closeEndpoint (endpoint : EndpointId)
  | shutdownNow
  | awaitCompletion
  | completionSkipped
  | release
  | awaitEndpoint (endpoint : EndpointId)
  | endpointSkipped (endpoint : EndpointId)
  deriving DecidableEq

end Remoting
