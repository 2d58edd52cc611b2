/-!
# Steps of a teardown

The steps of a client's close whose failures are tolerated, in the order in which they run.
-/

namespace Remoting

/-- A step of a teardown that may fail without failing the close. -/
inductive TeardownStep where
  /-- Stopping the admission of new operations. -/
  | shutdown
  /-- Closing the connection strategy and its channel. -/
  | closeStrategy
  /-- Requesting the asynchronous close of the endpoint. -/
  | closeEndpoint
  /-- Cancelling the operations in flight. -/
  | shutdownNow
  /-- Waiting for the cancelled operations to drain. -/
  | awaitCompletion
  /-- Releasing the resources of the configuration. -/
  | releaseConfiguration
  /-- Joining the task that runs the teardown. -/
  | join
  deriving DecidableEq, Inhabited

namespace TeardownStep

/-- All steps in order. -/
def all : List TeardownStep :=
  [.shutdown, .closeStrategy, .closeEndpoint, .shutdownNow, .awaitCompletion,
   .releaseConfiguration, .join]

/-- The name of a step in diagnostics. -/
def label : TeardownStep → String
  | .shutdown => "Shutdown"
  | .closeStrategy => "CloseStrategy"
  | .closeEndpoint => "CloseEndpoint"
  | .shutdownNow => "ShutdownNow"
  | .awaitCompletion => "AwaitCompletion"
  | .releaseConfiguration => "ReleaseConfiguration"
  | .join => "Join"

/-- The name of a step in log lines. -/
def describe : TeardownStep → String
  | .shutdown => "shutdown"
  | .closeStrategy => "close strategy"
  | .closeEndpoint => "close endpoint"
  | .shutdownNow => "shutdown now"
  | .awaitCompletion => "await completion"
  | .releaseConfiguration => "release configuration"
  | .join => "join teardown"

end TeardownStep

end Remoting
