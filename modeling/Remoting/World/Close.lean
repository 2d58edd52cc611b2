import Remoting.World.Execute

/-!
# Closing a client

The first close to get the client's lock makes the client closed and starts the teardown as a task
of its own, which takes over the lock. Every close waits for the outcome of that one teardown. The
steps of the teardown run in order, and only the wait for the endpoint can fail it.

A collaborator that answers with a future counts as called when that future is first polled. That is
in the poll that reaches its step, unless the teardown was interrupted by then and looks no further.
-/

namespace Remoting.World

/-- Asks for the lock of a client in order to close it. -/
def close (w : World) (task : TaskId) (client : ClientId) (interrupt : Option TokenName)
    (frames : List Frame) : World :=
  (w.requestLock task client).await task (.lock client) (.closeLock client interrupt :: frames)

/-- The reply of a close with a given outcome. -/
def closeReply (outcome : Except Error Unit) : Reply :=
  outcome.map fun _ => .closed

/-- Makes a client closed and hands its teardown to a task of its own, whose number it yields. -/
def handOver (w : World) (client : ClientId) (teardown : Teardown) : TaskId × World :=
  let (joined, w) :=
    (w.markClosed client).spawn (.call (.teardown teardown .shutdown)) [] none none
  (joined, w.contact client (.teardown joined teardown))

/-- Goes on with a close that has the lock. -/
def lockedClose (w : World) (task : TaskId) (client : ClientId) (interrupt : Option TokenName)
    (frames : List Frame) : World :=
  match w.clients[client]?.map fun c => c.state with
  | some (ClientState.opened endpoint strategy) =>
    let (joined, w) := w.handOver client ⟨client, endpoint, strategy, interrupt⟩
    let w := if w.running then w.giveLock client joined else w.leaveLock task client
    w.await task (.join joined) (.closeJoin client :: frames)
  | some (ClientState.closed outcome) =>
    (w.leaveLock task client).answer task (closeReply (outcome.mapError Error.clone)) frames
  | none => (w.leaveLock task client).answer task (.error (.closed clientName)) frames

/-- The failure of a close whose teardown was lost. -/
def lostTeardown : Error :=
  .other "Close of management client failed: task # was cancelled"

/-- Asks for the lock of a client in order to note that its teardown was lost. -/
def closeLost (w : World) (task : TaskId) (client : ClientId) (frames : List Frame) : World :=
  ((w.swallow client .join lostTeardown).requestLock task client).await task (.lock client)
    (.recordLock client lostTeardown :: frames)

/-- Notes a failure at a closed client, leaves the lock and answers the failure. -/
def recordFailure (w : World) (task : TaskId) (client : ClientId) (error : Error)
    (frames : List Frame) : World :=
  ((w.recordOutcome client (.error error.clone)).leaveLock task client).answer task
    (.error error) frames

/-- Ends the close of a client that was dropped while open. -/
def endBackground (w : World) (task : TaskId) (client : ClientId) (reply : Reply)
    (frames : List Frame) : World :=
  let w :=
    match reply with
    | .ok _ => w
    | .error e => w.warn (.closeFailed (client + 1) e)
  w.answer task (.ok .unit) frames

/-! ## Teardown -/

/-- Logs the panic of a teardown step, if there was one. -/
def swallowPanic (w : World) (client : ClientId) (step : TeardownStep) (content : Option Panic) :
    World :=
  match content with
  | some content => w.swallow client step (.ofPanic content)
  | none => w

/-- Whether a teardown was interrupted. -/
def interrupted (w : World) (teardown : Teardown) : Bool :=
  teardown.interrupt.any fun token => w.cancelled.contains token

/-- The error of a teardown that was interrupted while it waited for an endpoint. It asks for the
name of the endpoint, and a panic there becomes the error. -/
def interruption (w : World) (endpoint : EndpointId) : Error :=
  match w.endpointName endpoint with
  | .ok name => .interrupted ("Interrupted while waiting for endpoint " ++ name ++ " to close")
  | .error content => .ofPanic content

/-- Requests the close of an endpoint during a teardown. An endpoint that cannot be closed in this
way counts as closed. Only a debug line tells of it, and with the name of the endpoint: debug lines
are taken to be switched off, so that nobody asks for the name here. `interruption` asks for it at
every log level. -/
def closeEndpoint (w : World) (client : ClientId) (endpoint : EndpointId) : World :=
  let w := w.contact client (.closeEndpoint endpoint)
  match w.endpointPlan? endpoint with
  | none => w.closeLocal endpoint
  | some plan =>
    let w := w.emit .endpointClose
    match plan.close with
    | .succeed => w.closeLocal endpoint
    | .panic content => w.swallowPanic client .closeEndpoint (some content)
    | .fail (.unsupportedOperation _) => w
    | .fail error => w.swallow client .closeEndpoint error

/-- How long the completion of a client's operations is waited for. -/
def completionTimeout (w : World) (client : ClientId) : Duration :=
  match w.configOf? client with
  | some cell => cell.config.completionTimeout
  | none => .ofMillis 0

/-- Runs a stage of a teardown. -/
def runStage (w : World) (task : TaskId) (teardown : Teardown) (stage : Teardown.Stage)
    (frames : List Frame) : World :=
  let client := teardown.client
  let next (w : World) (stage : Teardown.Stage) : World :=
    w.enter task (.teardown teardown stage) frames
  match stage with
  | .shutdown =>
    let (w, content) := (w.contact client .shutdown).shutdownAssociation client
    next (w.swallowPanic client .shutdown content) .closeStrategy
  | .closeStrategy =>
    match teardown.strategy with
    | none => next w .closeEndpoint
    | some strategy =>
      ((w.contact client (.closeStrategy strategy)).emit .strategyClose).enter task
        (.behave (w.strategyPlan strategy).close)
        (.teardown teardown (.strategy strategy) :: frames)
  | .closeEndpoint =>
    match teardown.endpoint with
    | none => next w .shutdownNow
    | some endpoint => next (w.closeEndpoint client endpoint) .shutdownNow
  | .shutdownNow =>
    let (w, content) := (w.contact client .shutdownNow).shutdownAssociationNow client
    next (w.swallowPanic client .shutdownNow content) .drain
  | .drain =>
    if w.interrupted teardown then next (w.contact client .completionSkipped) .release
    else
      (w.contact client .awaitCompletion).enter task (.awaitCompletion client)
        (.teardown teardown (.drain ((w.completionTimeout client).deadline w.now)) :: frames)
  | .release => next (w.releaseForTeardown client) .awaitEndpoint
  | .awaitEndpoint =>
    match teardown.endpoint with
    | none => next w (.finish (.ok ()))
    | some endpoint =>
      if w.interrupted teardown then
        next (w.contact client (.endpointSkipped endpoint))
          (.finish (.error (w.interruption endpoint)))
      else
        (w.contact client (.awaitEndpoint endpoint)).enter task (.awaitClosed endpoint)
          (.teardown teardown .endpoint :: frames)
  | .finish outcome =>
    ((w.recordOutcome client outcome).leaveLock task client).answer task (closeReply outcome)
      frames

/-- Waits until the operations of a client's association have ended. -/
def awaitCompletion (w : World) (task : TaskId) (client : ClientId) (frames : List Frame) : World :=
  let limit := w.completionTimeout client
  match w.association? client with
  | some (.handler handler) =>
    w.await task (.drained handler (limit.deadline w.now)) frames
  | some (.recorder plan) =>
    (w.emit (.handlerAwait limit)).enter task (.behave plan.await)
      (.completion plan.completed :: frames)
  | none => w.answer task (.ok (.flag true)) frames

/-- Logs that operations have not drained in time. -/
def drainTimeout (w : World) (client : ClientId) : World :=
  w.swallow client .awaitCompletion
    (.timeout ("operations still active after " ++ (w.completionTimeout client).describe))

/-- Closes the last channel of a strategy that was closed. -/
def strategyClosed (w : World) (strategy : StrategyId) : World :=
  let w :=
    match w.strategies[strategy]?.bind fun s => s.current with
    | some channel => w.closeChannel channel
    | none => w
  w.emit .strategyClosed

/-- The stage after a wait of a teardown that has ended with a reply. -/
def pauseEnded (w : World) (teardown : Teardown) (pause : Teardown.Pause) (reply : Reply) :
    Teardown.Stage × World :=
  match pause, reply with
  | .strategy strategy, .ok _ => (.closeEndpoint, w.strategyClosed strategy)
  | .strategy _, .error e => (.closeEndpoint, w.swallow teardown.client .closeStrategy e)
  | .drain _, .ok (.flag false) => (.release, w.drainTimeout teardown.client)
  | .drain _, _ => (.release, w)
  | .endpoint, _ => (.finish (.ok ()), w)

/-- The stage after a wait of a teardown that has ended with a panic. -/
def pausePanicked (w : World) (teardown : Teardown) (pause : Teardown.Pause) (content : Panic) :
    Teardown.Stage × World :=
  match pause with
  | .strategy _ =>
    (.closeEndpoint, w.swallowPanic teardown.client .closeStrategy (some content))
  | .drain _ => (.release, w.swallowPanic teardown.client .awaitCompletion (some content))
  | .endpoint => (.finish (.error (.ofPanic content)), w)

end Remoting.World
