import Remoting.World

/-!
# What can be done to the parts of a world

The operations of handlers, endpoints, associations and configurations, lifted to the world that
holds them. Each notes what it does in the journal and announces what waiting tasks have to look at
again.
-/

namespace Remoting.World

/-! ## Handlers -/

/-- Ends an operation: drops its ticket and its receiver. A call that returns early, or is dropped,
drops them the other way round. Nobody looks in between, since a poll and a drop are over before
another task goes on, so one order serves for both. -/
def endOperation (w : World) (handler : HandlerId) (operation : OperationId) : World :=
  (w.modifyHandler handler fun h =>
    { h with tracker := (h.tracker.dropTicket operation).dropReceiver operation }).signal
      (.count handler)

/-- Registers an operation. -/
def registerOperation (w : World) (handler : HandlerId) : Except Error OperationId × World :=
  match w.handlers[handler]? with
  | none => (.error (.closed "ManagementChannelHandler"), w)
  | some h =>
    let (result, tracker) := h.tracker.register
    let w := w.modifyHandler handler fun h => { h with tracker }
    match result with
    | .ok id => (.ok id, w.signal (.count handler))
    | .error e => (.error e, w)

/-- Notes the channel that an operation runs on. -/
def bindOperation (w : World) (handler : HandlerId) (operation : OperationId)
    (channel : ChannelId) : World :=
  w.modifyHandler handler fun h => { h with tracker := h.tracker.bind operation channel }

/-- The reason that an operation was cancelled for, if it was. -/
def cancellation? (w : World) (handler : HandlerId) (operation : OperationId) : Option Error :=
  w.handlers[handler]?.bind fun h => h.tracker.cancellation? operation

/-- Does to a handler's operations what a cancellation does; yields how many were cancelled. -/
def cancelOperations (w : World) (handler : HandlerId)
    (cancel : Tracker → Tracker.Cancellation) : Nat × World :=
  match w.handlers[handler]? with
  | none => (0, w)
  | some h =>
    let done := cancel h.tracker
    let w := w.modifyHandler handler fun h => { h with tracker := done.after }
    let w := done.undelivered.foldl (fun w id => w.warn (.undelivered id)) w
    (done.matched.length, done.matched.foldl (fun w id => w.signal (.cancelled handler id)) w)

/-- Lets a handler admit no more operations. -/
def shutdownHandler (w : World) (handler : HandlerId) : World :=
  w.modifyHandler handler fun h => { h with tracker := h.tracker.stop }

/-- Lets a handler admit no more operations and cancel those in flight. -/
def shutdownHandlerNow (w : World) (handler : HandlerId) : World :=
  ((w.shutdownHandler handler).cancelOperations handler
    (·.cancelAll (.cancelled "management client is closing"))).2

/-- The number of a channel as a UUID. -/
def channelUuid (channel : ChannelId) : String :=
  let digits := Nat.toDigits 16 (channel % Nat.pow 2 128)
  let padded := List.replicate (32 - digits.length) '0' ++ digits
  let part (start size : Nat) : String := String.ofList ((padded.drop start).take size)
  part 0 8 ++ "-" ++ part 8 4 ++ "-" ++ part 12 4 ++ "-" ++ part 16 4 ++ "-" ++ part 20 12

/-- The reason that the operations on a closed channel are cancelled for. -/
def closureReason (channel : ChannelId) (cause : Option Error) : Error :=
  .channelClosed ("channel " ++ channelUuid channel ++ " closed" ++
    match cause with
    | some cause => ": " ++ cause.message
    | none => "")

/-- Tells a handler that a channel has closed. -/
def handlerChannelClosed (w : World) (handler : HandlerId) (channel : ChannelId)
    (cause : Option Error) : World :=
  (w.cancelOperations handler (·.cancelChannel channel (closureReason channel cause))).2

/-! ## Endpoints -/

/-- Adds an endpoint; yields its number. -/
def addEndpoint (w : World) (cell : EndpointCell) : EndpointId × World :=
  (w.endpoints.length, { w with endpoints := w.endpoints ++ [cell] })

/-- The owned part of an endpoint. -/
def local? (w : World) (endpoint : EndpointId) : Option LocalEndpoint :=
  w.endpoints[endpoint]?.map fun cell => cell.endpoint

/-- The behaviour of an endpoint that is more than its owned tasks. -/
def endpointPlan? (w : World) (endpoint : EndpointId) : Option EndpointPlan :=
  w.endpoints[endpoint]?.bind fun cell => cell.plan

/-- The name of an endpoint, or the panic with which it answers when asked for it. -/
def endpointName (w : World) (endpoint : EndpointId) : Except Panic String :=
  match (w.endpointPlan? endpoint).bind fun plan => plan.name with
  | some content => .error content
  | none => .ok (((w.local? endpoint).map fun e => e.name).getD "")

/-- Changes the owned part of an endpoint. -/
def setLocal (w : World) (endpoint : EndpointId) (owned : LocalEndpoint) : World :=
  w.modifyEndpoint endpoint fun cell => { cell with endpoint := owned }

/-- Changes the published state of an endpoint. Only a change of the state is announced. -/
def setChannel (w : World) (endpoint : EndpointId) (owned : LocalEndpoint)
    (channel : StateChannel) : World :=
  let w := w.setLocal endpoint { owned with channel }
  if channel.version = owned.channel.version then w else w.signal (.state endpoint)

/-- Announces that the tasks of an endpoint are gone if they are. -/
def signalDrained (w : World) (endpoint : EndpointId) : World :=
  if (w.local? endpoint).any LocalEndpoint.isDrained then w.signal (.tasksGone endpoint) else w

/-- Takes a task off the list of its endpoint. -/
def leaveEndpoint (w : World) (task : TaskId) (endpoint : EndpointId) : World :=
  match w.local? endpoint with
  | none => w
  | some owned => (w.setLocal endpoint (owned.taskEnded task)).signalDrained endpoint

/-- Requests the close of what an endpoint owns. -/
def closeLocal (w : World) (endpoint : EndpointId) : World :=
  match w.local? endpoint with
  | none => w
  | some owned =>
    match owned.close with
    | (false, _) => w
    | (true, closed) =>
      let w := ((w.setLocal endpoint closed).signal (.state endpoint)).signalDrained endpoint
      owned.notified.foldl (fun w task => w.signal (.finishOrder task)) w

/-- Marks an endpoint whose tasks are gone as closed. -/
def finishLocal (w : World) (endpoint : EndpointId) : World :=
  match w.local? endpoint with
  | none => w
  | some owned =>
    match owned.finish with
    | (false, _) => w
    | (true, closed) => (w.setLocal endpoint closed).signal (.state endpoint)

/-! ## Strategies -/

/-- The behaviour of a strategy. -/
def strategyPlan (w : World) (strategy : StrategyId) : StrategyPlan :=
  match w.strategies[strategy]? with
  | some cell => cell.plan
  | none => default

/-! ## Clients -/

/-- What routes the operations of a client. -/
def association? (w : World) (client : ClientId) : Option Association :=
  w.clients[client]?.map fun c => c.association

/-- Lets the association of a client admit no more operations; yields its panic. -/
def shutdownAssociation (w : World) (client : ClientId) : World × Option Panic :=
  match w.association? client with
  | some (.handler handler) => (w.shutdownHandler handler, none)
  | some (.recorder plan) => (w.emit .handlerShutdown, plan.shutdown)
  | none => (w, none)

/-- Lets the association of a client cancel its operations; yields its panic. -/
def shutdownAssociationNow (w : World) (client : ClientId) : World × Option Panic :=
  match w.association? client with
  | some (.handler handler) => (w.shutdownHandlerNow handler, none)
  | some (.recorder plan) => (w.emit .handlerShutdownNow, plan.shutdownNow)
  | none => (w, none)

/-- Tells the association of a client that a channel has closed. -/
def associationChannelClosed (w : World) (client : ClientId) (channel : ChannelId)
    (cause : Option Error) : World :=
  match w.association? client with
  | some (.handler handler) => w.handlerChannelClosed handler channel cause
  | some (.recorder _) => w.emit (.handlerChannelClosed channel cause)
  | none => w

/-- The open clients by increasing id, each with where it was created. -/
def unclosed (w : World) : List (Nat × AllocationTrace) :=
  w.registry.snapshot

/-- Takes a client off the registry of open clients. -/
def untrack (w : World) (client : ClientId) : World :=
  { w with registry := w.registry.untrack (client + 1) }

/-- Makes a client closed without an outcome yet. -/
def markClosed (w : World) (client : ClientId) : World :=
  (w.modifyClient client fun c => { c with state := .closed (.ok ()), closed := true }).untrack
    client

/-- Notes the outcome of a close at a closed client. -/
def recordOutcome (w : World) (client : ClientId) (outcome : Except Error Unit) : World :=
  w.modifyClient client fun c =>
    match c.state with
    | .closed _ => { c with state := .closed (outcome.mapError Error.clone) }
    | .opened .. => c

/-! ## Configurations -/

/-- Releases a configuration; yields the result. -/
def releaseConfig (w : World) (config : Nat) : Except Error Unit × World :=
  match w.configs[config]? with
  | none => (.ok (), w)
  | some cell =>
    let done := cell.release.run
    let w := { w with configs := w.configs.modify config fun c => { c with release := done.after } }
    (done.result, done.events.foldl (fun w e => w.emit (.disposal e)) w)

/-- Releases the configuration of a client during its teardown, which tolerates a failure. -/
def releaseForTeardown (w : World) (client : ClientId) : World :=
  match w.clients[client]? with
  | none => w
  | some c =>
    match (w.contact client .release).releaseConfig c.config with
    | (.ok (), w) => w
    | (.error e, w) => w.swallow client .releaseConfiguration e

end Remoting.World
