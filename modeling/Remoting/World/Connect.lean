import Remoting.World.Acting

/-!
# Getting a channel

A client connects when its first channel is asked for, under its lock. It starts at the first piece
that is missing: the endpoint, then the strategy over the endpoint, then the channel of the
strategy. What was made stays with the client even if a later piece fails. On every way out the lock
is left.
-/

namespace Remoting.World

/-- The name of clients in errors about their use after the close. -/
def clientName : String := "ManagementClient"

/-- Asks for the lock of a client and, once it is granted, for a channel. -/
def getChannel (w : World) (task : TaskId) (client : ClientId) (frames : List Frame) : World :=
  (w.requestLock task client).await task (.lock client) (.getLock client :: frames)

/-- Ends a call for a channel with a reply. -/
def endChannel (w : World) (task : TaskId) (client : ClientId) (reply : Reply)
    (frames : List Frame) : World :=
  (w.leaveLock task client).answer task reply frames

/-- Ends a call for a channel with a panic. -/
def panicChannel (w : World) (task : TaskId) (client : ClientId) (content : Panic)
    (frames : List Frame) : World :=
  (w.leaveLock task client).goto task (.unwind content) frames

/-- Keeps an endpoint with the client that it was made for. -/
def keepEndpoint (w : World) (client : ClientId) (endpoint : EndpointId) : World :=
  (w.contact client (.endpointCreated endpoint)).modifyClient client fun c =>
    { c with state := .opened (some endpoint) none }

/-- Starts the tasks that an endpoint owns from the start: each is told to finish and then takes a
number of milliseconds. -/
def startOwned (w : World) (endpoint : EndpointId) (tasks : List Nat) : World :=
  tasks.foldl (fun w ms => (w.spawnOwned endpoint [.shutdown, .sleep ms]).2) w

/-- Lets the factory of a client make an endpoint. -/
def createEndpoint (w : World) (task : TaskId) (client : ClientId) (c : Client) (name : String)
    (frames : List Frame) : World :=
  let w := w.contact client .createEndpoint
  let fresh := LocalEndpoint.fresh name
  if c.factory.plain then
    let (endpoint, w) := w.addEndpoint ⟨fresh, some client, none⟩
    (w.keepEndpoint client endpoint).enter task (.connect client endpoint) frames
  else
    let plan := c.factory.endpoint c.endpointCalls
    let w := (w.modifyClient client fun c => { c with endpointCalls := c.endpointCalls + 1 }).emit
      (.createEndpoint name)
    match plan.create with
    | .fail error => w.endChannel task client (.error error) frames
    | .panic content => w.panicChannel task client content frames
    | .succeed =>
      let (endpoint, w) := w.addEndpoint ⟨fresh, some client, some plan⟩
      ((w.startOwned endpoint plan.tasks).keepEndpoint client endpoint).enter task
        (.connect client endpoint) frames

/-- Goes on with a call for a channel that has the lock. -/
def lockedChannel (w : World) (task : TaskId) (client : ClientId) (frames : List Frame) : World :=
  match w.clients[client]?, w.configOf? client with
  | some c, some cell =>
    match c.state with
    | .closed _ => w.endChannel task client (.error (.closed clientName)) frames
    | .opened _ (some strategy) => w.enter task (.openChannel client strategy) frames
    | .opened (some endpoint) none => w.enter task (.connect client endpoint) frames
    | .opened none none => w.createEndpoint task client c cell.config.endpointName frames
  | _, _ => w.endChannel task client (.error (.closed clientName)) frames

/-- Lets the factory of a client make a strategy over an endpoint. -/
def connect (w : World) (task : TaskId) (client : ClientId) (endpoint : EndpointId)
    (frames : List Frame) : World :=
  match w.clients[client]?, w.configOf? client with
  | some c, some cell =>
    match ConnectionSettings.ofConfig cell.config with
    | .error e => w.endChannel task client (.error e) frames
    | .ok settings =>
      let plan := c.factory.strategy c.strategyCalls
      let w := (w.contact client (.createStrategy endpoint)).modifyClient client fun c =>
        { c with strategyCalls := c.strategyCalls + 1 }
      match w.endpointName endpoint with
      | .error content => w.panicChannel task client content frames
      | .ok _ =>
        (w.emit (.createStrategy cell.config settings)).enter task (.behave plan.create)
          (.creation client endpoint plan :: frames)
  | _, _ => w.endChannel task client (.error (.closed clientName)) frames

/-- What a factory does to the association before it hands over a strategy; yields the panic of the
association. -/
def callAssociation (w : World) (client : ClientId) : Option AssociationCall → World × Option Panic
  | none => (w, none)
  | some .shutdown => w.shutdownAssociation client
  | some .shutdownNow => w.shutdownAssociationNow client

/-- Keeps a strategy with the client that it was made for. -/
def keepStrategy (w : World) (client : ClientId) (endpoint : EndpointId) (plan : StrategyPlan) :
    StrategyId × World :=
  let strategy := w.strategies.length
  let cell : StrategyCell := ⟨client, plan, 0, none⟩
  let w := { w with strategies := w.strategies ++ [cell] }
  let w := w.contact client (.strategyCreated strategy)
  (strategy, w.modifyClient client fun c =>
    { c with
      state := .opened (some endpoint) (some strategy)
      strategies := c.strategies ++ [strategy] })

/-- Goes on with a call for a channel after the factory has taken its time to make a strategy. -/
def created (w : World) (task : TaskId) (client : ClientId) (endpoint : EndpointId)
    (plan : StrategyPlan) (reply : Reply) (frames : List Frame) : World :=
  match reply with
  | .error e => w.endChannel task client (.error (CreationFailure.toError ⟨.known e, []⟩)) frames
  | .ok _ =>
    match w.callAssociation client plan.onCreate with
    | (w, some content) => w.panicChannel task client content frames
    | (w, none) =>
      match plan.failure with
      | some failure => w.endChannel task client (.error failure.toError) frames
      | none =>
        let (strategy, w) := w.keepStrategy client endpoint plan
        w.enter task (.openChannel client strategy) frames

/-- Asks a strategy for a channel. -/
def openChannel (w : World) (task : TaskId) (client : ClientId) (strategy : StrategyId)
    (frames : List Frame) : World :=
  match w.strategies[strategy]? with
  | none => w.endChannel task client (.error (.closed clientName)) frames
  | some cell =>
    let plan := cell.plan.channel cell.calls
    let w := w.contact client (.channel strategy)
    let w := (w.modifyStrategy strategy fun s => { s with calls := s.calls + 1 }).emit
      .strategyChannel
    w.enter task (.behave plan.behaviour) (.channel client strategy plan.channel :: frames)

/-- Goes on with a call for a channel after the strategy has taken its time. -/
def opened (w : World) (task : TaskId) (client : ClientId) (strategy : StrategyId)
    (channel : ChannelId) (reply : Reply) (frames : List Frame) : World :=
  match reply with
  | .error e => w.endChannel task client (.error e) frames
  | .ok _ =>
    (w.modifyStrategy strategy fun s => { s with current := some channel }).endChannel task client
      (.ok (.handle channel)) frames

end Remoting.World
