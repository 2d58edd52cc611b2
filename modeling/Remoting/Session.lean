import Remoting.Schedule
import Remoting.World.Client

/-!
# Sessions

A session drives a world step by step. An action calls into the world at once or starts a named
task; then the tasks run until all of them wait. The report of a step says what the action answered,
which named tasks have ended with what, and what the journal has gained.
-/

namespace Remoting

/-- Something that a user does. -/
inductive Action where
  | nothing
  /-- Start a task that makes a call. -/
  | start (name : String) (call : Call)
  /-- Move an endpoint's state on. -/
  | advanceState (endpoint : EndpointId) (next : EndpointState)
  /-- Begin to watch an endpoint's state. -/
  | subscribe (endpoint : EndpointId)
  /-- Look at an endpoint's state. -/
  | look (endpoint : EndpointId) (receiver : Nat)
  /-- Start a task that an endpoint owns. -/
  | spawnOwned (endpoint : EndpointId) (name : String) (script : List OwnedStep)
  /-- Stop a task that an endpoint owns. -/
  | killOwned (name : String)
  | closeEndpoint (endpoint : EndpointId)
  | endpointName (endpoint : EndpointId)
  /-- Register a number of operations. -/
  | register (handler : HandlerId) (count : Nat)
  | bind (handler : HandlerId) (operation : OperationId) (channel : ChannelId)
  | stop (handler : HandlerId)
  | cancelAll (handler : HandlerId) (reason : Error)
  | cancelChannel (handler : HandlerId) (channel : ChannelId) (reason : Error)
  | dropTicket (handler : HandlerId) (operation : OperationId)
  | dropReceiver (handler : HandlerId) (operation : OperationId)
  | pollReceiver (handler : HandlerId) (operation : OperationId)
  /-- Shut down a handler and cancel its operations. -/
  | shutdownNow (handler : HandlerId)
  /-- Tell a handler that a channel has closed. -/
  | channelClosed (handler : HandlerId) (channel : ChannelId) (cause : Option Error)
  | getChannel (client : ClientId) (name : String)
  | execute (client : ClientId) (name : String) (routine : Routine)
  | close (client : ClientId) (name : String) (interrupt : Option TokenName)
  /-- Ask what a client is. -/
  | identify (client : ClientId)
  /-- Drop the user's handle of a client. -/
  | drop (client : ClientId)
  | interrupt (token : TokenName)
  | isInterrupted (token : TokenName)
  | closeChannel (channel : ChannelId)
  /-- Let one of the strategies that were made for a client tell that a channel has closed. -/
  | fire (client : ClientId) (strategy : Nat) (channel : ChannelId) (cause : Option Error)
  | addDisposer (client : ClientId) (disposer : Disposer)
  | releaseConfig (client : ClientId)
  | unclosed
  /-- Use the source of channels of a client's association. -/
  | supply (client : ClientId) (name : String)
  /-- Use the handler of a client, whether the client exists or not. -/
  | handlerExecute (client : ClientId) (name : String) (routine : Routine)
  | handlerShutdown (client : ClientId)
  | handlerShutdownNow (client : ClientId)

/-- What an action answers. -/
inductive Answer where
  | nothing
  /-- There is no such thing. -/
  | unknown
  | unknownClient
  | noStrategy
  /-- The user's handle of the client is gone. -/
  | dropped
  /-- A task was started at an endpoint. -/
  | started
  | reply (reply : Reply)
  | panicked (content : Panic)
  | flag (value : Bool)
  | number (value : Nat)
  | text (value : String)
  | registered (results : List (Except Error OperationId))
  | receiver (state : Receiver)
  | look (changed : Bool) (state : EndpointState)
  | identity (client : Nat) (endpoint : String) (thread : Option String)
  | listing (clients : List (Nat × Option String))
  | several (answers : List Answer)

/-- A step of a session. -/
inductive Session.Step where
  /-- Let time pass. -/
  | advance (ms : Nat)
  /-- Stop a named task. -/
  | abort (name : String)
  | act (action : Action)
  /-- Do several things before any task runs. -/
  | batch (actions : List Action)

/-- What a step has brought. -/
structure Session.Report where
  answer : Answer
  /-- The named tasks that have ended. -/
  done : List (String × Finish)
  events : List Event
  log : List LogLine
  /-- The names of those tasks of endpoints that have ended so far. -/
  ended : List String
  /-- The world after the step. -/
  world : World

/-- A world that is being driven. -/
structure Session where
  schedule : Schedule
  /-- The named tasks whose end has not been reported. -/
  named : List (String × TaskId)
  /-- The tasks of endpoints by their names. -/
  owned : List (String × TaskId)

namespace Session

/-- How many steps a task may take at a time, and how often tasks may run, before a session gives
up. -/
def patience : Nat := 100000

/-- A session in a given world. -/
def ofWorld (world : World) : Session := ⟨⟨world, [], []⟩, [], []⟩

/-- The world of a session. -/
def world (s : Session) : World := s.schedule.world

/-- Replaces the world of a session. -/
def setWorld (s : Session) (world : World) : Session :=
  { s with schedule := { s.schedule with world } }

/-- Lets the tasks run until all of them wait. -/
def settle (s : Session) : Session :=
  { s with schedule := (s.schedule.deliverAll none).settle patience patience }

/-! ## Actions -/

/-- Changes the world and gives an answer. -/
def answering (s : Session) (answer : Answer) (world : World) : Answer × Session :=
  (answer, s.setWorld world)

/-- Starts a named task. -/
def start (s : Session) (name : String) (handle : Option ClientId) (call : Call) :
    Answer × Session :=
  let (task, world) := s.world.spawn (.call call) [] handle none
  (.nothing, { s.setWorld world with named := s.named ++ [(name, task)] })

/-- Does something with an existing client. -/
def withClient (s : Session) (client : ClientId) (act : Client → Answer × Session) :
    Answer × Session :=
  match s.world.clients[client]? with
  | some c => act c
  | none => (.unknownClient, s)

/-- Does something with a client that the user has a handle of. -/
def withHandle (s : Session) (client : ClientId) (act : Client → Answer × Session) :
    Answer × Session :=
  s.withClient client fun c => if c.held then act c else (.dropped, s)

/-- Does something with the handler of a client. -/
def withHandler (s : Session) (client : ClientId) (act : HandlerId → Answer × Session) :
    Answer × Session :=
  s.withClient client fun c =>
    match c.association with
    | .handler handler => act handler
    | .recorder _ => (.unknown, s)

/-- Registers a number of operations. -/
def register (world : World) (handler : HandlerId) :
    Nat → List (Except Error OperationId) × World
  | 0 => ([], world)
  | count + 1 =>
    let (result, world) := world.registerOperation handler
    let (results, world) := register world handler count
    (result :: results, world)

/-- The result of a cleanup of a configuration. -/
def unitReply (result : Except Error Unit) : Answer :=
  .reply (result.map fun _ => .unit)

/-- The tracker of a handler. -/
def tracker (s : Session) (handler : HandlerId) : Tracker :=
  match s.world.handlers[handler]? with
  | some h => h.tracker
  | none => .empty

/-- Drops a part of an operation if it is there. -/
def dropPart (s : Session) (handler : HandlerId) (present : Bool) (drop : Tracker → Tracker) :
    Answer × Session :=
  s.answering (.flag present) <|
    (s.world.modifyHandler handler fun h => { h with tracker := drop h.tracker }).signal
      (.count handler)

/-- Performs an action on the state of an endpoint. -/
def onState (s : Session) (endpoint : EndpointId)
    (act : StateChannel → Answer × StateChannel) : Answer × Session :=
  match s.world.local? endpoint with
  | none => (.unknown, s)
  | some owned =>
    let (answer, channel) := act owned.channel
    s.answering answer (s.world.setChannel endpoint owned channel)

/-- Drops the user's handle of a client. -/
def dropClient (s : Session) (client : ClientId) : Answer × Session :=
  match (s.world.modifyClient client fun c => { c with held := false }).dropHandle client with
  | (world, some content) => s.answering (.panicked content) world
  | (world, none) => s.answering .nothing world

/-- The open clients, each with the thread that has created it. -/
def unclosed (world : World) : List (Nat × Option String) :=
  world.unclosed.map fun (client, trace) => (client, trace.thread)

/-- Performs an action. -/
def act (s : Session) : Action → Answer × Session
  | .nothing => (.nothing, s)
  | .start name call => s.start name none call
  | .advanceState endpoint next =>
    s.onState endpoint fun channel =>
      let (changed, channel) := channel.advance next
      (.flag changed, channel)
  | .subscribe endpoint =>
    s.onState endpoint fun channel =>
      let (receiver, channel) := channel.receiver
      (.number receiver, channel)
  | .look endpoint receiver =>
    s.onState endpoint fun channel =>
      match channel.look? receiver with
      | some (changed, state, channel) => (.look changed state, channel)
      | none => (.unknown, channel)
  | .spawnOwned endpoint name script =>
    match s.world.spawnOwned endpoint script with
    | (.ok task, world) =>
      (.started,
        { s.setWorld world with owned := s.owned.filter (·.1 ≠ name) ++ [(name, task)] })
    | (.error e, world) => s.answering (.reply (.error e)) world
  | .killOwned name =>
    match s.owned.lookup name with
    | some task => s.answering .nothing (s.world.abortTask task)
    | none => (.unknown, s)
  | .closeEndpoint endpoint => s.answering (.reply (.ok .unit)) (s.world.closeLocal endpoint)
  | .endpointName endpoint =>
    match s.world.endpointName endpoint with
    | .ok name => (.text name, s)
    | .error content => (.panicked content, s)
  | .register handler count =>
    let (results, world) := register s.world handler count
    s.answering (.registered results) world
  | .bind handler operation channel =>
    s.answering .nothing (s.world.bindOperation handler operation channel)
  | .stop handler => s.answering .nothing (s.world.shutdownHandler handler)
  | .cancelAll handler reason =>
    let (count, world) := s.world.cancelOperations handler (·.cancelAll reason)
    s.answering (.number count) world
  | .cancelChannel handler channel reason =>
    let (count, world) := s.world.cancelOperations handler (·.cancelChannel channel reason)
    s.answering (.number count) world
  | .dropTicket handler operation =>
    s.dropPart handler ((s.tracker handler).tickets.contains operation) (·.dropTicket operation)
  | .dropReceiver handler operation =>
    s.dropPart handler ((s.tracker handler).receiver? operation).isSome (·.dropReceiver operation)
  | .pollReceiver handler operation =>
    match (s.tracker handler).pollReceiver operation with
    | (some receiver, tracker) =>
      s.answering (.receiver receiver) (s.world.modifyHandler handler fun h => { h with tracker })
    | (none, _) => (.unknown, s)
  | .shutdownNow handler => s.answering .nothing (s.world.shutdownHandlerNow handler)
  | .channelClosed handler channel cause =>
    s.answering .nothing (s.world.handlerChannelClosed handler channel cause)
  | .getChannel client name =>
    s.withHandle client fun _ => s.start name (some client) (.getChannel client)
  | .execute client name routine =>
    s.withHandle client fun _ => s.withHandler client fun handler =>
      s.start name (some client) (.execute handler routine (some client))
  | .close client name interrupt =>
    s.withHandle client fun _ => s.start name (some client) (.close client interrupt)
  | .identify client =>
    s.withHandle client fun c =>
      let endpoint := ((s.world.configOf? client).map fun cell => cell.config.endpointName).getD ""
      (.identity (client + 1) endpoint c.trace.thread, s)
  | .drop client =>
    s.withClient client fun c => if c.held then s.dropClient client else (.nothing, s)
  | .interrupt token =>
    if s.world.cancelled.contains token then (.nothing, s)
    else
      s.answering .nothing
        (World.signal { s.world with cancelled := token :: s.world.cancelled } (.token token))
  | .isInterrupted token => (.flag (s.world.cancelled.contains token), s)
  | .closeChannel channel => s.answering (.reply (.ok .unit)) (s.world.closeChannel channel)
  | .fire client strategy channel cause =>
    s.withClient client fun c =>
      if strategy < c.strategies.length then
        s.answering .nothing (s.world.associationChannelClosed client channel cause)
      else (.noStrategy, s)
  | .addDisposer client disposer =>
    s.withClient client fun c =>
      let (result, world) := s.world.addDisposer c.config disposer
      s.answering (unitReply result) world
  | .releaseConfig client =>
    s.withClient client fun c =>
      let (result, world) := s.world.releaseConfig c.config
      s.answering (unitReply result) world
  | .unclosed => (.listing (unclosed s.world), s)
  | .supply client name => s.withClient client fun _ => s.start name none (.clientSupply client)
  | .handlerExecute client name routine =>
    s.withHandler client fun handler =>
      s.start name none (.execute handler routine.withoutClient none)
  | .handlerShutdown client =>
    s.withHandler client fun handler => s.answering .nothing (s.world.shutdownHandler handler)
  | .handlerShutdownNow client =>
    s.withHandler client fun handler => s.answering .nothing (s.world.shutdownHandlerNow handler)

/-- Performs several actions one after the other. -/
def actAll (s : Session) : List Action → List Answer × Session
  | [] => ([], s)
  | action :: actions =>
    let (answer, s) := s.act action
    let (answers, s) := s.actAll actions
    (answer :: answers, s)

/-! ## Steps -/

/-- Stops a named task that has not ended. -/
def abort (s : Session) (name : String) : Answer × Session :=
  match s.named.reverse.lookup name with
  | some task => s.answering .nothing (s.world.abortTask task)
  | none => (.unknown, s)

/-- Does what a step says and lets the tasks run. -/
def perform (s : Session) : Step → Answer × Session
  | .advance ms =>
    let schedule := s.schedule.advanceTo patience (s.world.now + ms) patience
    (.nothing, { s with schedule })
  | .abort name =>
    let (answer, s) := s.abort name
    (answer, s.settle)
  | .act action =>
    let (answer, s) := s.act action
    (answer, s.settle)
  | .batch actions =>
    let (answers, s) := s.actAll actions
    (.several answers, s.settle)

/-- Whether a task has ended. -/
def hasEnded (s : Session) (task : TaskId) : Bool :=
  (s.world.finish? task).isSome

/-- Takes the report out of a session. -/
def takeReport (s : Session) (answer : Answer) : Report × Session :=
  let report : Report :=
    { answer
      done := s.named.filterMap fun (name, task) => (s.world.finish? task).map (name, ·)
      events := s.world.events
      log := s.world.log
      ended := (s.owned.filter fun entry => s.hasEnded entry.2).map Prod.fst
      world := s.world }
  let named := s.named.filter fun entry => !s.hasEnded entry.2
  (report, { s.setWorld { s.world with events := [], log := [] } with named })

/-- Does a step and reports what it has brought. -/
def step (s : Session) (step : Step) : Report × Session :=
  let (answer, s) := s.perform step
  s.takeReport answer

/-- Does several steps and reports on each. -/
def steps (s : Session) : List Step → List Report × Session
  | [] => ([], s)
  | first :: rest =>
    let (report, s) := s.step first
    let (reports, s) := s.steps rest
    (report :: reports, s)

/-! ## The end of a session -/

/-- Stops everything. -/
def shutdown (s : Session) : Session :=
  { s with schedule := ⟨{ s.world.shutdown with signals := [] }, [], []⟩ }

/-- Lets time pass until nothing is left to happen. -/
def exhaust (s : Session) : Nat → Session
  | 0 => s
  | stops + 1 =>
    match s.schedule.nextTime? with
    | none => s
    | some time =>
      exhaust { s with schedule := (s.schedule.moveTo time).settle patience patience } stops

/-- Lets helpers close the clients that were left to them. -/
def runHelpers (s : Session) : Session :=
  let clients := s.world.stranded
  let world := { s.world with running := true, stranded := [] }
  let world := clients.foldl World.spawnBackgroundClose world
  (s.setWorld world).settle.exhaust patience

/-- How a session ends. -/
inductive Finale where
  /-- Everything is stopped, then the first client is dropped. -/
  | dropOutside
  /-- The first client is dropped, then everything is stopped before another task runs. -/
  | dropAndShutdown

/-- Ends a session and reports what has happened since its last step. -/
def finish (s : Session) (finale : Finale) : Report :=
  let s :=
    match finale with
    | .dropOutside => (s.shutdown.act (.drop 0)).2
    | .dropAndShutdown => (s.act (.drop 0)).2.shutdown
  (s.runHelpers.takeReport .nothing).1

/-- Makes a call when nothing else runs any more; yields how it has ended. -/
def callAlone (s : Session) (call : Call) : Option Finish × Session :=
  let (task, world) := s.world.addTask (.call call) [] none none
  let s := (s.setWorld world).settle
  (s.world.finish? task, s)

/-- Closes the first client a number of times when nothing else runs any more, and reports on each
close. -/
def closeAlone (s : Session) : Nat → List (Option Finish × Report) × Session
  | 0 => ([], s)
  | closes + 1 =>
    let (finish, s) := s.callAlone (.close 0 none)
    let (report, s) := s.takeReport .nothing
    let (rest, s) := s.closeAlone closes
    ((finish, report) :: rest, s)

end Session

end Remoting
