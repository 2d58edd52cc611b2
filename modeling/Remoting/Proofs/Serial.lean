import Remoting.Proofs.History

/-!
# A client that is used by one call at a time

What calls for a channel and closes do when nobody else uses the client meanwhile. A `Serial` client
counts its calls to each collaborator and keeps the plan of what it was given; `get` and `close` are
one call from its start to its end. A `Turn` is what such a call leaves behind: the calls that it
makes to collaborators, how it ends if it ends, and the client after it. The client has at most one
endpoint and one strategy in its life, so that both have the number 0.
-/

namespace Remoting

/-- Whether an entry is a call to a collaborator. -/
def Contact.isCall : Contact → Bool
  | .endpointCreated _ | .strategyCreated _ | .teardown .. | .completionSkipped
  | .endpointSkipped _ => false
  | _ => true

namespace World

/-- The calls of a client to its collaborators. -/
def calls (w : World) (client : ClientId) : List Contact :=
  (w.history client).filter Contact.isCall

theorem calls_of_contacts {w u : World} (h : u.contacts = w.contacts) (client : ClientId) :
    u.calls client = w.calls client := by
  rw [calls, calls, history_of_contacts h]

theorem calls_contact (w : World) (client : ClientId) (call : Contact) :
    (w.contact client call).calls client = w.calls client ++ [call].filter Contact.isCall := by
  rw [calls, history_contact, List.filter_append]
  rfl

end World

/-- How a call that behaves in a given way ends, if it does. -/
def Behaviour.outcome? (behaviour : Behaviour) : Option Ending :=
  if behaviour.never then none else some behaviour.ending

/-- What a client is used for. -/
inductive Use where
  | get
  | close
  deriving DecidableEq

/-- A client that is used by one call at a time. -/
structure Serial where
  config : Config
  association : Association
  factory : FactoryPlan
  /-- The number of calls for an endpoint. -/
  endpointCalls : Nat
  /-- The number of calls for a strategy. -/
  strategyCalls : Nat
  /-- The number of calls for a channel. -/
  channelCalls : Nat
  /-- The endpoint that was made, with its behaviour if it is more than its owned tasks. -/
  endpoint : Option (Option EndpointPlan)
  /-- Whether the endpoint has been asked to close. -/
  asked : Bool
  /-- The strategy that was made. -/
  strategy : Option StrategyPlan
  /-- The outcome for those who close the client again, once it is closed. -/
  outcome : Option (Except Error Unit)

namespace Serial

/-- What one call does. -/
structure Turn where
  /-- The calls to collaborators. -/
  calls : List Contact
  /-- How the call ends, if it does. -/
  result : Option Finish
  /-- The client afterwards. -/
  after : Serial

/-- A turn that goes on after some calls. -/
def Turn.behind (calls : List Contact) (turn : Turn) : Turn :=
  { turn with calls := calls ++ turn.calls }

@[simp] theorem Turn.behind_nil (turn : Turn) : turn.behind [] = turn := rfl

@[simp] theorem Turn.behind_behind (first second : List Contact) (turn : Turn) :
    (turn.behind second).behind first = turn.behind (first ++ second) := by
  simp [Turn.behind]

/-- A client that nobody has used. -/
def fresh (config : Config) (recorder : Option RecorderPlan) (factory : FactoryPlan) : Serial where
  config := config
  association := recorder.elim (.handler 0) .recorder
  factory := factory
  endpointCalls := 0
  strategyCalls := 0
  channelCalls := 0
  endpoint := none
  asked := false
  strategy := none
  outcome := none

/-- The connection of the client. -/
def state (s : Serial) : ClientState :=
  match s.outcome with
  | some outcome => .closed outcome
  | none => .opened (s.endpoint.map fun _ => 0) (s.strategy.map fun _ => 0)

/-- A call ends. -/
def ends (s : Serial) (finish : Finish) : Turn := ⟨[], some finish, s⟩

/-- A call fails. -/
def fails (s : Serial) (error : Error) : Turn := s.ends (.value (.error error))

/-- A call panics. -/
def panics (s : Serial) (content : Panic) : Turn := s.ends (.panicked content)

/-- A call never ends. -/
def hangs (s : Serial) : Turn := ⟨[], none, s⟩

/-! ## Getting a channel -/

/-- The strategy has answered, if it does. -/
def opened (s : Serial) (channel : ChannelId) : Option Ending → Turn
  | none => s.hangs
  | some .succeed => s.ends (.value (.ok (.channel channel true)))
  | some (.fail error) => s.fails error
  | some (.panic content) => s.panics content

/-- The strategy is asked for a channel. -/
def openChannel (s : Serial) (plan : StrategyPlan) : Turn :=
  let next := plan.channel s.channelCalls
  ({ s with channelCalls := s.channelCalls + 1 }.opened next.channel
    next.behaviour.outcome?).behind [.channel 0]

/-- The panic with which the association answers what the factory does to it. -/
def associationPanic (s : Serial) (call : Option AssociationCall) : Option Panic :=
  match s.association, call with
  | .recorder plan, some .shutdown => plan.shutdown
  | .recorder plan, some .shutdownNow => plan.shutdownNow
  | _, _ => none

/-- The factory has answered the call for a strategy, if it does. -/
def created (s : Serial) (plan : StrategyPlan) : Option Ending → Turn
  | none => s.hangs
  | some (.fail error) => s.fails (CreationFailure.toError ⟨.known error, []⟩)
  | some (.panic content) => s.panics content
  | some .succeed =>
    match s.associationPanic plan.onCreate with
    | some content => s.panics content
    | none =>
      match plan.failure with
      | some failure => s.fails failure.toError
      | none => { s with strategy := some plan, channelCalls := 0 }.openChannel plan

/-- The factory is asked for a strategy. An endpoint may panic when it is asked for its name. -/
def connect (s : Serial) (endpoint : Option EndpointPlan) : Turn :=
  match ConnectionSettings.ofConfig s.config with
  | .error error => s.fails error
  | .ok _ =>
    let plan := s.factory.strategy s.strategyCalls
    let s := { s with strategyCalls := s.strategyCalls + 1 }
    Turn.behind [.createStrategy 0] <|
      match endpoint.bind fun plan => plan.name with
      | some content => s.panics content
      | none => s.created plan plan.create.outcome?

/-- The factory is asked for an endpoint. -/
def createEndpoint (s : Serial) : Turn :=
  Turn.behind [.createEndpoint] <|
    if s.factory.plain then { s with endpoint := some none }.connect none
    else
      let plan := s.factory.endpoint s.endpointCalls
      let s := { s with endpointCalls := s.endpointCalls + 1 }
      match plan.create with
      | .fail error => s.fails error
      | .panic content => s.panics content
      | .succeed => { s with endpoint := some (some plan) }.connect (some plan)

/-- A call for a channel begins at the first piece that is missing. -/
def get (s : Serial) : Turn :=
  match s.outcome, s.endpoint, s.strategy with
  | some _, _, _ => s.fails (.closed World.clientName)
  | none, _, some plan => s.openChannel plan
  | none, some endpoint, none => s.connect endpoint
  | none, none, none => s.createEndpoint

/-! ## Closing -/

/-- The teardown notes its outcome. -/
def finish (s : Serial) (outcome : Except Error Unit) : Turn :=
  { s with outcome := some (outcome.mapError Error.clone) }.ends
    (.value (World.closeReply outcome))

/-- The wait for the endpoint is over, if it ever is: only its panic is an outcome. -/
def awaited (s : Serial) : Option Ending → Turn
  | none => s.hangs
  | some (.panic content) => s.finish (.error (.ofPanic content))
  | some _ => s.finish (.ok ())

/-- How the wait for the closure of an endpoint ends. An endpoint that is no more than its tasks is
never closed unless it was asked to. -/
def closure? (s : Serial) (endpoint : Option EndpointPlan) : Option Ending :=
  match endpoint.bind fun plan => plan.await with
  | some behaviour => behaviour.outcome?
  | none => if s.asked then some .succeed else none

/-- The teardown waits for the endpoint. -/
def awaitEndpoint (s : Serial) : Turn :=
  match s.endpoint with
  | none => s.finish (.ok ())
  | some endpoint => (s.awaited (s.closure? endpoint)).behind [.awaitEndpoint 0]

/-- Whether an endpoint goes along when it is asked to close. -/
def obeys : Option EndpointPlan → Bool
  | none => true
  | some plan => plan.close = .succeed

/-- The client after its endpoint was asked to close. -/
def ask (s : Serial) : Serial :=
  { s with asked := s.endpoint.any obeys }

/-- The teardown has closed the strategy, if that ever ends. -/
def closedStrategy (s : Serial) : Option Ending → Turn
  | none => s.hangs
  | some _ =>
    (s.ask.awaitEndpoint).behind
      ((s.endpoint.toList.map fun _ => .closeEndpoint 0) ++
        [.shutdownNow, .awaitCompletion, .release])

/-- The teardown closes the strategy. -/
def closeStrategy (s : Serial) : Turn :=
  match s.strategy with
  | none => s.closedStrategy (some .succeed)
  | some plan => (s.closedStrategy plan.close.outcome?).behind [.closeStrategy 0]

/-- A close tears an open client down, and tells the outcome of a closed one. -/
def close (s : Serial) : Turn :=
  match s.outcome with
  | some outcome => s.ends (.value (World.closeReply (outcome.mapError Error.clone)))
  | none => { s with outcome := some (.ok ()) }.closeStrategy.behind [.shutdown]

/-! ## Turns -/

/-- One call. -/
def turn (s : Serial) : Use → Turn
  | .get => s.get
  | .close => s.close

/-- Calls one after the other, each from its start to its end; after one that does not end there is
none. -/
def play (s : Serial) : List Use → List Turn
  | [] => []
  | use :: uses =>
    s.turn use :: if (s.turn use).result.isSome then (s.turn use).after.play uses else []

/-- What a teardown takes out of the client. -/
def taken (s : Serial) (interrupt : Option TokenName) : Teardown :=
  ⟨0, s.endpoint.map fun _ => 0, s.strategy.map fun _ => 0, interrupt⟩

theorem taken_endpoint (s : Serial) (interrupt : Option TokenName) :
    (s.taken interrupt).endpoint = s.endpoint.map fun _ => 0 := rfl

theorem taken_strategy (s : Serial) (interrupt : Option TokenName) :
    (s.taken interrupt).strategy = s.strategy.map fun _ => 0 := rfl

/-- What a teardown yet does from a stage on. -/
def stage (s : Serial) : Teardown.Stage → Turn
  | .shutdown => s.closeStrategy.behind [.shutdown]
  | .closeStrategy => s.closeStrategy
  | .closeEndpoint => s.closedStrategy (some .succeed)
  | .shutdownNow => s.awaitEndpoint.behind [.shutdownNow, .awaitCompletion, .release]
  | .drain => s.awaitEndpoint.behind [.awaitCompletion, .release]
  | .release => s.awaitEndpoint.behind [.release]
  | .awaitEndpoint => s.awaitEndpoint
  | .finish outcome => s.finish outcome

end Serial

end Remoting
