import Remoting.Behaviour
import Remoting.Error.Creation
import Remoting.Operation.Tracker

/-!
# Collaborators of a client

The behaviour of everything that a client calls: the factory, the endpoints and strategies it makes,
the source of channels of a stand-alone handler, and a channel association that only records what it
is told. Elements of a list serve the calls in turn, and the last element repeats.
-/

namespace Remoting

/-- The behaviour of a call that yields a channel. -/
structure ChannelPlan where
  behaviour : Behaviour
  channel : ChannelId
  deriving DecidableEq

instance : Inhabited ChannelPlan := ⟨.immediate, 0⟩

/-- The behaviour of an endpoint and of the call that makes it. -/
structure EndpointPlan where
  create : Ending
  /-- For each task that the endpoint owns from the start, how many milliseconds it takes to finish
  once told to. -/
  tasks : List Nat
  /-- The panic with which the endpoint answers when asked for its name. -/
  name : Option Panic
  close : Ending
  /-- How the wait for closure behaves, unless it is the wait for the owned tasks. -/
  await : Option Behaviour
  deriving DecidableEq

instance : Inhabited EndpointPlan := ⟨.succeed, [], none, .succeed, none⟩

/-- What a factory does to the association while it makes a strategy. -/
inductive AssociationCall where
  | shutdown
  | shutdownNow
  deriving DecidableEq

/-- The behaviour of a strategy and of the call that makes it. -/
structure StrategyPlan where
  create : Behaviour
  /-- What is done to the association before the strategy is handed over. -/
  onCreate : Option AssociationCall
  /-- The failure in place of handing over the strategy. -/
  failure : Option CreationFailure
  channels : List ChannelPlan
  close : Behaviour
  deriving DecidableEq

instance : Inhabited StrategyPlan := ⟨.immediate, none, none, [], .immediate⟩

/-- The behaviour of a factory. -/
structure FactoryPlan where
  endpoints : List EndpointPlan
  strategies : List StrategyPlan
  /-- Whether endpoints are made by the default of all factories. -/
  plain : Bool
  deriving DecidableEq, Inhabited

namespace FactoryPlan

/-- The plan of an endpoint call of a given number. -/
def endpoint (plan : FactoryPlan) (call : Nat) : EndpointPlan :=
  behaviourAt plan.endpoints default call

/-- The plan of a strategy call of a given number. -/
def strategy (plan : FactoryPlan) (call : Nat) : StrategyPlan :=
  behaviourAt plan.strategies default call

end FactoryPlan

/-- The plan of a channel call of a given number. -/
def StrategyPlan.channel (plan : StrategyPlan) (call : Nat) : ChannelPlan :=
  behaviourAt plan.channels default call

/-- The behaviour of a channel association that records what it is told. -/
structure RecorderPlan where
  shutdown : Option Panic
  shutdownNow : Option Panic
  await : Behaviour
  /-- The answer of the wait for completion. -/
  completed : Bool
  deriving DecidableEq

instance : Inhabited RecorderPlan := ⟨none, none, .immediate, true⟩

end Remoting
