import Remoting.World.Life

/-!
# Adding clients and handlers to a world

A new client is open, has no endpoint and no strategy, and is in the registry of open clients. Its
requests go through a handler of its own that gets channels from it, or through an association that
records what it is told.
-/

namespace Remoting

/-- Where the configuration of a new client comes from. -/
inductive ConfigSource where
  /-- A configuration of its own. -/
  | own (config : Config)
  /-- The configuration of another client. -/
  | shared (client : ClientId)

/-- A client to be made. -/
structure ClientSpec where
  config : ConfigSource
  /-- Cleanup actions to be added to the configuration. -/
  disposers : List Disposer
  /-- The behaviour of a recording association, which takes the place of a handler. -/
  recorder : Option RecorderPlan
  factory : FactoryPlan

/-- A client that is open and has no endpoint and no strategy. -/
def Client.fresh (config : Nat) (association : Association) (factory : FactoryPlan)
    (trace : AllocationTrace) : Client where
  config := config
  association := association
  factory := factory
  endpointCalls := 0
  strategyCalls := 0
  strategies := []
  lock := .free
  state := .opened none none
  closed := false
  held := true
  trace := trace

namespace World

/-- Adds a handler; yields its number. -/
def addHandler (w : World) (supplier : Supplier) : HandlerId × World :=
  (w.handlers.length, { w with handlers := w.handlers ++ [⟨.empty, supplier⟩] })

/-- Adds a configuration; yields its number. -/
def addConfig (w : World) (config : Config) : Nat × World :=
  (w.configs.length, { w with configs := w.configs ++ [⟨config, .fresh⟩] })

/-- Adds a cleanup action to a configuration; yields the result. -/
def addDisposer (w : World) (config : Nat) (disposer : Disposer) : Except Error Unit × World :=
  match w.configs[config]? with
  | none => (.ok (), w)
  | some cell =>
    let done := cell.release.add disposer
    (done.result,
      { w with configs := w.configs.modify config fun c => { c with release := done.after } })

/-- The number of the configuration of a client. -/
def configIndex (w : World) (client : ClientId) : Nat :=
  match w.clients[client]? with
  | some c => c.config
  | none => 0

/-- Finds or adds the configuration of a new client; yields its number. -/
def addSource (w : World) : ConfigSource → Nat × World
  | .own config => w.addConfig config
  | .shared other => (w.configIndex other, w)

/-- Adds several cleanup actions to a configuration. -/
def addDisposers (w : World) (config : Nat) (disposers : List Disposer) : World :=
  disposers.foldl (fun w disposer => (w.addDisposer config disposer).2) w

/-- Adds what routes the operations of a client. -/
def addAssociation (w : World) (client : ClientId) : Option RecorderPlan → Association × World
  | some plan => (.recorder plan, w)
  | none =>
    let (handler, w) := w.addHandler (.client client)
    (.handler handler, w)

/-- Adds a client, which is open. -/
def placeClient (w : World) (c : Client) : World :=
  { w with
    clients := w.clients ++ [c]
    registry := w.registry.track (w.clients.length + 1) c.trace }

/-- Makes a client at a given place. -/
def addClient (w : World) (spec : ClientSpec) (trace : AllocationTrace) : World :=
  let client := w.clients.length
  let (config, w) := w.addSource spec.config
  let w := w.addDisposers config spec.disposers
  let (association, w) := w.addAssociation client spec.recorder
  w.placeClient (.fresh config association spec.factory trace)

end World

end Remoting
