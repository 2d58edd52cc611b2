import Remoting.Error
import Remoting.Endpoint.State

/-!
# Endpoints that own tasks

A `LocalEndpoint` owns tasks and closes in two phases: a request, which tells every task to finish,
and the moment when a waiter finds that all of them are gone.
-/

namespace Remoting

/-- The number of a task. -/
abbrev TaskId := Nat

/-- An endpoint whose resources are tasks. -/
structure LocalEndpoint where
  name : String
  channel : StateChannel
  /-- Whether the tasks were told to finish. -/
  cancelled : Bool
  /-- The owned tasks that have not ended. -/
  tasks : List TaskId
  /-- The owned tasks in the order in which they hold their places on the list of those to be told
  to finish. A task that ends gives its place to the last one. -/
  listeners : List TaskId
  deriving DecidableEq, Inhabited

namespace LocalEndpoint

/-- A new open endpoint. -/
def fresh (name : String) : LocalEndpoint := ⟨name, .fresh, false, [], []⟩

/-- The state of an endpoint. -/
def state (endpoint : LocalEndpoint) : EndpointState := endpoint.channel.state

/-- Takes over a task. Only an open endpoint does. -/
def spawn (endpoint : LocalEndpoint) (task : TaskId) : Except Error LocalEndpoint :=
  if endpoint.state.isCloseRequested then .error (.closed ("Endpoint " ++ endpoint.name))
  else .ok
    { endpoint with
      tasks := endpoint.tasks ++ [task]
      listeners := endpoint.listeners ++ [task] }

/-- The tasks in the order in which they are told to finish: the last one first, then the others. -/
def notified (endpoint : LocalEndpoint) : List TaskId :=
  endpoint.listeners.getLast?.toList ++ endpoint.listeners.dropLast

/-- Requests the close; tells whether this was the first request. -/
def close (endpoint : LocalEndpoint) : Bool × LocalEndpoint :=
  match endpoint.channel.advance .closing with
  | (true, channel) => (true, { endpoint with channel, cancelled := true })
  | (false, _) => (false, endpoint)

/-- After a close was requested no request is the first one. -/
theorem close_close (endpoint : LocalEndpoint) :
    endpoint.close.2.close = (false, endpoint.close.2) := by
  cases h : endpoint.channel.state <;> simp [close, StateChannel.advance, h, EndpointState.rank]

/-- Removes an element and puts the last one in its place. -/
def swapRemove (tasks : List TaskId) (task : TaskId) : List TaskId :=
  match tasks.getLast? with
  | some last =>
    if last = task then tasks.dropLast
    else if tasks.contains task then
      tasks.dropLast.map fun other => if other = task then last else other
    else tasks
  | none => []

/-- The endpoint after the end of a task. -/
def taskEnded (endpoint : LocalEndpoint) (task : TaskId) : LocalEndpoint :=
  { endpoint with
    tasks := endpoint.tasks.erase task
    listeners := swapRemove endpoint.listeners task }

/-- Whether a close was requested and no owned task is left. -/
def isDrained (endpoint : LocalEndpoint) : Bool :=
  endpoint.state.isCloseRequested && endpoint.tasks.isEmpty

/-- Marks a drained endpoint as closed; tells whether the state has changed. -/
def finish (endpoint : LocalEndpoint) : Bool × LocalEndpoint :=
  let (changed, channel) := endpoint.channel.advance .closed
  (changed, { endpoint with channel })

end LocalEndpoint

end Remoting
