import Remoting.World.Parts

/-!
# The life of tasks

A task starts on the queue of a running world and ends with a value, a panic or an abort. With its
end it gives back what it held: its place at an endpoint, and its handle of a client. The last
handle of an open client makes a report and starts a close in the background.
-/

namespace Remoting.World

/-! ## Starting -/

/-- Adds a task that is ready to run; yields its number. -/
def addTask (w : World) (control : Control) (frames : List Frame) (handle : Option ClientId)
    (owner : Option EndpointId) : TaskId × World :=
  let id := w.nextTask
  let task : Task := ⟨id, control, frames, handle, owner⟩
  let w := { w with nextTask := id + 1, tasks := w.tasks ++ [task] }
  (id, w.signal (.spawned id))

/-- Notes how a task has ended. -/
def noteFinish (w : World) (task : TaskId) (finish : Finish) : World :=
  { w with finished := (task, finish) :: w.finished }

/-- Starts a task; yields its number. Where nothing runs any more the task is lost at once. -/
def spawn (w : World) (control : Control) (frames : List Frame) (handle : Option ClientId)
    (owner : Option EndpointId) : TaskId × World :=
  if w.running then w.addTask control frames handle owner
  else
    let id := w.nextTask
    (id, { w with nextTask := id + 1 }.noteFinish id .aborted)

/-- Starts a task that an endpoint owns. -/
def spawnOwned (w : World) (endpoint : EndpointId) (script : List OwnedStep) :
    Except Error TaskId × World :=
  match w.local? endpoint with
  | none => (.error (.closed "Endpoint"), w)
  | some owned =>
    match owned.spawn w.nextTask with
    | .error e => (.error e, w)
    | .ok owned =>
      let w := w.setLocal endpoint owned
      let (task, w) := w.spawn (.call (.own endpoint script)) [] none (some endpoint)
      (.ok task, w)

/-- Leaves the close of a client that was dropped while open to a helper. -/
def strand (w : World) (client : ClientId) : World :=
  { w with stranded := w.stranded ++ [client] }

/-- Starts the close of a client that was dropped while open. Where nothing runs any more the close
is left to a helper. -/
def spawnBackgroundClose (w : World) (client : ClientId) : World :=
  if w.running then (w.addTask (.call (.close client none)) [.background client] none none).2
  else w.strand client

/-! ## Dropping handles -/

/-- What happens to reports about a client. -/
def leakReporter (w : World) (client : ClientId) : LeakReporter :=
  match w.configOf? client with
  | some cell => cell.config.leakReporter
  | none => .log

/-- Reports a client that was dropped while open; yields the panic of a reporter that panics. -/
def reportLeak (w : World) (client : ClientId) (trace : AllocationTrace) : World × Option Panic :=
  let report : LeakReport := ⟨client + 1, trace⟩
  match w.leakReporter client with
  | .log => (w.warn (.leaked report), none)
  | .collect => (w.emit (.leak report), none)
  | .panicking message => (w.emit (.leak report), some (.text message))

/-- What follows from the loss of a handle of a client. If it was the last handle and the client is
open, the leak is reported and the client closed in the background, unless reporting panics. -/
def dropHandle (w : World) (client : ClientId) : World × Option Panic :=
  match w.clients[client]? with
  | none => (w, none)
  | some c =>
    if w.hasHandle client || c.closed then (w, none)
    else
      match w.reportLeak client c.trace with
      | (w, some content) => (w, some content)
      | (w, none) => (w.spawnBackgroundClose client, none)

/-! ## Ending -/

/-- Takes a task off the list of tasks. -/
def removeTask (w : World) (task : TaskId) : World :=
  { w with tasks := w.tasks.filter (·.id ≠ task) }

/-- Drops the handle that a task held. A panic that comes up replaces the result of the task. -/
def dropHeld (w : World) (finish : Finish) : Option ClientId → World × Finish
  | none => (w, finish)
  | some client =>
    match w.dropHandle client with
    | (w, some content) => (w, .panicked content)
    | (w, none) => (w, finish)

/-- Takes a task off the list of the endpoint that owns it. -/
def leaveOwner (w : World) (task : TaskId) : Option EndpointId → World
  | none => w
  | some endpoint => w.leaveEndpoint task endpoint

/-- Ends a task. -/
def finishTask (w : World) (task : TaskId) (finish : Finish) : World :=
  match w.task? task with
  | none => w
  | some t =>
    let (w, finish) := (w.removeTask task).dropHeld finish t.handle
    ((w.leaveOwner task t.owner).noteFinish task finish).signal (.finished task)

/-- What a task gives back when it stops before what it does next. -/
def dropControl (w : World) (task : TaskId) : Control → World
  | .wait (.lock client) => w.leaveLock task client
  | .call (.connect client _) | .call (.openChannel client _) => w.leaveLock task client
  | .call (.teardown teardown _) => w.leaveLock task teardown.client
  | _ => w

/-- What a task gives back when a call in progress is dropped. -/
def dropFrame (w : World) (task : TaskId) : Frame → World
  | .creation client _ _ | .channel client _ _ => w.leaveLock task client
  | .supply handler operation _ _ | .operation handler operation =>
    w.endOperation handler operation
  | .opening operation _ site => w.endOperation site.handler operation
  | .teardown teardown (.drain _) =>
    (w.releaseForTeardown teardown.client).leaveLock task teardown.client
  | .teardown teardown _ => w.leaveLock task teardown.client
  | _ => w

/-- What a task gives back when everything that it does is dropped, the innermost call first. -/
def dropFrames (w : World) (task : TaskId) (frames : List Frame) : World :=
  frames.foldl (fun w frame => w.dropFrame task frame) w

/-- Gives back what a task holds. A close in the background that has not begun goes to a helper. -/
def dropTask (w : World) (t : Task) : World :=
  match t.control, t.frames with
  | .call (.close client _), [.background _] => w.strand client
  | control, frames => (w.dropControl t.id control).dropFrames t.id frames

/-- Stops a task wherever it is. -/
def abortTask (w : World) (task : TaskId) : World :=
  match w.task? task with
  | none => w
  | some t => (w.dropTask t).finishTask task .aborted

/-- Stops everything, the oldest task first; nothing can be started afterwards. -/
def shutdown (w : World) : World :=
  w.tasks.foldl (fun w t => w.abortTask t.id) { w with running := false }

end Remoting.World
