import Remoting.World.Close

/-!
# Steps of a task

A task that is being run goes on step by step: it makes a call, hands a reply or a panic to the
innermost enclosing call, or looks whether a wait is over. `step?` is one such step; it has no
result when the task is gone or its wait goes on.
-/

namespace Remoting.World

/-- Makes a call. -/
def makeCall (w : World) (task : TaskId) (call : Call) (frames : List Frame) : World :=
  match call with
  | .getChannel client => w.getChannel task client frames
  | .connect client endpoint => w.connect task client endpoint frames
  | .openChannel client strategy => w.openChannel task client strategy frames
  | .supply handler => w.supply task handler frames
  | .clientSupply client => w.clientSupply task client frames
  | .execute handler routine client => w.execute task handler routine client frames
  | .operate script site => w.operate task script site frames
  | .close client interrupt => w.close task client interrupt frames
  | .teardown teardown stage => w.runStage task teardown stage frames
  | .behave behaviour => w.behave task behaviour frames
  | .awaitCompletion client => w.awaitCompletion task client frames
  | .awaitClosed endpoint => w.awaitClosed task endpoint frames
  | .awaitLocal endpoint => w.awaitLocal task endpoint frames
  | .own endpoint script => w.runOwned task endpoint script frames
  | .spawn call =>
    let (joined, w) := w.spawn (.call call) [] none none
    w.await task (.join joined) frames
  | .await wait => w.await task wait frames
  | .awaitDrained handler ms => w.await task (.drained handler (w.after ms)) frames

/-- Hands a reply to the innermost enclosing call. -/
def resume (w : World) (task : TaskId) (frame : Frame) (reply : Reply) (frames : List Frame) :
    World :=
  match frame with
  | .getLock client => w.lockedChannel task client frames
  | .creation client endpoint plan => w.created task client endpoint plan reply frames
  | .channel client strategy channel => w.opened task client strategy channel reply frames
  | .closeLock client interrupt => w.lockedClose task client interrupt frames
  | .closeJoin _ => w.answer task reply frames
  | .recordLock client error => w.recordFailure task client error frames
  | .background client => w.endBackground task client reply frames
  | .keep _ => w.answer task reply frames
  | .supplied channel => w.supplied task channel reply frames
  | .supply handler operation routine client =>
    w.startOperation task handler operation routine client reply frames
  | .opening operation body site => w.startBody task operation body site frames
  | .operation handler operation => w.endExecute task handler operation reply frames
  | .script rest site => w.enter task (.operate rest site) frames
  | .nested rest site => w.nestedDone task rest site reply frames
  | .teardown teardown pause =>
    let (stage, w) := w.pauseEnded teardown pause reply
    w.enter task (.teardown teardown stage) frames
  | .behaviour behaviour => w.enter task (.behave behaviour) frames
  | .completion completed =>
    (w.emit .handlerCompletion).answer task (.ok (.flag completed)) frames
  | .endpointClosed _ => (w.emit .endpointClosed).answer task reply frames
  | .localRequest endpoint => w.await task (.tasksGone endpoint) (.localTasks endpoint :: frames)
  | .localTasks endpoint => w.finishClosure task endpoint frames
  | .owned endpoint rest => w.enter task (.own endpoint rest) frames

/-- Lets a panic pass an enclosing call. A teardown catches it; every other call gives back what it
holds. -/
def unwind (w : World) (task : TaskId) (frame : Frame) (content : Panic) (frames : List Frame) :
    World :=
  match frame with
  | .teardown teardown pause =>
    let (stage, w) := w.pausePanicked teardown pause content
    w.enter task (.teardown teardown stage) frames
  | frame => (w.dropFrame task frame).goto task (.unwind content) frames

/-- What a task does once a wait is over; nothing while the wait goes on. -/
def ready? (w : World) (task : TaskId) : Wait → Option Control
  | .sleep deadline => if deadline ≤ w.now then some (.reply (.ok .unit)) else none
  | .forever => none
  | .lock client => if w.ownsLock task client then some (.reply (.ok .unit)) else none
  | .drained handler deadline =>
    (w.handlers[handler]?.bind fun h => h.tracker.drained? deadline w.now).map fun drained =>
      .reply (.ok (.flag drained))
  | .state endpoint allowed =>
    ((w.local? endpoint).map LocalEndpoint.state).bind fun state =>
      if allowed.contains state then some (.reply (.ok (.state state))) else none
  | .closeRequested endpoint =>
    if (w.local? endpoint).any fun e => e.state.isCloseRequested then some (.reply (.ok .unit))
    else none
  | .tasksGone endpoint =>
    if (w.local? endpoint).any LocalEndpoint.isDrained then some (.reply (.ok .unit)) else none
  | .finishOrder endpoint =>
    if (w.local? endpoint).any fun e => e.cancelled then some (.reply (.ok .unit)) else none
  | .join joined =>
    (w.finish? joined).map fun
      | .value reply => .reply reply
      | .panicked content => .unwind content
      | .aborted => .lost

/-- One step of a task. -/
def step? (w : World) (task : TaskId) : Option World :=
  match w.task? task with
  | none => none
  | some t =>
    match t.control, t.frames with
    | .call call, frames => some (w.makeCall task call frames)
    | .reply reply, frame :: frames => some (w.resume task frame reply frames)
    | .reply reply, [] => some (w.finishTask task (.value (reply.map w.present)))
    | .unwind content, frame :: frames => some (w.unwind task frame content frames)
    | .unwind content, [] => some (w.finishTask task (.panicked content))
    | .lost, .closeJoin client :: frames => some (w.closeLost task client frames)
    | .lost, frame :: frames => some ((w.dropFrame task frame).goto task .lost frames)
    | .lost, [] => some (w.finishTask task .aborted)
    | .wait wait, frames => (w.ready? task wait).map fun control => w.goto task control frames

end Remoting.World
