import Remoting.World.Step

/-!
# Polling a task

A poll runs a task until it ends or has to wait. It first looks whether a call that the task is
inside of is to be cut short, the outermost one first: an operation that was cancelled, or a
teardown that was interrupted in one of its waits. What is inside of such a call is dropped. A poll
that leaves a teardown waiting for operations past its time limit ends that wait.
-/

namespace Remoting.World

/-- What a task does in place of what is inside an enclosing call, if that call is to be cut
short. While an operation is being called nothing waits, so no poll begins inside of `opening`. -/
def cutShort? (w : World) : Frame → Option Control
  | .supply handler operation _ _ | .operation handler operation =>
    (w.cancellation? handler operation).map fun reason => .reply (.error reason)
  | .opening operation _ site =>
    (w.cancellation? site.handler operation).map fun reason => .reply (.error reason)
  | .teardown teardown (.drain _) =>
    if w.interrupted teardown then some (.call (.teardown teardown .release)) else none
  | .teardown teardown .endpoint =>
    if w.interrupted teardown then
      some (.call (.teardown teardown
        (.finish (teardown.endpoint.elim (.ok ()) fun e => .error (w.interruption e)))))
    else none
  | _ => none

/-- What has to be dropped in a call that is left, and how the task goes on. -/
structure Cut where
  /-- The frames inside the call, the innermost first. -/
  inner : List Frame
  /-- The frame of the call. -/
  frame : Frame
  control : Control
  /-- The frames around the call. -/
  outer : List Frame

/-- The outermost enclosing call that is to be cut short. -/
def cut? (w : World) : List Frame → Option Cut
  | [] => none
  | frame :: outer =>
    match w.cut? outer with
    | some cut => some { cut with inner := frame :: cut.inner }
    | none => (w.cutShort? frame).map fun control => ⟨[], frame, control, outer⟩

/-- Leaves a call from within. An operation ends with it, while a teardown keeps what it holds. -/
def leaveCall (w : World) (task : TaskId) (control : Control) (cut : Cut) : World :=
  let w := (w.dropControl task control).dropFrames task cut.inner
  let w :=
    match cut.frame with
    | .teardown .. => w
    | frame => w.dropFrame task frame
  w.goto task cut.control cut.outer

/-- Cuts a task's calls short where that is due. -/
def cutTask (w : World) (task : TaskId) : World :=
  match w.task? task with
  | none => w
  | some t =>
    match w.cut? t.frames with
    | some cut => w.leaveCall task t.control cut
    | none => w

/-- Runs a task for at most a number of steps. -/
def run (w : World) (task : TaskId) : Nat → World
  | 0 => w
  | fuel + 1 =>
    match w.step? task with
    | some w => w.run task fuel
    | none => w

/-- The wait of a teardown for operations whose time limit has passed. -/
def overdue? (w : World) : List Frame → Option Cut
  | [] => none
  | frame :: outer =>
    match frame with
    | .teardown teardown (.drain deadline) =>
      if deadline ≤ w.now then some ⟨[], frame, .call (.teardown teardown .release), outer⟩
      else none
    | _ => (w.overdue? outer).map fun cut => { cut with inner := frame :: cut.inner }

/-- Ends the wait of a teardown for operations if its time limit has passed. -/
def expireDrain (w : World) (task : TaskId) : World :=
  match w.task? task with
  | none => w
  | some t =>
    match w.overdue? t.frames with
    | none => w
    | some cut =>
      let w := w.leaveCall task t.control cut
      match cut.frame with
      | .teardown teardown _ => w.drainTimeout teardown.client
      | _ => w

/-- Polls a task; each of the two runs makes at most the given number of steps. -/
def poll (w : World) (fuel : Nat) (task : TaskId) : World :=
  (((w.cutTask task).run task fuel).expireDrain task).run task fuel

/-- Whether a task would get on if it were polled again. -/
def canProceed (w : World) (task : TaskId) : Bool :=
  match w.task? task with
  | none => false
  | some t =>
    (w.cut? t.frames).isSome || (w.overdue? t.frames).isSome ||
      match t.control with
      | .wait wait => (w.ready? task wait).isSome
      | _ => true

end Remoting.World
