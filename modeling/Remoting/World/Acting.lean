import Remoting.World.Life

/-!
# Collaborators and endpoints in action

How a task acts like a collaborator, waits for the closure of an endpoint, and runs the script of a
task that an endpoint owns. Every function here takes the task, the frames of the enclosing calls,
and says with `goto` what the task does next.
-/

namespace Remoting

/-- What a task does after a call that ends in a given way. -/
def Ending.control (value : Value) : Ending → Control
  | .succeed => .reply (.ok value)
  | .fail error => .reply (.error error)
  | .panic content => .unwind content

namespace World

/-- The time at which a number of milliseconds from now is over. -/
def after (w : World) (ms : Nat) : Nat :=
  (Duration.ofMillis ms).deadline w.now

/-- Lets a task hand a reply to its innermost frame. -/
def answer (w : World) (task : TaskId) (reply : Reply) (frames : List Frame) : World :=
  w.goto task (.reply reply) frames

/-- Lets a task make a call. -/
def enter (w : World) (task : TaskId) (call : Call) (frames : List Frame) : World :=
  w.goto task (.call call) frames

/-- Lets a task wait. -/
def await (w : World) (task : TaskId) (wait : Wait) (frames : List Frame) : World :=
  w.goto task (.wait wait) frames

/-- A collaborator takes its time, perhaps forever, and then ends as it does. -/
def behave (w : World) (task : TaskId) (behaviour : Behaviour) (frames : List Frame) : World :=
  match behaviour.delay with
  | some ms =>
    w.await task (.sleep (w.after ms)) (.behaviour { behaviour with delay := none } :: frames)
  | none =>
    if behaviour.never then w.await task .forever frames
    else w.goto task (behaviour.ending.control .unit) frames

/-- Waits for the closure of an endpoint, as far as it owns tasks. -/
def awaitLocal (w : World) (task : TaskId) (endpoint : EndpointId) (frames : List Frame) : World :=
  w.await task (.closeRequested endpoint) (.localRequest endpoint :: frames)

/-- Waits for the closure of an endpoint. -/
def awaitClosed (w : World) (task : TaskId) (endpoint : EndpointId) (frames : List Frame) : World :=
  match w.endpointPlan? endpoint with
  | none => w.awaitLocal task endpoint frames
  | some plan =>
    let w := w.emit .endpointAwait
    let frames := .endpointClosed endpoint :: frames
    match plan.await with
    | some behaviour => w.enter task (.behave behaviour) frames
    | none => w.enter task (.awaitLocal endpoint) frames

/-- Marks an endpoint without tasks as closed and answers its state. -/
def finishClosure (w : World) (task : TaskId) (endpoint : EndpointId) (frames : List Frame) :
    World :=
  let w := w.finishLocal endpoint
  w.answer task (.ok (.state (((w.local? endpoint).map LocalEndpoint.state).getD .closed))) frames

/-- Runs the rest of the script of an owned task. -/
def runOwned (w : World) (task : TaskId) (endpoint : EndpointId) (script : List OwnedStep)
    (frames : List Frame) : World :=
  match script with
  | [] => w.answer task (.ok .unit) frames
  | .shutdown :: rest => w.await task (.finishOrder endpoint) (.owned endpoint rest :: frames)
  | .sleep ms :: rest => w.await task (.sleep (w.after ms)) (.owned endpoint rest :: frames)
  | .mark value :: rest => (w.emit (.mark value)).enter task (.own endpoint rest) frames
  | .requested :: rest =>
    (w.emit (.requested ((w.local? endpoint).any fun e => e.cancelled))).enter task
      (.own endpoint rest) frames
  | .pending :: _ => w.await task .forever frames
  | .panic content :: _ => w.goto task (.unwind content) frames

end World

end Remoting
