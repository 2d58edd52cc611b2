import Remoting.World.Poll

/-!
# The order in which tasks run

Tasks run one at a time, each until it waits, in the order in which they became ready. A waiting
task becomes ready when something happens that it watches. Time stands still while tasks run; it
moves only once every task waits.
-/

namespace Remoting

/-- A world together with the tasks that are ready to run and what the other tasks watch. -/
structure Schedule where
  world : World
  /-- The tasks that are ready, the next one first. -/
  queue : List TaskId
  /-- What tasks watch, in the order in which they began to. -/
  watchers : List (Signal × TaskId)

namespace Schedule

/-- What a waiting task watches because of what it waits for. -/
def watchedByWait (task : TaskId) : Wait → List Signal
  | .sleep deadline => [.time deadline]
  | .forever | .lock _ => []
  | .drained handler deadline => [.count handler, .time deadline]
  | .state endpoint _ | .closeRequested endpoint => [.state endpoint]
  | .tasksGone endpoint => [.tasksGone endpoint]
  | .finishOrder _ => [.finishOrder task]
  | .join joined => [.finished joined]

/-- What a waiting task watches because of a call that it is inside of. -/
def watchedByFrame : Frame → List Signal
  | .supply handler operation _ _ | .operation handler operation =>
    [.cancelled handler operation]
  | .teardown teardown (.drain deadline) =>
    .time deadline :: teardown.interrupt.toList.map Signal.token
  | .teardown teardown .endpoint => teardown.interrupt.toList.map Signal.token
  | _ => []

/-- What a task watches. -/
def watched (t : Task) : List Signal :=
  (match t.control with
    | .wait wait => watchedByWait t.id wait
    | _ => []) ++ t.frames.flatMap watchedByFrame

/-- Puts a task at the end of the queue unless it is on it or has ended. -/
def enqueue (s : Schedule) (task : TaskId) : Schedule :=
  if s.queue.contains task || (s.world.task? task).isNone then s
  else { s with queue := s.queue ++ [task] }

/-- The tasks that a signal makes ready. -/
def woken (s : Schedule) : Signal → List TaskId
  | .spawned task | .granted task => [task]
  | signal => (s.watchers.filter (·.1 = signal)).map Prod.snd

/-- Delivers a signal to all tasks but a running one. What a signal makes ready no longer watches
it. -/
def deliver (running : Option TaskId) (s : Schedule) (signal : Signal) : Schedule :=
  ((s.woken signal).filter fun task => some task ≠ running).foldl enqueue
    { s with watchers := s.watchers.filter (·.1 ≠ signal) }

/-- Delivers all signals of the world in order. -/
def deliverAll (s : Schedule) (running : Option TaskId) : Schedule :=
  s.world.signals.foldl (deliver running) { s with world := { s.world with signals := [] } }

/-- Lets a task watch what it has to and nothing else. What it keeps watching keeps its place. -/
def watch (s : Schedule) (task : TaskId) : Schedule :=
  match s.world.task? task with
  | none => { s with watchers := s.watchers.filter (·.2 ≠ task) }
  | some t =>
    let kept := s.watchers.filter fun entry => entry.2 ≠ task || (watched t).contains entry.1
    let fresh := (watched t).filter fun signal => !kept.contains (signal, task)
    { s with watchers := kept ++ fresh.eraseDups.map (·, task) }

/-- Runs a task that was taken off the queue. A task that was made ready while it ran goes to the
end of the queue. -/
def runTask (s : Schedule) (fuel : Nat) (task : TaskId) : Schedule :=
  let s := { s with world := s.world.poll fuel task }
  let s := (s.deliverAll (some task)).watch task
  if s.world.canProceed task then s.enqueue task else s

/-- Runs tasks until all wait, at most a number of times. -/
def settle (s : Schedule) (fuel : Nat) : Nat → Schedule
  | 0 => s
  | polls + 1 =>
    match s.queue with
    | [] => s
    | task :: queue => (runTask { s with queue } fuel task).settle fuel polls

/-- The time at which the next task wakes up. -/
def nextTime? (s : Schedule) : Option Nat :=
  (s.watchers.filterMap fun
    | (.time deadline, _) => some deadline
    | _ => none).min?

/-- Moves the clock to a time and makes the tasks ready that wait for it. -/
def moveTo (s : Schedule) (time : Nat) : Schedule :=
  deliver none { s with world := { s.world with now := max time s.world.now } } (.time time)

/-- Moves the clock to a target, stopping wherever tasks wake up and letting them run, at most a
number of times. -/
def advanceTo (s : Schedule) (fuel target : Nat) : Nat → Schedule
  | 0 => s
  | stops + 1 =>
    match s.nextTime? with
    | some time =>
      if time ≤ target then
        ((s.moveTo time).settle fuel fuel).advanceTo fuel target stops
      else { s with world := { s.world with now := target } }
    | none => { s with world := { s.world with now := target } }

end Schedule

end Remoting
