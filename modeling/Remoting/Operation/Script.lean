import Remoting.Error

/-!
# What operations do

An operation is called with a channel. What it does at once, its `opening`, happens in this call,
which yields a body; the body is a list of steps, run in order when it is polled.
-/

namespace Remoting

/-- A value that the library only hands on, in written form. -/
abbrev Datum := String

/-- Something that an operation does at once when it is called. -/
inductive Instant where
  /-- Leave a mark in the journal. -/
  | mark (value : Datum)
  /-- Panic. -/
  | panic (content : Panic)
  /-- Let the handler admit no more operations. -/
  | shutdown
  /-- Let the handler cancel all operations. -/
  | shutdownNow
  /-- Tell the handler that the channel has closed. -/
  | channelClosed
  /-- Note the number of operations in the journal. -/
  | active
  deriving DecidableEq, Inhabited

/-- An operation whose body has steps of the given kind. -/
structure RoutineOf (σ : Type) where
  /-- What the operation does while it is being called. -/
  opening : List Instant
  /-- What it does once the call has returned. -/
  body : List σ
  deriving Inhabited

/-- A step of the body of an operation. -/
inductive OperationStep where
  /-- Wait for a number of milliseconds. -/
  | sleep (ms : Nat)
  /-- Leave a mark in the journal. -/
  | mark (value : Datum)
  /-- Wait forever. -/
  | pending
  /-- Panic. -/
  | panic (content : Panic)
  /-- End with a value. -/
  | ret (value : Datum)
  /-- End with an error. -/
  | fail (error : Error)
  /-- End with the channel. -/
  | channel
  /-- Close the channel and end. -/
  | closeChannel
  /-- Let the handler admit no more operations. -/
  | shutdown
  /-- Let the handler cancel all operations. -/
  | shutdownNow
  /-- Tell the handler that the channel has closed. -/
  | channelClosed
  /-- Note the number of operations in the journal. -/
  | active
  /-- Run another operation and note its result. -/
  | execute (routine : RoutineOf OperationStep)
  /-- Get a channel of the client and note the result. -/
  | getChannel
  /-- Close the client and note the result. -/
  | closeClient
  deriving Inhabited

namespace OperationStep

/-- Whether a step uses the client or runs another operation. -/
def usesClient : OperationStep → Bool
  | .execute _ | .getChannel | .closeClient => true
  | _ => false

end OperationStep

/-- The body of an operation. -/
abbrev Script := List OperationStep

/-- What an operation does. -/
abbrev Routine := RoutineOf OperationStep

/-- A body alone is an operation that does nothing while it is being called. -/
instance : Coe Script Routine := ⟨fun body => ⟨[], body⟩⟩

/-- What is done at once, as a step. -/
def Instant.step : Instant → OperationStep
  | .mark value => .mark value
  | .panic content => .panic content
  | .shutdown => .shutdown
  | .shutdownNow => .shutdownNow
  | .channelClosed => .channelClosed
  | .active => .active

namespace RoutineOf

/-- What the operation does while it is being called, as a script. -/
def call (routine : Routine) : Script :=
  routine.opening.map Instant.step

/-- The operation without the steps of its body that use the client or run another operation. -/
def withoutClient (routine : Routine) : Routine :=
  { routine with body := routine.body.filter fun step => !step.usesClient }

end RoutineOf

/-- A step of a task that an endpoint owns. -/
inductive OwnedStep where
  /-- Wait until told to finish. -/
  | shutdown
  /-- Wait for a number of milliseconds. -/
  | sleep (ms : Nat)
  /-- Leave a mark in the journal. -/
  | mark (value : Datum)
  /-- Note in the journal whether the task was told to finish. -/
  | requested
  /-- Wait forever. -/
  | pending
  /-- Panic. -/
  | panic (content : Panic)
  deriving DecidableEq, Inhabited

end Remoting
