import Remoting.Error

/-!
# Behaviour of collaborators

A collaborator of a client (a strategy, an endpoint, a cleanup action, …) may succeed, fail, panic,
take its time or never return. Its behaviour is fixed in advance, call by call.
-/

namespace Remoting

/-- How a call ends. -/
inductive Ending where
  | succeed
  | fail (error : Error)
  | panic (content : Panic)
  deriving DecidableEq, Inhabited

/-- The result of a call that ends in a given way, a panic being caught. -/
def Ending.caught : Ending → Except Error Unit
  | .succeed => .ok ()
  | .fail error => .error error
  | .panic content => .error (.ofPanic content)

/-- How an asynchronous call behaves. -/
structure Behaviour where
  /-- How many milliseconds the call takes. -/
  delay : Option Nat
  /-- Whether the call never returns. -/
  never : Bool
  ending : Ending
  deriving DecidableEq, Inhabited

/-- The behaviour of a call that succeeds at once. -/
def Behaviour.immediate : Behaviour := ⟨none, false, .succeed⟩

/-- The element for a call of a given number, starting from zero. The last element repeats; without
elements the default one is used. -/
def behaviourAt (elements : List α) (default : α) (call : Nat) : α :=
  (elements[call]?).getD (elements.getLast?.getD default)

end Remoting
