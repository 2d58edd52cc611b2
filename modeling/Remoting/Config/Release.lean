import Remoting.Behaviour

/-!
# Releasing a configuration

A configuration holds cleanup actions that run once, on its release. Every action runs even if an
earlier one fails, the first failure is the result, and from the start of the release on no action
is accepted. An action may itself use the configuration: release it, add an action, or ask whether
it is released.
-/

namespace Remoting

/-- What a cleanup action does to the configuration that runs it. -/
inductive Disposer.Step (δ : Type) where
  | release
  | add (disposer : δ)
  | state

/-- A cleanup action: its name, what it does to the configuration, and how it ends. -/
inductive Disposer where
  | mk (id : String) (steps : List (Disposer.Step Disposer)) (ending : Ending)

namespace Disposer

/-- The name of a cleanup action. -/
def id : Disposer → String
  | mk id _ _ => id

/-- What a cleanup action does to the configuration that runs it. -/
def steps : Disposer → List (Step Disposer)
  | mk _ steps _ => steps

/-- How a cleanup action ends. -/
def ending : Disposer → Ending
  | mk _ _ ending => ending

end Disposer

/-- The disposable resources of a configuration. -/
structure Release where
  /-- The accepted actions that have not run, in the order of acceptance. -/
  disposers : List Disposer
  released : Bool

namespace Release

/-- The resources of a fresh configuration. -/
def fresh : Release := ⟨[], false⟩

/-- What happens while cleanup actions run. -/
inductive Event where
  /-- An action of the given name runs. -/
  | ran (id : String)
  /-- The running action released the configuration with this result. -/
  | released (result : Except Error Unit)
  /-- The running action added an action with this result. -/
  | added (result : Except Error Unit)
  /-- The running action asked whether the configuration is released. -/
  | state (released : Bool)

/-- The result of an operation, what happened meanwhile, and the resources afterwards. -/
structure Result where
  result : Except Error Unit
  events : List Event
  after : Release

/-- Adds a cleanup action. -/
def add (release : Release) (disposer : Disposer) : Result :=
  if release.released then ⟨.error (.closed "ClientConfig"), [], release⟩
  else ⟨.ok (), [], { release with disposers := release.disposers ++ [disposer] }⟩

/-- One step of a running action, given what a release inside an action does. -/
def runStep (nested : Release → Result) (release : Release) :
    Disposer.Step Disposer → List Event × Release
  | .release =>
    let inner := nested release
    (inner.events ++ [.released inner.result], inner.after)
  | .add disposer =>
    let inner := release.add disposer
    ([.added inner.result], inner.after)
  | .state => ([.state release.released], release)

/-- The steps of a running action. -/
def runSteps (nested : Release → Result) :
    Release → List (Disposer.Step Disposer) → List Event × Release
  | release, [] => ([], release)
  | release, step :: steps =>
    let (first, release) := runStep nested release step
    let (rest, release) := runSteps nested release steps
    (first ++ rest, release)

/-- The result of a list of results: the first failure, or success. -/
def firstFailure : Except Error Unit → Except Error Unit → Except Error Unit
  | .ok (), second => second
  | .error e, _ => .error e

/-- Runs cleanup actions one after the other. -/
def runAll (nested : Release → Result) : Release → List Disposer → Result
  | release, [] => ⟨.ok (), [], release⟩
  | release, disposer :: disposers =>
    let (events, release) := runSteps nested release disposer.steps
    let rest := runAll nested release disposers
    ⟨firstFailure disposer.ending.caught rest.result,
      .ran disposer.id :: events ++ rest.events, rest.after⟩

/-- Releases the resources; releases inside actions may nest to the given depth. -/
def runNested : Nat → Release → Result
  | 0, release => ⟨.ok (), [], release⟩
  | depth + 1, release =>
    if release.released then ⟨.ok (), [], release⟩
    else runAll (runNested depth) ⟨[], true⟩ release.disposers

/-- Releases the resources. While actions run the resources count as released, so a release inside
an action finds nothing to do and no deeper nesting arises. -/
def run (release : Release) : Result :=
  runNested 1 release

end Release

end Remoting
