/-!
# Reports about clients dropped while open

Every client records where it was created. A client that is dropped while it is still open is
reported with that record. A registry has the records of all clients that are open.
-/

namespace Remoting

/-- Where a client was created. -/
structure AllocationTrace where
  /-- The place in the source text. -/
  site : String
  /-- The name of the creating thread, if it had one. -/
  thread : Option String
  deriving DecidableEq, Inhabited

/-- The wording of an allocation trace. -/
def AllocationTrace.describe (trace : AllocationTrace) : String :=
  trace.site ++ " on thread " ++ trace.thread.getD "<unnamed>"

/-- The clients that are open, by their ids, each with where it was created. -/
abbrev Registry := List (Nat × AllocationTrace)

namespace Registry

/-- The registry without a client. -/
def untrack (registry : Registry) (client : Nat) : Registry :=
  registry.filter (·.1 ≠ client)

/-- The registry with a client, which takes the place of an older one of the same id. -/
def track (registry : Registry) (client : Nat) (trace : AllocationTrace) : Registry :=
  (client, trace) :: registry.untrack client

/-- The entries by increasing id. -/
def snapshot (registry : Registry) : List (Nat × AllocationTrace) :=
  registry.mergeSort fun first second => decide (first.1 ≤ second.1)

end Registry

/-- What is reported about a client that was dropped without being closed. -/
structure LeakReport where
  client : Nat
  trace : AllocationTrace
  deriving DecidableEq, Inhabited

/-- The wording of a leak report. -/
def LeakReport.describe (report : LeakReport) : String :=
  "management client #" ++ toString report.client ++
    " was dropped without being closed; it was created at " ++ report.trace.describe

end Remoting
