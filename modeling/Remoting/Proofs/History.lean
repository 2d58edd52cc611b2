import Mathlib.Data.List.TakeWhile
import Remoting.Proofs.Quiet

/-!
# The calls of one client

The journal of calls, seen from one client, has two parts: the calls that connect it, and from the
moment when its teardown is handed to a task on the calls of that teardown. `Opened` says which
calls can have led to an open client with a given endpoint and strategy, and `Teardown.sequence`
lists the calls of a whole teardown. A teardown leaves out the wait for completion and the wait for
the endpoint where it finds itself interrupted.
-/

namespace Remoting

namespace Contact

/-- Whether an entry says that a teardown was handed to a task. -/
def isTeardown : Contact → Bool
  | .teardown .. => true
  | _ => false

/-- Whether an entry is a call that connects a client, or what such a call has yielded. -/
def isConnecting : Contact → Bool
  | .createEndpoint | .endpointCreated _ | .createStrategy _ | .strategyCreated _ | .channel _ =>
    true
  | _ => false

/-- Whether an entry is a call of a teardown, or says that a teardown has left a call out. -/
def isClosing : Contact → Bool
  | .shutdown | .closeStrategy _ | .closeEndpoint _ | .shutdownNow | .awaitCompletion
  | .completionSkipped | .release | .awaitEndpoint _ | .endpointSkipped _ => true
  | _ => false

end Contact

/-! ## Histories -/

/-- The entries before the teardown was handed to a task. -/
def beforeTeardown (calls : List Contact) : List Contact :=
  calls.takeWhile fun call => !call.isTeardown

/-- The entries after the teardown was handed to a task. -/
def afterTeardown (calls : List Contact) : List Contact :=
  (calls.dropWhile fun call => !call.isTeardown).tail

section Split

variable {before after calls : List Contact} {task : TaskId} {t : Teardown} {call : Contact}

theorem beforeTeardown_split (h : ∀ call ∈ before, call.isTeardown = false) :
    beforeTeardown (before ++ .teardown task t :: after) = before := by
  unfold beforeTeardown
  rw [List.takeWhile_append_of_pos (by simpa using h)]
  simp [Contact.isTeardown]

theorem afterTeardown_split (h : ∀ call ∈ before, call.isTeardown = false) :
    afterTeardown (before ++ .teardown task t :: after) = after := by
  unfold afterTeardown
  rw [List.dropWhile_append_of_pos (by simpa using h)]
  simp [Contact.isTeardown]

theorem isTeardown_of_mem_beforeTeardown (h : call ∈ beforeTeardown calls) :
    call.isTeardown = false := by
  simpa using List.mem_takeWhile_imp h

/-- A history with a teardown is what was before it, the teardown and what came after it. -/
theorem exists_split_of_mem (h : .teardown task t ∈ calls) :
    ∃ task' t', calls = beforeTeardown calls ++ .teardown task' t' :: afterTeardown calls := by
  induction calls with
  | nil => cases h
  | cons call rest ih =>
      cases hcall : call.isTeardown with
      | true =>
          cases call <;> simp only [Contact.isTeardown, Bool.false_eq_true] at hcall
          next task' t' =>
            exact ⟨task', t', by simp [beforeTeardown, afterTeardown, Contact.isTeardown]⟩
      | false =>
          have hrest : .teardown task t ∈ rest := by
            rcases List.mem_cons.1 h with h | h
            · rw [← h] at hcall
              cases hcall
            · exact h
          obtain ⟨task', t', hsplit⟩ := ih hrest
          refine ⟨task', t', ?_⟩
          simpa [beforeTeardown, afterTeardown, hcall] using hsplit

/-- Later entries do not change what was before a teardown. -/
theorem beforeTeardown_append (h : .teardown task t ∈ calls) (later : List Contact) :
    beforeTeardown (calls ++ later) = beforeTeardown calls := by
  obtain ⟨task', t', hsplit⟩ := exists_split_of_mem h
  have hbefore : ∀ call ∈ beforeTeardown calls, call.isTeardown = false :=
    fun _ => isTeardown_of_mem_beforeTeardown
  conv => lhs; rw [hsplit]
  rw [List.append_assoc, List.cons_append, beforeTeardown_split hbefore]

/-- Later entries come after the teardown. -/
theorem afterTeardown_append (h : .teardown task t ∈ calls) (later : List Contact) :
    afterTeardown (calls ++ later) = afterTeardown calls ++ later := by
  obtain ⟨task', t', hsplit⟩ := exists_split_of_mem h
  have hbefore : ∀ call ∈ beforeTeardown calls, call.isTeardown = false :=
    fun _ => isTeardown_of_mem_beforeTeardown
  conv => lhs; rw [hsplit]
  rw [List.append_assoc, List.cons_append, afterTeardown_split hbefore]

end Split

namespace World

/-- The calls of a client and what they have yielded. -/
def history (w : World) (client : ClientId) : List Contact :=
  w.contacts.filterMap fun entry => if entry.1 = client then some entry.2 else none

theorem mem_history {w : World} {client : ClientId} {call : Contact} :
    call ∈ w.history client ↔ (client, call) ∈ w.contacts := by
  simp only [history, List.mem_filterMap, Prod.exists, Option.ite_none_right_eq_some,
    Option.some.injEq]
  constructor
  · rintro ⟨_, _, h, rfl, rfl⟩
    exact h
  · intro h
    exact ⟨_, _, h, rfl, rfl⟩

theorem history_of_contacts {w u : World} (h : u.contacts = w.contacts) (client : ClientId) :
    u.history client = w.history client := by
  rw [history, history, h]

@[simp] theorem history_contact (w : World) (client : ClientId) (call : Contact) :
    (w.contact client call).history client = w.history client ++ [call] := by
  simp [history, contact]

end World

/-! ## The calls of an open client -/

/-- The calls that can have led to an open client with an endpoint and a strategy. -/
inductive Opened : Option EndpointId → Option StrategyId → List Contact → Prop where
  | fresh : Opened none none []
  | createEndpoint {calls} : Opened none none calls → Opened none none (calls ++ [.createEndpoint])
  | endpointCreated {calls} (endpoint) : Opened none none calls →
      Opened (some endpoint) none (calls ++ [.endpointCreated endpoint])
  | createStrategy {calls endpoint} : Opened (some endpoint) none calls →
      Opened (some endpoint) none (calls ++ [.createStrategy endpoint])
  | strategyCreated {calls endpoint} (strategy) : Opened (some endpoint) none calls →
      Opened (some endpoint) (some strategy) (calls ++ [.strategyCreated strategy])
  | channel {calls endpoint strategy} : Opened (some endpoint) (some strategy) calls →
      Opened (some endpoint) (some strategy) (calls ++ [.channel strategy])

namespace Opened

variable {endpoint : Option EndpointId} {strategy : Option StrategyId} {calls : List Contact}

/-- An open client has made no call but those that connect it. -/
theorem isConnecting (h : Opened endpoint strategy calls) {call : Contact} (hcall : call ∈ calls) :
    call.isConnecting = true := by
  induction h with
  | fresh => cases hcall
  | createEndpoint _ ih | endpointCreated _ _ ih | createStrategy _ ih | strategyCreated _ _ ih
  | channel _ ih =>
      rcases List.mem_append.1 hcall with hcall | hcall
      · exact ih hcall
      · rw [List.mem_singleton.1 hcall]
        rfl

theorem not_isTeardown (h : Opened endpoint strategy calls) {call : Contact}
    (hcall : call ∈ calls) :
    call.isTeardown = false := by
  have hconnecting := h.isConnecting hcall
  cases call <;> first | rfl | cases hconnecting

/-- A client with a strategy has an endpoint. -/
theorem exists_endpoint (h : Opened endpoint strategy calls) {s : StrategyId}
    (hstrategy : strategy = some s) : ∃ e, endpoint = some e := by
  cases h with
  | strategyCreated | channel => exact ⟨_, rfl⟩
  | _ => cases hstrategy

/-- The endpoint of an open client is the one that a call has yielded. -/
theorem endpointCreated_iff (h : Opened endpoint strategy calls) (e : EndpointId) :
    .endpointCreated e ∈ calls ↔ endpoint = some e := by
  induction h with
  | fresh => simp
  | endpointCreated e' _ ih => simp [ih, eq_comm]
  | createEndpoint _ ih | createStrategy _ ih | strategyCreated _ _ ih | channel _ ih => simp [ih]

/-- The strategy of an open client is the one that a call has yielded. -/
theorem strategyCreated_iff (h : Opened endpoint strategy calls) (s : StrategyId) :
    .strategyCreated s ∈ calls ↔ strategy = some s := by
  induction h with
  | fresh => simp
  | strategyCreated s' _ ih => simp [ih, eq_comm]
  | createEndpoint _ ih | createStrategy _ ih | endpointCreated _ _ ih | channel _ ih => simp [ih]

end Opened

/-! ## The calls of a teardown -/

/-- Where a teardown is: at a stage, or in one of its waits. -/
inductive Teardown.Point where
  | stage (stage : Teardown.Stage)
  | pause (pause : Teardown.Pause)

namespace Teardown

/-- The call that closes the strategy of a teardown. -/
def strategyCalls (t : Teardown) : List Contact :=
  t.strategy.toList.map .closeStrategy

/-- The call that requests the close of the endpoint of a teardown. -/
def endpointCalls (t : Teardown) : List Contact :=
  t.endpoint.toList.map .closeEndpoint

/-- The calls of a teardown up to its wait for completion. -/
def closingCalls (t : Teardown) : List Contact :=
  .shutdown :: (t.strategyCalls ++ (t.endpointCalls ++ [.shutdownNow]))

/-- The call that waits for completion, or that it is left out. -/
def drainCalls (skipped : Bool) : List Contact :=
  if skipped then [.completionSkipped] else [.awaitCompletion]

/-- The call that waits for the endpoint of a teardown, or that it is left out. -/
def waitCalls (t : Teardown) (skipped : Bool) : List Contact :=
  t.endpoint.toList.map (if skipped then .endpointSkipped else .awaitEndpoint)

/-- The calls of a whole teardown, where it is known which waits are left out. -/
def sequence (t : Teardown) (skipDrain skipWait : Bool) : List Contact :=
  t.closingCalls ++ (drainCalls skipDrain ++ .release :: t.waitCalls skipWait)

theorem all_isClosing_sequence (t : Teardown) (skipDrain skipWait : Bool) :
    (t.sequence skipDrain skipWait).all Contact.isClosing = true := by
  obtain ⟨client, endpoint, strategy, interrupt⟩ := t
  cases endpoint <;> cases strategy <;> cases skipDrain <;> cases skipWait <;> rfl

section Members

variable {t : Teardown} {skipDrain skipWait : Bool} {call : Contact}

theorem isClosing_of_mem (h : call ∈ t.sequence skipDrain skipWait) : call.isClosing = true :=
  List.all_eq_true.1 (t.all_isClosing_sequence skipDrain skipWait) call h

theorem not_isTeardown_of_mem (h : call ∈ t.sequence skipDrain skipWait) :
    call.isTeardown = false := by
  have hclosing := isClosing_of_mem h
  cases call <;> first | rfl | cases hclosing

theorem not_isConnecting_of_mem (h : call ∈ t.sequence skipDrain skipWait) :
    call.isConnecting = false := by
  have hclosing := isClosing_of_mem h
  cases call <;> first | rfl | cases hclosing

end Members

/-- The calls that a teardown has made when it is at a given point. -/
def Before (t : Teardown) : Point → List Contact → Prop
  | .stage .shutdown, calls => calls = []
  | .stage .closeStrategy, calls => calls = [.shutdown]
  | .pause (.strategy strategy), calls => t.strategy = some strategy ∧
      calls = .shutdown :: t.strategyCalls
  | .stage .closeEndpoint, calls => calls = .shutdown :: t.strategyCalls
  | .stage .shutdownNow, calls => calls = .shutdown :: (t.strategyCalls ++ t.endpointCalls)
  | .stage .drain, calls => calls = t.closingCalls
  | .pause (.drain _), calls => calls = t.closingCalls ++ drainCalls false
  | .stage .release, calls => ∃ skipped, calls = t.closingCalls ++ drainCalls skipped
  | .stage .awaitEndpoint, calls => ∃ skipped,
      calls = t.closingCalls ++ (drainCalls skipped ++ [.release])
  | .pause .endpoint, calls => ∃ skipped, calls = t.sequence skipped false
  | .stage (.finish _), calls => ∃ skipDrain skipWait, calls = t.sequence skipDrain skipWait

/-- At every point the calls of a teardown are the first ones of a whole sequence. -/
theorem Before.isPrefix {t : Teardown} {point : Point} {calls : List Contact}
    (h : t.Before point calls) : ∃ skipDrain skipWait, calls <+: t.sequence skipDrain skipWait := by
  unfold Before at h
  unfold sequence closingCalls
  split at h
  · exact ⟨false, false, by simp [h]⟩
  · exact ⟨false, false, by simp [h]⟩
  · exact ⟨false, false, by simp [h.2]⟩
  · exact ⟨false, false, by simp [h]⟩
  · refine ⟨false, false, ?_⟩
    rw [h]
    exact ⟨.shutdownNow :: (drainCalls false ++ .release :: t.waitCalls false), by simp⟩
  · exact ⟨false, false, by simp [h, closingCalls]⟩
  · refine ⟨false, false, ?_⟩
    rw [h]
    exact ⟨.release :: t.waitCalls false, by simp [closingCalls]⟩
  · obtain ⟨skipped, rfl⟩ := h
    exact ⟨skipped, false, .release :: t.waitCalls false, by simp [closingCalls]⟩
  · obtain ⟨skipped, rfl⟩ := h
    exact ⟨skipped, false, t.waitCalls false, by simp [closingCalls]⟩
  · obtain ⟨skipped, rfl⟩ := h
    exact ⟨skipped, false, [], by simp [sequence, closingCalls]⟩
  · obtain ⟨skipDrain, skipWait, rfl⟩ := h
    exact ⟨skipDrain, skipWait, [], by simp [sequence, closingCalls]⟩

end Teardown

end Remoting
