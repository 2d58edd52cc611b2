import Remoting.Proofs.Publishing
import Remoting.Proofs.Run

/-!
# What changes leave alone of reports, handles and endpoints

Most changes report no client, drop no handle and leave no close to a helper, and the tasks they
start hold no handle. An endpoint is told to cancel its tasks when it is asked to close and not
before, and only waits that are named close it for good. `Passes` says all this of two worlds. There
is one lemma for each such change.
-/

namespace Remoting

namespace LocalEndpoint

/-- An endpoint has gone on. It has been closed for good only where that is allowed. -/
structure ShutOnlyIf (shut : Prop) (before after : LocalEndpoint) : Prop where
  uses : ∃ list, after.channel = before.channel.uses list
  closed : after.state = .closed → before.state = .closed ∨ shut
  cancelled : before.cancelled = before.state.isCloseRequested →
    after.cancelled = after.state.isCloseRequested ∨ shut

variable {shut : Prop} {before middle after : LocalEndpoint}

/-- The state of an endpoint only moves forward. -/
theorem ShutOnlyIf.rank (h : ShutOnlyIf shut before after) : before.state.rank ≤ after.state.rank :=
    by
  obtain ⟨list, heq⟩ := h.uses
  show before.channel.state.rank ≤ after.channel.state.rank
  rw [heq]
  exact StateChannel.rank_le_uses _ list

theorem ShutOnlyIf.refl (endpoint : LocalEndpoint) : ShutOnlyIf shut endpoint endpoint :=
  ⟨⟨[], rfl⟩, .inl, .inl⟩

theorem ShutOnlyIf.trans (h : ShutOnlyIf shut before middle) (h' : ShutOnlyIf shut middle after) :
    ShutOnlyIf shut before after where
  uses := by
    obtain ⟨first, heq⟩ := h.uses
    obtain ⟨second, heq'⟩ := h'.uses
    exact ⟨first ++ second, by rw [heq', heq, StateChannel.uses_append]⟩
  closed hclosed := by
    rcases h'.closed hclosed with hclosed | hover
    · exact h.closed hclosed
    · exact .inr hover
  cancelled hsame := by
    rcases h.cancelled hsame with hsame | hover
    · exact h'.cancelled hsame
    · exact .inr hover

theorem ShutOnlyIf.imp {shut' : Prop} (h : ShutOnlyIf shut before after) (himp : shut → shut') :
    ShutOnlyIf shut' before after where
  uses := h.uses
  closed hclosed := (h.closed hclosed).imp_right himp
  cancelled hsame := (h.cancelled hsame).imp_right himp

theorem shutOnlyIf_spawn {task : TaskId} (h : before.spawn task = .ok after) :
    ShutOnlyIf shut before after := by
  unfold LocalEndpoint.spawn at h
  split at h
  next => cases h
  next =>
    cases h
    exact ⟨⟨[], rfl⟩, .inl, .inl⟩

theorem shutOnlyIf_close (endpoint : LocalEndpoint) : ShutOnlyIf shut endpoint endpoint.close.2 :=
    by
  by_cases hopen : endpoint.channel.state.rank < EndpointState.closing.rank
  · have hclose : endpoint.close.2 =
        { endpoint with channel := (endpoint.channel.advance .closing).2, cancelled := true } := by
      simp [close, StateChannel.advance, hopen]
    have hstate : (endpoint.channel.advance .closing).2.state = .closing := by
      simp [StateChannel.advance, hopen]
    rw [hclose]
    refine ⟨⟨[.advance .closing], rfl⟩, fun hclosed => ?_, fun _ => .inl ?_⟩
    · cases hstate.symm.trans hclosed
    · show true = (endpoint.channel.advance .closing).2.state.isCloseRequested
      rw [hstate]
      rfl
  · have hclose : endpoint.close.2 = endpoint := by
      simp [close, StateChannel.advance, hopen]
    rw [hclose]
    exact .refl endpoint

theorem shutOnlyIf_finish (endpoint : LocalEndpoint) (hover : shut) :
    ShutOnlyIf shut endpoint endpoint.finish.2 where
  uses := ⟨[.advance .closed], rfl⟩
  closed _ := .inr hover
  cancelled _ := .inr hover

theorem shutOnlyIf_taskEnded (endpoint : LocalEndpoint) (task : TaskId) :
    ShutOnlyIf shut endpoint (endpoint.taskEnded task) :=
  ⟨⟨[], rfl⟩, .inl, .inl⟩

end LocalEndpoint

/-- The report that an event is. -/
def Event.report? : Event → Option LeakReport
  | .leak report => some report
  | _ => none

/-- The report that a log line is. -/
def LogLine.report? : LogLine → Option LeakReport
  | .leaked report => some report
  | _ => none

/-- Whether a call may close a client. -/
@[simp] def Call.mayClose (client : ClientId) : Call → Bool
  | .close closed _ => closed = client
  | .execute _ _ user => user = some client
  | .operate _ site => site.client = some client
  | .spawn call => call.mayClose client
  | _ => false

/-- Whether what a task does next may close a client. -/
@[simp] def Control.mayClose (client : ClientId) : Control → Bool
  | .call made => made.mayClose client
  | _ => false

/-- Whether an enclosing call may yet close a client. -/
@[simp] def Frame.mayClose (client : ClientId) : Frame → Bool
  | .closeLock closed _ => closed = client
  | .supply _ _ _ user => user = some client
  | .opening _ _ site | .script _ site | .nested _ site => site.client = some client
  | _ => false

/-- Whether a task may yet close a client. -/
def Task.mayClose (client : ClientId) (t : Task) : Bool :=
  t.control.mayClose client || t.frames.any (Frame.mayClose client)

namespace World

/-- The reports about a client. -/
def reports (w : World) (client : ClientId) : List LeakReport :=
  (w.events.filterMap Event.report? ++ w.log.filterMap LogLine.report?).filter
    (·.client = client + 1)

/-- Whether the user holds a client, and where the client was made. -/
def origin? (w : World) (client : ClientId) : Option (Bool × AllocationTrace) :=
  w.clients[client]?.map fun c => (c.held, c.trace)

/-- Every endpoint has gone on, and the new ones were open. The given endpoints may have been closed
for good. -/
structure ShutsOnly (shut : EndpointId → Prop) (w u : World) : Prop where
  endpoint : ∀ {endpoint : EndpointId} {owned : LocalEndpoint}, w.local? endpoint = some owned →
    ∃ owned', u.local? endpoint = some owned' ∧ owned.ShutOnlyIf (shut endpoint) owned'
  created : ∀ {endpoint : EndpointId} {owned' : LocalEndpoint}, w.local? endpoint = none →
    u.local? endpoint = some owned' →
      ∃ name, (LocalEndpoint.fresh name).ShutOnlyIf (shut endpoint) owned'

/-- What is left alone by changes that report no client and drop no handle. A new task may close the
given clients, and the given endpoints may be closed for good. -/
structure Passes (may : ClientId → Bool) (shut : EndpointId → Prop) (w u : World) : Prop
    extends ShutsOnly shut w u where
  events : u.events.filterMap Event.report? = w.events.filterMap Event.report?
  log : u.log.filterMap LogLine.report? = w.log.filterMap LogLine.report?
  stranded : u.stranded = w.stranded
  origin : ∀ client, u.origin? client = w.origin? client
  tasks : ∃ new : List Task, u.tasks = w.tasks ++ new ∧ ∀ t ∈ new, t.handle = none ∧
    t.frames = [] ∧ ∀ client, t.control.mayClose client = true → may client = true

section Passes

variable {may : ClientId → Bool} {shut : EndpointId → Prop} {w v u : World}

theorem ShutsOnly.trans (h : ShutsOnly shut w v) (h' : ShutsOnly shut v u) : ShutsOnly shut w u
    where
  endpoint howned := by
    obtain ⟨first, hfirst, hshuts⟩ := h.endpoint howned
    obtain ⟨second, hsecond, hshuts'⟩ := h'.endpoint hfirst
    exact ⟨second, hsecond, hshuts.trans hshuts'⟩
  created {endpoint _} hnone howned := by
    cases hmiddle : v.local? endpoint with
    | none => exact h'.created hmiddle howned
    | some owned =>
        obtain ⟨name, hshuts⟩ := h.created hnone hmiddle
        obtain ⟨last, hlast, hshuts'⟩ := h'.endpoint hmiddle
        cases hlast.symm.trans howned
        exact ⟨name, hshuts.trans hshuts'⟩

theorem ShutsOnly.imp {shut' : EndpointId → Prop} (h : ShutsOnly shut w u)
    (himp : ∀ endpoint, shut endpoint → shut' endpoint) : ShutsOnly shut' w u where
  endpoint howned := by
    obtain ⟨owned', howned', hshuts⟩ := h.endpoint howned
    exact ⟨owned', howned', hshuts.imp (himp _)⟩
  created hnone howned := by
    obtain ⟨name, hshuts⟩ := h.created hnone howned
    exact ⟨name, hshuts.imp (himp _)⟩

/-- Worlds with the same endpoints. -/
theorem ShutsOnly.of_eq (endpoints : u.endpoints = w.endpoints) : ShutsOnly shut w u where
  endpoint howned := ⟨_, by rwa [local?, endpoints], .refl _⟩
  created hnone howned := by
    rw [local?, endpoints] at howned
    cases hnone.symm.trans howned

theorem Passes.trans (h : Passes may shut w v) (h' : Passes may shut v u) :
    Passes may shut w u where
  toShutsOnly := h.toShutsOnly.trans h'.toShutsOnly
  events := h'.events.trans h.events
  log := h'.log.trans h.log
  stranded := h'.stranded.trans h.stranded
  origin client := (h'.origin client).trans (h.origin client)
  tasks := by
    obtain ⟨first, hfirst, hnew⟩ := h.tasks
    obtain ⟨second, hsecond, hnew'⟩ := h'.tasks
    refine ⟨first ++ second, by rw [hsecond, hfirst, List.append_assoc], fun t ht => ?_⟩
    rcases List.mem_append.1 ht with ht | ht
    · exact hnew t ht
    · exact hnew' t ht

/-- Worlds that are the same in reports, handles and endpoints. -/
theorem Passes.of_endpoints
    (events : u.events.filterMap Event.report? = w.events.filterMap Event.report?)
    (log : u.log.filterMap LogLine.report? = w.log.filterMap LogLine.report?)
    (stranded : u.stranded = w.stranded) (origin : ∀ client, u.origin? client = w.origin? client)
    (tasks : ∃ new : List Task, u.tasks = w.tasks ++ new ∧ ∀ t ∈ new, t.handle = none ∧
      t.frames = [] ∧ ∀ client, t.control.mayClose client = true → may client = true)
    (endpoints : u.endpoints = w.endpoints) : Passes may shut w u :=
  ⟨.of_eq endpoints, events, log, stranded, origin, tasks⟩

/-- Worlds that are the same in the journal, handles, tasks and endpoints. -/
theorem Passes.of_eq (events : u.events = w.events) (log : u.log = w.log)
    (stranded : u.stranded = w.stranded) (clients : u.clients = w.clients)
    (tasks : u.tasks = w.tasks) (endpoints : u.endpoints = w.endpoints) : Passes may shut w u :=
  .of_endpoints (by rw [events]) (by rw [log]) stranded
    (fun client => by rw [origin?, origin?, clients])
    ⟨[], by rw [tasks, List.append_nil], List.forall_mem_nil _⟩ endpoints

theorem Passes.refl (w : World) : Passes may shut w w :=
  .of_eq rfl rfl rfl rfl rfl rfl

theorem Passes.foldl {α : Type} {change : World → α → World}
    (h : ∀ w a, Passes may shut w (change w a)) (w : World) (elements : List α) :
    Passes may shut w (elements.foldl change w) := by
  induction elements generalizing w with
  | nil => exact .refl w
  | cons a rest ih => exact (h w a).trans (ih (change w a))

/-! ## Journal and channels -/

/-- An event that is no report. -/
theorem passes_emit (w : World) {event : Event} (hevent : event.report? = none) :
    Passes may shut w (w.emit event) :=
  .of_endpoints (by simp [emit, hevent]) rfl rfl (fun _ => rfl)
    ⟨[], (List.append_nil _).symm, List.forall_mem_nil _⟩ rfl

/-- A log line that is no report. -/
theorem passes_warn (w : World) {line : LogLine} (hline : line.report? = none) :
    Passes may shut w (w.warn line) :=
  .of_endpoints rfl (by simp [warn, hline]) rfl (fun _ => rfl)
    ⟨[], (List.append_nil _).symm, List.forall_mem_nil _⟩ rfl

theorem passes_signal (w : World) (signal : Signal) : Passes may shut w (w.signal signal) :=
  .of_eq rfl rfl rfl rfl rfl rfl

theorem passes_contact (w : World) (client : ClientId) (call : Contact) :
    Passes may shut w (w.contact client call) :=
  .of_eq rfl rfl rfl rfl rfl rfl

theorem passes_swallow (w : World) (client : ClientId) (step : TeardownStep) (error : Error) :
    Passes may shut w (w.swallow client step error) :=
  passes_warn w rfl

theorem passes_swallowPanic (w : World) (client : ClientId) (step : TeardownStep)
    (content : Option Panic) : Passes may shut w (w.swallowPanic client step content) := by
  cases content with
  | none => exact .refl w
  | some content => exact passes_swallow w client step _

theorem passes_closeChannel (w : World) (channel : ChannelId) :
    Passes may shut w (w.closeChannel channel) := by
  unfold closeChannel
  split
  · exact .of_eq rfl rfl rfl rfl rfl rfl
  · exact .refl w

theorem passes_strategyClosed (w : World) (strategy : StrategyId) :
    Passes may shut w (w.strategyClosed strategy) := by
  unfold strategyClosed
  dsimp only
  split
  · exact (passes_closeChannel w _).trans (passes_emit _ rfl)
  · exact passes_emit w rfl

/-! ## Clients -/

/-- A change of a client that keeps the user's handle and where the client was made. -/
theorem passes_modifyClient (w : World) (client : ClientId) {change : Client → Client}
    (horigin : ∀ c, ((change c).held, (change c).trace) = (c.held, c.trace)) :
    Passes may shut w (w.modifyClient client change) := by
  refine .of_endpoints rfl rfl rfl (fun other => ?_)
    ⟨[], (List.append_nil _).symm, List.forall_mem_nil _⟩ rfl
  simp only [origin?, modifyClient, List.getElem?_modify]
  cases w.clients[other]? with
  | none => rfl
  | some c =>
      by_cases h : client = other
      · simpa [h] using horigin c
      · simp [h]

theorem passes_untrack (w : World) (client : ClientId) : Passes may shut w (w.untrack client) :=
  .of_eq rfl rfl rfl rfl rfl rfl

theorem passes_requestLock (w : World) (task : TaskId) (client : ClientId) :
    Passes may shut w (w.requestLock task client) :=
  passes_modifyClient w client fun _ => rfl

theorem passes_giveLock (w : World) (client : ClientId) (task : TaskId) :
    Passes may shut w (w.giveLock client task) :=
  passes_modifyClient w client fun _ => rfl

theorem passes_leaveLock (w : World) (task : TaskId) (client : ClientId) :
    Passes may shut w (w.leaveLock task client) := by
  have hleave : Passes may shut w
      (w.modifyClient client fun c => { c with lock := c.lock.leave task }) :=
    passes_modifyClient w client fun _ => rfl
  unfold leaveLock
  dsimp only
  split
  · exact hleave.trans (passes_signal _ _)
  · exact hleave

theorem passes_recordOutcome (w : World) (client : ClientId) (outcome : Except Error Unit) :
    Passes may shut w (w.recordOutcome client outcome) := by
  refine passes_modifyClient w client fun c => ?_
  split <;> rfl

theorem passes_keepEndpoint (w : World) (client : ClientId) (endpoint : EndpointId) :
    Passes may shut w (w.keepEndpoint client endpoint) :=
  (passes_contact w client _).trans (passes_modifyClient _ client fun _ => rfl)

/-! ## Handlers -/

theorem passes_modifyHandler (w : World) (handler : HandlerId) (change : Handler → Handler) :
    Passes may shut w (w.modifyHandler handler change) :=
  .of_eq rfl rfl rfl rfl rfl rfl

theorem passes_endOperation (w : World) (handler : HandlerId) (operation : OperationId) :
    Passes may shut w (w.endOperation handler operation) :=
  (passes_modifyHandler w handler _).trans (passes_signal _ _)

theorem passes_registerOperation (w : World) (handler : HandlerId) :
    Passes may shut w (w.registerOperation handler).2 := by
  unfold registerOperation
  split
  · exact .refl w
  · dsimp only
    split
    · exact (passes_modifyHandler w handler _).trans (passes_signal _ _)
    · exact passes_modifyHandler w handler _

theorem passes_cancelOperations (w : World) (handler : HandlerId)
    (cancel : Tracker → Tracker.Cancellation) :
    Passes may shut w (w.cancelOperations handler cancel).2 := by
  unfold cancelOperations
  split
  · exact .refl w
  · exact ((passes_modifyHandler w handler _).trans
      (.foldl (fun w _ => passes_warn w rfl) _ _)).trans (.foldl (fun w _ => passes_signal w _) _ _)

theorem passes_shutdownHandlerNow (w : World) (handler : HandlerId) :
    Passes may shut w (w.shutdownHandlerNow handler) :=
  (passes_modifyHandler w handler _).trans (passes_cancelOperations _ handler _)

theorem passes_handlerChannelClosed (w : World) (handler : HandlerId) (channel : ChannelId)
    (cause : Option Error) : Passes may shut w (w.handlerChannelClosed handler channel cause) :=
  passes_cancelOperations w handler _

theorem passes_shutdownAssociation (w : World) (client : ClientId) :
    Passes may shut w (w.shutdownAssociation client).1 := by
  unfold shutdownAssociation
  split
  · exact passes_modifyHandler w _ _
  · exact passes_emit w rfl
  · exact .refl w

theorem passes_shutdownAssociationNow (w : World) (client : ClientId) :
    Passes may shut w (w.shutdownAssociationNow client).1 := by
  unfold shutdownAssociationNow
  split
  · exact passes_shutdownHandlerNow w _
  · exact passes_emit w rfl
  · exact .refl w

theorem passes_callAssociation (w : World) (client : ClientId) (call : Option AssociationCall) :
    Passes may shut w (w.callAssociation client call).1 := by
  match call with
  | none => exact .refl w
  | some .shutdown => exact passes_shutdownAssociation w client
  | some .shutdownNow => exact passes_shutdownAssociationNow w client

theorem passes_associationChannelClosed (w : World) (client : ClientId) (channel : ChannelId)
    (cause : Option Error) :
    Passes may shut w (w.associationChannelClosed client channel cause) := by
  unfold associationChannelClosed
  split
  · exact passes_handlerChannelClosed w _ _ _
  · exact passes_emit w rfl
  · exact .refl w

/-! ## Endpoints -/

/-- A change of what an endpoint owns. -/
theorem shutsOnly_setLocal {endpoint : EndpointId} {owned owned' : LocalEndpoint}
    (howned : w.local? endpoint = some owned) (hshuts : owned.ShutOnlyIf (shut endpoint) owned') :
    ShutsOnly shut w (w.setLocal endpoint owned') where
  endpoint {other owned''} h := by
    simp only [local?, setLocal, modifyEndpoint, List.getElem?_modify] at h howned ⊢
    obtain ⟨cell, hcell, hother⟩ := Option.map_eq_some_iff.1 h
    rw [hcell]
    by_cases heq : endpoint = other
    · subst heq
      rw [hcell, Option.map_some, Option.some.injEq] at howned
      have hsame : owned'' = owned := hother.symm.trans howned
      exact ⟨owned', by simp, hsame ▸ hshuts⟩
    · exact ⟨owned'', by simp [heq, hother], .refl _⟩
  created {other _} hnone h := by
    simp only [local?, setLocal, modifyEndpoint, List.getElem?_modify] at h hnone
    rw [Option.map_eq_none_iff] at hnone
    rw [hnone] at h
    cases h

theorem passes_setLocal {endpoint : EndpointId} {owned owned' : LocalEndpoint}
    (howned : w.local? endpoint = some owned) (hshuts : owned.ShutOnlyIf (shut endpoint) owned') :
    Passes may shut w (w.setLocal endpoint owned') :=
  ⟨shutsOnly_setLocal howned hshuts, rfl, rfl, rfl, fun _ => rfl, [], (List.append_nil _).symm,
    List.forall_mem_nil _⟩

/-- A new endpoint is open. -/
theorem shutsOnly_addEndpoint (w : World) (name : String) (client : Option ClientId)
    (plan : Option EndpointPlan) :
    ShutsOnly shut w (w.addEndpoint ⟨.fresh name, client, plan⟩).2 where
  endpoint {endpoint owned} h := by
    obtain ⟨cell, hcell, rfl⟩ := Option.map_eq_some_iff.1 h
    refine ⟨_, ?_, .refl _⟩
    show ((w.endpoints ++ [_])[endpoint]?).map _ = _
    rw [List.getElem?_append_left (List.getElem?_eq_some_iff.1 hcell).1, hcell]
    rfl
  created {endpoint owned'} hnone h := by
    obtain ⟨cell, hcell, rfl⟩ := Option.map_eq_some_iff.1 h
    have hcell' : (w.endpoints ++ [⟨.fresh name, client, plan⟩])[endpoint]? = some cell := hcell
    rw [List.getElem?_append_right (List.getElem?_eq_none_iff.1 (Option.map_eq_none_iff.1 hnone))]
      at hcell'
    rw [List.mem_singleton.1 (List.mem_of_getElem? hcell')]
    exact ⟨name, .refl _⟩

theorem passes_addEndpoint (w : World) (name : String) (client : Option ClientId)
    (plan : Option EndpointPlan) :
    Passes may shut w (w.addEndpoint ⟨.fresh name, client, plan⟩).2 :=
  ⟨shutsOnly_addEndpoint w name client plan, rfl, rfl, rfl, fun _ => rfl, [],
    (List.append_nil _).symm,
    List.forall_mem_nil _⟩

theorem passes_signalDrained (w : World) (endpoint : EndpointId) :
    Passes may shut w (w.signalDrained endpoint) := by
  unfold signalDrained
  split
  · exact passes_signal w _
  · exact .refl w

theorem passes_leaveEndpoint (w : World) (task : TaskId) (endpoint : EndpointId) :
    Passes may shut w (w.leaveEndpoint task endpoint) := by
  unfold leaveEndpoint
  split
  next => exact .refl w
  next owned howned =>
    exact (passes_setLocal howned (owned.shutOnlyIf_taskEnded task)).trans
      (passes_signalDrained _ _)

theorem passes_leaveOwner (w : World) (task : TaskId) (owner : Option EndpointId) :
    Passes may shut w (w.leaveOwner task owner) := by
  cases owner with
  | none => exact .refl w
  | some endpoint => exact passes_leaveEndpoint w task endpoint

theorem passes_closeLocal (w : World) (endpoint : EndpointId) :
    Passes may shut w (w.closeLocal endpoint) := by
  unfold closeLocal
  split
  next => exact .refl w
  next owned howned =>
    have hshuts : owned.ShutOnlyIf (shut endpoint) owned.close.2 := owned.shutOnlyIf_close
    split
    next => exact .refl w
    next closed hclose =>
      rw [hclose] at hshuts
      exact (((passes_setLocal howned hshuts).trans (passes_signal _ _)).trans
        (passes_signalDrained _ _)).trans (.foldl (fun w _ => passes_signal w _) _ _)

theorem passes_finishLocal (w : World) {endpoint : EndpointId} (hover : shut endpoint) :
    Passes may shut w (w.finishLocal endpoint) := by
  unfold finishLocal
  split
  next => exact .refl w
  next owned howned =>
    have hshuts : owned.ShutOnlyIf (shut endpoint) owned.finish.2 := owned.shutOnlyIf_finish hover
    split
    next => exact .refl w
    next closed hclose =>
      rw [hclose] at hshuts
      exact (passes_setLocal howned hshuts).trans (passes_signal _ _)

theorem passes_closeEndpoint (w : World) (client : ClientId) (endpoint : EndpointId) :
    Passes may shut w (w.closeEndpoint client endpoint) := by
  have hcontact : Passes may shut w (w.contact client (.closeEndpoint endpoint)) :=
    passes_contact w client _
  unfold closeEndpoint
  dsimp only
  split
  next => exact hcontact.trans (passes_closeLocal _ _)
  next =>
    have hclose : Event.report? .endpointClose = none := rfl
    have hemit := hcontact.trans (passes_emit _ hclose)
    split
    · exact hemit.trans (passes_closeLocal _ _)
    · exact hemit.trans (passes_swallowPanic _ client _ _)
    · exact hemit
    · exact hemit.trans (passes_swallow _ client _ _)

/-! ## Strategies and configurations -/

theorem passes_modifyStrategy (w : World) (strategy : StrategyId)
    (change : StrategyCell → StrategyCell) : Passes may shut w (w.modifyStrategy strategy change) :=
  .of_eq rfl rfl rfl rfl rfl rfl

theorem passes_keepStrategy (w : World) (client : ClientId) (endpoint : EndpointId)
    (plan : StrategyPlan) : Passes may shut w (w.keepStrategy client endpoint plan).2 := by
  have hadd : Passes may shut w
      { w with strategies := w.strategies ++ [⟨client, plan, 0, none⟩] } :=
    .of_eq rfl rfl rfl rfl rfl rfl
  exact (hadd.trans (passes_contact _ client _)).trans (passes_modifyClient _ client fun _ => rfl)

theorem passes_releaseConfig (w : World) (config : Nat) :
    Passes may shut w (w.releaseConfig config).2 := by
  unfold releaseConfig
  split
  next => exact .refl w
  next =>
    refine .trans ?_ (.foldl (fun w e => passes_emit w rfl) _ _)
    exact .of_eq rfl rfl rfl rfl rfl rfl

theorem passes_releaseForTeardown (w : World) (client : ClientId) :
    Passes may shut w (w.releaseForTeardown client) := by
  unfold releaseForTeardown
  split
  next => exact .refl w
  next c _ =>
    have hrelease : Passes may shut w ((w.contact client .release).releaseConfig c.config).2 :=
      (passes_contact w client .release).trans (passes_releaseConfig _ _)
    split
    next hresult => rwa [hresult] at hrelease
    next hresult =>
      rw [hresult] at hrelease
      exact hrelease.trans (passes_swallow _ client _ _)

theorem passes_addDisposer (w : World) (config : Nat) (disposer : Disposer) :
    Passes may shut w (w.addDisposer config disposer).2 := by
  unfold addDisposer
  split
  · exact .refl w
  · exact .of_eq rfl rfl rfl rfl rfl rfl

/-! ## Tasks -/

/-- A new task that holds no handle. -/
theorem passes_addTask (w : World) {control : Control}
    (hmay : ∀ client, control.mayClose client = true → may client = true)
    (owner : Option EndpointId) : Passes may shut w (w.addTask control [] none owner).2 :=
  .of_endpoints rfl rfl rfl (fun _ => rfl)
    ⟨_, rfl, fun t ht => by rw [List.mem_singleton.1 ht]; exact ⟨rfl, rfl, hmay⟩⟩ rfl

theorem passes_spawn (w : World) {control : Control}
    (hmay : ∀ client, control.mayClose client = true → may client = true)
    (owner : Option EndpointId) : Passes may shut w (w.spawn control [] none owner).2 := by
  unfold spawn
  split
  · exact passes_addTask w hmay owner
  · exact .of_eq rfl rfl rfl rfl rfl rfl

theorem passes_spawnOwned (w : World) (endpoint : EndpointId) (script : List OwnedStep) :
    Passes may shut w (w.spawnOwned endpoint script).2 := by
  unfold spawnOwned
  split
  next => exact .refl w
  next owned howned =>
    split
    next => exact .refl w
    next taken hspawn =>
      exact (passes_setLocal howned (LocalEndpoint.shutOnlyIf_spawn hspawn)).trans
        (passes_spawn _ (fun _ h => by cases h) _)

theorem passes_startOwned (w : World) (endpoint : EndpointId) (tasks : List Nat) :
    Passes may shut w (w.startOwned endpoint tasks) :=
  .foldl (fun w ms => passes_spawnOwned w endpoint [.shutdown, .sleep ms]) w tasks

theorem passes_handOver (w : World) (client : ClientId) (teardown : Teardown) :
    Passes may shut w (w.handOver client teardown).2 := by
  have hmark : Passes may shut w (w.markClosed client) := by
    refine Passes.trans ?_ (passes_untrack _ client)
    exact passes_modifyClient w client fun _ => rfl
  have hspawn : Passes may shut (w.markClosed client)
      ((w.markClosed client).spawn (.call (.teardown teardown .shutdown)) [] none none).2 :=
    passes_spawn _ (fun _ h => by cases h) none
  exact (hmark.trans hspawn).trans (passes_contact _ client _)

/-! ## Dropped calls -/

theorem passes_dropControl (w : World) (task : TaskId) (control : Control) :
    Passes may shut w (w.dropControl task control) := by
  unfold dropControl
  split
  · exact passes_leaveLock w task _
  · exact passes_leaveLock w task _
  · exact passes_leaveLock w task _
  · exact passes_leaveLock w task _
  · exact .refl w

theorem passes_dropFrame (w : World) (task : TaskId) (frame : Frame) :
    Passes may shut w (w.dropFrame task frame) := by
  cases frame with
  | creation client | channel client => exact passes_leaveLock w task client
  | supply handler operation | operation handler operation =>
      exact passes_endOperation w handler operation
  | opening operation body site => exact passes_endOperation w site.handler operation
  | teardown t pause =>
      cases pause with
      | drain => exact (passes_releaseForTeardown w t.client).trans (passes_leaveLock _ task _)
      | strategy | endpoint => exact passes_leaveLock w task t.client
  | _ => exact .refl w

theorem passes_dropFrames (w : World) (task : TaskId) (frames : List Frame) :
    Passes may shut w (w.dropFrames task frames) :=
  .foldl (fun w frame => passes_dropFrame w task frame) w frames

end Passes

end World

end Remoting
