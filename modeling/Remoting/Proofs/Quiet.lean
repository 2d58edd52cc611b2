import Remoting.Proofs.Run

/-!
# What most changes leave alone

Most of what happens in a world touches no task, no lock, no state of a client and no entry of the
journal of calls: it writes to the log, moves an endpoint on, or cancels operations. `Quiet` says so
of two worlds, and there is one lemma for each such change. `Parts` says what no change at all takes
back: a handler keeps its source of channels, an endpoint and a strategy keep their behaviour.
-/

namespace Remoting

/-- The client that a source of channels belongs to. -/
def Supplier.client? : Supplier → Option ClientId
  | plan .. => none
  | client owner => some owner

namespace World

/-- The client that the source of a handler belongs to, for a handler that exists. -/
def source? (w : World) (handler : HandlerId) : Option (Option ClientId) :=
  w.handlers[handler]?.map fun h => h.supplier.client?

/-- The lock of a client. -/
def lock? (w : World) (client : ClientId) : Option Lock :=
  w.clients[client]?.map fun c => c.lock

/-- The task that has the lock of a client. -/
def owner? (w : World) (client : ClientId) : Option TaskId :=
  w.clients[client]?.bind fun c => c.lock.owner

/-- The connection of a client. -/
def state? (w : World) (client : ClientId) : Option ClientState :=
  w.clients[client]?.map fun c => c.state

/-- Whether the close of a client has begun. -/
def closed? (w : World) (client : ClientId) : Option Bool :=
  w.clients[client]?.map fun c => c.closed

/-- Whether a task was started: it is there or has ended. -/
def Started (w : World) (task : TaskId) : Prop :=
  (∃ t ∈ w.tasks, t.id = task) ∨ ∃ finish, w.finish? task = some finish

/-- What the second world keeps of handlers, strategies and endpoints. -/
structure Parts (w u : World) : Prop where
  source : ∀ {handler : HandlerId} {client? : Option ClientId},
    w.source? handler = some client? → u.source? handler = some client?
  strategy : ∀ {strategy : StrategyId} {cell : StrategyCell},
    w.strategies[strategy]? = some cell →
      ∃ cell' : StrategyCell, u.strategies[strategy]? = some cell' ∧ cell'.plan = cell.plan ∧
        cell.calls ≤ cell'.calls
  endpoint : ∀ {endpoint : EndpointId} {cell : EndpointCell},
    w.endpoints[endpoint]? = some cell →
      ∃ cell' : EndpointCell, u.endpoints[endpoint]? = some cell' ∧ cell'.plan = cell.plan ∧
        cell'.endpoint.name = cell.endpoint.name

/-- The second world has the locks, client states, calls, tokens and endpoints of the first, and the
ends of tasks, except that new tasks may have been lost. -/
structure Alike (w u : World) : Prop extends Parts w u where
  nextTask : w.nextTask ≤ u.nextTask
  started : ∀ {task : TaskId}, w.Started task → u.Started task
  finished : ∀ {task : TaskId} {finish : Finish}, w.finish? task = some finish →
    u.finish? task = some finish
  ended : ∀ {task : TaskId} {finish : Finish}, u.finish? task = some finish →
    finish = .aborted ∨ w.finish? task = some finish
  contacts : u.contacts = w.contacts
  lock : ∀ client, u.lock? client = w.lock? client
  state : ∀ client, u.state? client = w.state? client
  closed : ∀ client, u.closed? client = w.closed? client
  cancelled : u.cancelled = w.cancelled
  endpoints : u.endpoints.length = w.endpoints.length

/-- Two worlds have the same tasks. -/
structure SameTasks (w u : World) : Prop where
  tasks : u.tasks = w.tasks
  nextTask : u.nextTask = w.nextTask
  finished : u.finished = w.finished

/-- The second world is like the first, and no task has gone on. -/
structure Quiet (w u : World) : Prop extends Alike w u where
  same : SameTasks w u

theorem Parts.refl (w : World) : Parts w w :=
  ⟨fun h => h, fun h => ⟨_, h, rfl, Nat.le_refl _⟩, fun h => ⟨_, h, rfl, rfl⟩⟩

theorem Parts.trans {w v u : World} (h : Parts w v) (h' : Parts v u) : Parts w u where
  source hsource := h'.source (h.source hsource)
  strategy hcell := by
    obtain ⟨first, hfirst, hplan, hcalls⟩ := h.strategy hcell
    obtain ⟨second, hsecond, hplan', hcalls'⟩ := h'.strategy hfirst
    exact ⟨second, hsecond, hplan'.trans hplan, Nat.le_trans hcalls hcalls'⟩
  endpoint hcell := by
    obtain ⟨first, hfirst, hplan, hname⟩ := h.endpoint hcell
    obtain ⟨second, hsecond, hplan', hname'⟩ := h'.endpoint hfirst
    exact ⟨second, hsecond, hplan'.trans hplan, hname'.trans hname⟩

/-- Worlds with the same handlers, strategies and endpoints keep them. -/
theorem Parts.of_eq {w u : World} (handlers : u.handlers = w.handlers)
    (strategies : u.strategies = w.strategies) (endpoints : u.endpoints = w.endpoints) :
    Parts w u where
  source h := by
    simpa only [source?, handlers] using h
  strategy h := ⟨_, by rw [strategies]; exact h, rfl, Nat.le_refl _⟩
  endpoint h := ⟨_, by rw [endpoints]; exact h, rfl, rfl⟩

theorem SameTasks.trans {w v u : World} (h : SameTasks w v) (h' : SameTasks v u) :
    SameTasks w u where
  tasks := h'.tasks.trans h.tasks
  nextTask := h'.nextTask.trans h.nextTask
  finished := h'.finished.trans h.finished

theorem SameTasks.finish? {w u : World} (h : SameTasks w u) (task : TaskId) :
    u.finish? task = w.finish? task := by
  rw [World.finish?, World.finish?, h.finished]

theorem Alike.trans {w v u : World} (h : Alike w v) (h' : Alike v u) : Alike w u where
  toParts := h.toParts.trans h'.toParts
  nextTask := Nat.le_trans h.nextTask h'.nextTask
  started hstarted := h'.started (h.started hstarted)
  finished hfinish := h'.finished (h.finished hfinish)
  ended hfinish := by
    rcases h'.ended hfinish with haborted | hfinish
    · exact .inl haborted
    · exact h.ended hfinish
  contacts := h'.contacts.trans h.contacts
  lock client := (h'.lock client).trans (h.lock client)
  state client := (h'.state client).trans (h.state client)
  closed client := (h'.closed client).trans (h.closed client)
  cancelled := h'.cancelled.trans h.cancelled
  endpoints := h'.endpoints.trans h.endpoints

/-- Whoever has a lock is known from the lock. -/
theorem owner?_eq (w : World) (client : ClientId) :
    w.owner? client = (w.lock? client).bind Lock.owner := by
  rw [owner?, lock?, Option.bind_map]
  rfl

theorem Alike.owner {w u : World} (h : Alike w u) (client : ClientId) :
    u.owner? client = w.owner? client := by
  rw [owner?_eq, owner?_eq, h.lock]

/-- Worlds with the same tasks, calls, locks, client states, tokens and endpoints. -/
theorem Quiet.of_same {w u : World} (parts : Parts w u) (same : SameTasks w u)
    (contacts : u.contacts = w.contacts) (lock : ∀ client, u.lock? client = w.lock? client)
    (state : ∀ client, u.state? client = w.state? client)
    (closed : ∀ client, u.closed? client = w.closed? client) (cancelled : u.cancelled = w.cancelled)
    (endpoints : u.endpoints.length = w.endpoints.length) : Quiet w u where
  toParts := parts
  nextTask := Nat.le_of_eq same.nextTask.symm
  started hstarted := by
    simpa only [Started, same.tasks, same.finish?] using hstarted
  finished hfinish := by rwa [same.finish?]
  ended hfinish := by
    rw [same.finish?] at hfinish
    exact .inr hfinish
  contacts := contacts
  lock := lock
  state := state
  closed := closed
  cancelled := cancelled
  endpoints := endpoints
  same := same

/-- Worlds that differ in nothing but handlers, strategies and endpoints, which are kept, and in
what is no task, client, call or token. -/
theorem Quiet.of_parts {w u : World} (parts : Parts w u) (tasks : u.tasks = w.tasks)
    (nextTask : u.nextTask = w.nextTask) (finished : u.finished = w.finished)
    (contacts : u.contacts = w.contacts) (clients : u.clients = w.clients)
    (cancelled : u.cancelled = w.cancelled)
    (endpoints : u.endpoints.length = w.endpoints.length) : Quiet w u :=
  .of_same parts ⟨tasks, nextTask, finished⟩ contacts
    (fun client => by rw [lock?, lock?, clients]) (fun client => by rw [state?, state?, clients])
    (fun client => by rw [closed?, closed?, clients]) cancelled endpoints

theorem Quiet.refl (w : World) : Quiet w w :=
  .of_parts (.refl w) rfl rfl rfl rfl rfl rfl rfl

theorem Quiet.trans {w v u : World} (h : Quiet w v) (h' : Quiet v u) : Quiet w u :=
  ⟨h.toAlike.trans h'.toAlike, h.same.trans h'.same⟩

/-- Endpoints keep their behaviour unless there are new ones. -/
theorem Parts.endpointPlan? {w u : World} (h : Parts w u)
    (hlength : u.endpoints.length = w.endpoints.length) (endpoint : EndpointId) :
    u.endpointPlan? endpoint = w.endpointPlan? endpoint := by
  simp only [World.endpointPlan?]
  cases hcell : w.endpoints[endpoint]? with
  | none =>
      have hnone : u.endpoints[endpoint]? = none := by
        rw [List.getElem?_eq_none_iff] at hcell ⊢
        rwa [hlength]
      rw [hnone]
  | some cell =>
      obtain ⟨cell', hcell', hplan, -⟩ := h.endpoint hcell
      rw [hcell', Option.bind_some, Option.bind_some, hplan]

/-- Endpoints keep their name unless there are new ones. -/
theorem Parts.endpointName {w u : World} (h : Parts w u)
    (hlength : u.endpoints.length = w.endpoints.length) (endpoint : EndpointId) :
    u.endpointName endpoint = w.endpointName endpoint := by
  simp only [World.endpointName, h.endpointPlan? hlength endpoint, local?]
  cases hcell : w.endpoints[endpoint]? with
  | none =>
      have hnone : u.endpoints[endpoint]? = none := by
        rw [List.getElem?_eq_none_iff] at hcell ⊢
        rwa [hlength]
      rw [hnone]
  | some cell =>
      obtain ⟨cell', hcell', -, hname⟩ := h.endpoint hcell
      simp only [hcell', Option.map_some, hname]

/-- A fold of quiet changes is quiet. -/
theorem Quiet.foldl {α : Type} {change : World → α → World} (h : ∀ w a, Quiet w (change w a))
    (w : World) (elements : List α) : Quiet w (elements.foldl change w) := by
  induction elements generalizing w with
  | nil => exact .refl w
  | cons a rest ih => exact (h w a).trans (ih (change w a))

/-! ## Journal and channels -/

theorem quiet_emit (w : World) (event : Event) : Quiet w (w.emit event) :=
  .of_parts (.of_eq rfl rfl rfl) rfl rfl rfl rfl rfl rfl rfl

theorem quiet_warn (w : World) (line : LogLine) : Quiet w (w.warn line) :=
  .of_parts (.of_eq rfl rfl rfl) rfl rfl rfl rfl rfl rfl rfl

theorem quiet_signal (w : World) (signal : Signal) : Quiet w (w.signal signal) :=
  .of_parts (.of_eq rfl rfl rfl) rfl rfl rfl rfl rfl rfl rfl

theorem quiet_swallow (w : World) (client : ClientId) (step : TeardownStep) (error : Error) :
    Quiet w (w.swallow client step error) :=
  quiet_warn w _

theorem quiet_swallowPanic (w : World) (client : ClientId) (step : TeardownStep)
    (content : Option Panic) : Quiet w (w.swallowPanic client step content) := by
  cases content with
  | none => exact .refl w
  | some content => exact quiet_swallow w client step _

theorem quiet_drainTimeout (w : World) (client : ClientId) : Quiet w (w.drainTimeout client) :=
  quiet_swallow w client _ _

theorem quiet_closeChannel (w : World) (channel : ChannelId) :
    Quiet w (w.closeChannel channel) := by
  unfold closeChannel
  split
  · exact .of_parts (.of_eq rfl rfl rfl) rfl rfl rfl rfl rfl rfl rfl
  · exact .refl w

theorem quiet_untrack (w : World) (client : ClientId) : Quiet w (w.untrack client) :=
  .of_parts (.of_eq rfl rfl rfl) rfl rfl rfl rfl rfl rfl rfl

theorem quiet_strand (w : World) (client : ClientId) : Quiet w (w.strand client) :=
  .of_parts (.of_eq rfl rfl rfl) rfl rfl rfl rfl rfl rfl rfl

theorem quiet_reportLeak (w : World) (client : ClientId) (trace : AllocationTrace) :
    Quiet w (w.reportLeak client trace).1 := by
  unfold reportLeak
  split
  · exact quiet_warn w _
  · exact quiet_emit w _
  · exact quiet_emit w _

/-! ## Handlers -/

/-- A change of a handler that keeps the source of its channels. -/
theorem quiet_modifyHandler (w : World) (handler : HandlerId) {change : Handler → Handler}
    (hsource : ∀ {h}, w.handlers[handler]? = some h →
      (change h).supplier.client? = h.supplier.client?) :
    Quiet w (w.modifyHandler handler change) := by
  refine .of_parts ⟨fun {other client?} h => ?_, fun h => ⟨_, h, rfl, Nat.le_refl _⟩,
    fun h => ⟨_, h, rfl, rfl⟩⟩ rfl rfl rfl rfl rfl rfl rfl
  simp only [source?, modifyHandler, List.getElem?_modify] at h ⊢
  rw [← h]
  cases hcell : w.handlers[other]? with
  | none => rfl
  | some cell =>
      by_cases hother : handler = other
      · subst hother
        simp [hsource hcell]
      · simp [hother]

theorem quiet_endOperation (w : World) (handler : HandlerId) (operation : OperationId) :
    Quiet w (w.endOperation handler operation) := by
  refine .trans ?_ (quiet_signal _ _)
  exact quiet_modifyHandler w handler fun _ => rfl

theorem quiet_registerOperation (w : World) (handler : HandlerId) :
    Quiet w (w.registerOperation handler).2 := by
  unfold registerOperation
  split
  · exact .refl w
  · dsimp only
    split
    · refine .trans ?_ (quiet_signal _ _)
      exact quiet_modifyHandler w handler fun _ => rfl
    · exact quiet_modifyHandler w handler fun _ => rfl

theorem quiet_bindOperation (w : World) (handler : HandlerId) (operation : OperationId)
    (channel : ChannelId) : Quiet w (w.bindOperation handler operation channel) :=
  quiet_modifyHandler w handler fun _ => rfl

theorem quiet_cancelOperations (w : World) (handler : HandlerId)
    (cancel : Tracker → Tracker.Cancellation) : Quiet w (w.cancelOperations handler cancel).2 := by
  unfold cancelOperations
  split
  · exact .refl w
  · refine .trans (.trans ?_ (.foldl (fun w _ => quiet_warn w _) _ _))
      (.foldl (fun w _ => quiet_signal w _) _ _)
    exact quiet_modifyHandler w handler fun _ => rfl

theorem quiet_shutdownHandler (w : World) (handler : HandlerId) :
    Quiet w (w.shutdownHandler handler) :=
  quiet_modifyHandler w handler fun _ => rfl

theorem quiet_shutdownHandlerNow (w : World) (handler : HandlerId) :
    Quiet w (w.shutdownHandlerNow handler) :=
  (quiet_shutdownHandler w handler).trans (quiet_cancelOperations _ handler _)

theorem quiet_handlerChannelClosed (w : World) (handler : HandlerId) (channel : ChannelId)
    (cause : Option Error) : Quiet w (w.handlerChannelClosed handler channel cause) :=
  quiet_cancelOperations w handler _

theorem quiet_shutdownAssociation (w : World) (client : ClientId) :
    Quiet w (w.shutdownAssociation client).1 := by
  unfold shutdownAssociation
  split
  · exact quiet_shutdownHandler w _
  · exact quiet_emit w _
  · exact .refl w

theorem quiet_shutdownAssociationNow (w : World) (client : ClientId) :
    Quiet w (w.shutdownAssociationNow client).1 := by
  unfold shutdownAssociationNow
  split
  · exact quiet_shutdownHandlerNow w _
  · exact quiet_emit w _
  · exact .refl w

theorem quiet_callAssociation (w : World) (client : ClientId) (call : Option AssociationCall) :
    Quiet w (w.callAssociation client call).1 := by
  match call with
  | none => exact .refl w
  | some .shutdown => exact quiet_shutdownAssociation w client
  | some .shutdownNow => exact quiet_shutdownAssociationNow w client

theorem quiet_associationChannelClosed (w : World) (client : ClientId) (channel : ChannelId)
    (cause : Option Error) : Quiet w (w.associationChannelClosed client channel cause) := by
  unfold associationChannelClosed
  split
  · exact quiet_handlerChannelClosed w _ _ _
  · exact quiet_emit w _
  · exact .refl w

/-! ## Endpoints -/

/-- A change of what an endpoint owns that keeps its name. -/
theorem quiet_setLocal (w : World) {endpoint : EndpointId} {owned : LocalEndpoint}
    (hname : ∀ {cell}, w.endpoints[endpoint]? = some cell → owned.name = cell.endpoint.name) :
    Quiet w (w.setLocal endpoint owned) := by
  refine .of_parts ⟨fun h => h, fun h => ⟨_, h, rfl, Nat.le_refl _⟩, fun {other cell} h => ?_⟩
    rfl rfl rfl rfl rfl rfl (List.length_modify ..)
  show ∃ cell', (w.endpoints.modify endpoint _)[other]? = some cell' ∧ _
  rw [List.getElem?_modify, h]
  by_cases hother : endpoint = other
  · subst hother
    exact ⟨_, rfl, by simp, by simpa using hname h⟩
  · exact ⟨cell, by simp [hother], rfl, rfl⟩

/-- The owned part of an endpoint has the name of the endpoint. -/
theorem name_of_local? {w : World} {endpoint : EndpointId} {owned : LocalEndpoint}
    (h : w.local? endpoint = some owned) {cell : EndpointCell}
    (hcell : w.endpoints[endpoint]? = some cell) : owned.name = cell.endpoint.name := by
  simp only [local?, hcell, Option.map_some, Option.some.injEq] at h
  rw [h]

theorem quiet_signalDrained (w : World) (endpoint : EndpointId) :
    Quiet w (w.signalDrained endpoint) := by
  unfold signalDrained
  split
  · exact quiet_signal w _
  · exact .refl w

theorem quiet_leaveEndpoint (w : World) (task : TaskId) (endpoint : EndpointId) :
    Quiet w (w.leaveEndpoint task endpoint) := by
  unfold leaveEndpoint
  split
  next => exact .refl w
  next owned h =>
    refine .trans ?_ (quiet_signalDrained _ _)
    exact quiet_setLocal w fun hcell => name_of_local? h hcell

theorem quiet_closeLocal (w : World) (endpoint : EndpointId) : Quiet w (w.closeLocal endpoint) := by
  unfold closeLocal
  split
  next => exact .refl w
  next owned h =>
    split
    next => exact .refl w
    next closed hclose =>
      have hname : closed.name = owned.name := by
        simp only [LocalEndpoint.close] at hclose
        split at hclose <;> simp only [Prod.mk.injEq, Bool.false_eq_true, false_and] at hclose
        rw [← hclose.2]
      refine .trans (.trans (.trans ?_ (quiet_signal _ _)) (quiet_signalDrained _ _))
        (.foldl (fun w _ => quiet_signal w _) _ _)
      exact quiet_setLocal w fun hcell => hname.trans (name_of_local? h hcell)

theorem quiet_finishLocal (w : World) (endpoint : EndpointId) :
    Quiet w (w.finishLocal endpoint) := by
  unfold finishLocal
  split
  next => exact .refl w
  next owned h =>
    split
    next => exact .refl w
    next closed hclose =>
      have hname : closed.name = owned.name := by
        simp only [LocalEndpoint.finish, Prod.mk.injEq] at hclose
        rw [← hclose.2]
      refine .trans ?_ (quiet_signal _ _)
      exact quiet_setLocal w fun hcell => hname.trans (name_of_local? h hcell)

/-! ## Strategies and configurations -/

/-- A change of a strategy that keeps its behaviour and loses no call. -/
theorem quiet_modifyStrategy (w : World) (strategy : StrategyId)
    {change : StrategyCell → StrategyCell}
    (hplan : ∀ cell, (change cell).plan = cell.plan)
    (hcalls : ∀ cell, cell.calls ≤ (change cell).calls) :
    Quiet w (w.modifyStrategy strategy change) := by
  refine .of_parts ⟨fun h => h, fun {other cell} h => ?_, fun h => ⟨_, h, rfl, rfl⟩⟩
    rfl rfl rfl rfl rfl rfl rfl
  show ∃ cell', (w.strategies.modify strategy change)[other]? = some cell' ∧ _
  rw [List.getElem?_modify, h]
  by_cases hother : strategy = other
  · exact ⟨change cell, by simp [hother], hplan cell, hcalls cell⟩
  · exact ⟨cell, by simp [hother], rfl, Nat.le_refl _⟩

theorem quiet_strategyClosed (w : World) (strategy : StrategyId) :
    Quiet w (w.strategyClosed strategy) := by
  unfold strategyClosed
  dsimp only
  split
  · exact (quiet_closeChannel w _).trans (quiet_emit _ _)
  · exact quiet_emit w _

theorem quiet_releaseConfig (w : World) (config : Nat) : Quiet w (w.releaseConfig config).2 := by
  unfold releaseConfig
  split
  · exact .refl w
  · refine .trans ?_ (.foldl (fun w _ => quiet_emit w _) _ _)
    exact .of_parts (.of_eq rfl rfl rfl) rfl rfl rfl rfl rfl rfl rfl

theorem quiet_addDisposer (w : World) (config : Nat) (disposer : Disposer) :
    Quiet w (w.addDisposer config disposer).2 := by
  unfold addDisposer
  split
  · exact .refl w
  · exact .of_parts (.of_eq rfl rfl rfl) rfl rfl rfl rfl rfl rfl rfl

/-! ## Clients -/

/-- A change of a client that leaves its lock and its connection alone. -/
theorem quiet_modifyClient (w : World) (client : ClientId) {change : Client → Client}
    (hlock : ∀ c, (change c).lock = c.lock) (hstate : ∀ c, (change c).state = c.state)
    (hclosed : ∀ c, (change c).closed = c.closed) : Quiet w (w.modifyClient client change) := by
  refine .of_same (.of_eq rfl rfl rfl) ⟨rfl, rfl, rfl⟩ rfl (fun other => ?_) (fun other => ?_)
    (fun other => ?_) rfl rfl
  · simp only [lock?, modifyClient, List.getElem?_modify]
    cases w.clients[other]? with
    | none => rfl
    | some c => by_cases h : client = other <;> simp [h, hlock]
  · simp only [state?, modifyClient, List.getElem?_modify]
    cases w.clients[other]? with
    | none => rfl
    | some c => by_cases h : client = other <;> simp [h, hstate]
  · simp only [closed?, modifyClient, List.getElem?_modify]
    cases w.clients[other]? with
    | none => rfl
    | some c => by_cases h : client = other <;> simp [h, hclosed]

end World

end Remoting
