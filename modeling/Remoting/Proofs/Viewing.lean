import Remoting.Proofs.Serial

/-!
# What calls see of a world with one client

A `View` is what decides how calls for a channel and closes go on: the client apart from its lock,
its configuration, its endpoint and its strategy. `View.Shows` says that a world with one client
looks like a client that is used by one call at a time. Most changes of a world leave its view
alone, and there is one lemma for each of them.
-/

namespace Remoting

/-- A client apart from its lock. -/
def Client.unlocked (c : Client) : Client := { c with lock := .free }

/-- What calls for a channel and closes see of a world. -/
structure View where
  clients : List Client
  /-- The endpoints with their behaviours, whether they were asked to close, and whether they have
  told their tasks to finish. -/
  endpoints : List (Option EndpointPlan × Bool × Bool)
  /-- The tasks that endpoints own. -/
  owned : List TaskId
  /-- The strategies with their behaviours, and how often they were asked for a channel. -/
  strategies : List (StrategyPlan × Nat)
  configs : List Config
  cancelled : List TokenName
  closedChannels : List ChannelId
  running : Bool

/-- What a call sees of an endpoint. -/
def EndpointCell.seen (cell : EndpointCell) : Option EndpointPlan × Bool × Bool :=
  (cell.plan, cell.endpoint.state.isCloseRequested, cell.endpoint.cancelled)

/-- What a call sees of a strategy. -/
def StrategyCell.seen (cell : StrategyCell) : StrategyPlan × Nat :=
  (cell.plan, cell.calls)

/-- What calls see of a world. -/
def World.view (w : World) : View where
  clients := w.clients.map Client.unlocked
  endpoints := w.endpoints.map EndpointCell.seen
  owned := w.endpoints.flatMap fun cell => cell.endpoint.tasks
  strategies := w.strategies.map StrategyCell.seen
  configs := w.configs.map fun cell => cell.config
  cancelled := w.cancelled
  closedChannels := w.closedChannels
  running := w.running

/-- A client looks like one that is used by one call at a time. -/
structure Client.Shows (c : Client) (s : Serial) : Prop where
  association : c.association = s.association
  factory : c.factory = s.factory
  endpointCalls : c.endpointCalls = s.endpointCalls
  strategyCalls : c.strategyCalls = s.strategyCalls
  state : c.state = s.state
  held : c.held = true

/-- A world has one client, which looks like one that is used by one call at a time. Nothing has
been interrupted, and no channel is closed before the client is. -/
structure View.Shows (view : View) (s : Serial) : Prop where
  client : ∃ c, view.clients = [c] ∧ c.Shows s ∧ view.configs[c.config]? = some s.config
  endpoints : view.endpoints = s.endpoint.toList.map (·, s.asked, s.asked)
  strategies : view.strategies = s.strategy.toList.map (·, s.channelCalls)
  asked : s.outcome = none → s.asked = false
  cancelled : view.cancelled = []
  closedChannels : s.outcome = none → view.closedChannels = []
  running : view.running = true

/-- A part of the elements of a list after one of them has changed. -/
theorem map_modify {α β : Type} {part : α → β} {change : α → α} {change' : β → β}
    (h : ∀ a, part (change a) = change' (part a)) (elements : List α) (place : Nat) :
    (elements.modify place change).map part = (elements.map part).modify place change' := by
  refine List.ext_getElem? fun i => ?_
  rw [List.getElem?_map, List.getElem?_modify, List.getElem?_modify, List.getElem?_map]
  cases elements[i]? with
  | none => rfl
  | some a =>
      dsimp only [Option.map_some, Option.map_eq_map]
      split
      · rw [h]
      · rfl

/-- What a change leaves alone stays the same in a list. -/
theorem map_modify_of_eq {α β : Type} {part : α → β} {change : α → α}
    (h : ∀ a, part (change a) = part a) (elements : List α) (place : Nat) :
    (elements.modify place change).map part = elements.map part := by
  have hsame : ∀ a, part (change a) = id (part a) := h
  rw [map_modify hsame, List.modify_id]

namespace World

variable {w u : World} {s : Serial}

/-! ## Changes that calls do not see -/

@[simp] theorem view_emit (w : World) (event : Event) : (w.emit event).view = w.view := rfl

@[simp] theorem view_warn (w : World) (line : LogLine) : (w.warn line).view = w.view := rfl

@[simp] theorem view_contact (w : World) (client : ClientId) (call : Contact) :
    (w.contact client call).view = w.view := rfl

@[simp] theorem view_signal (w : World) (signal : Signal) : (w.signal signal).view = w.view := rfl

@[simp] theorem view_swallow (w : World) (client : ClientId) (step : TeardownStep) (error : Error) :
    (w.swallow client step error).view = w.view := rfl

@[simp] theorem view_goto (w : World) (task : TaskId) (control : Control) (frames : List Frame) :
    (w.goto task control frames).view = w.view := rfl

@[simp] theorem view_drainTimeout (w : World) (client : ClientId) :
    (w.drainTimeout client).view = w.view := rfl

@[simp] theorem view_modifyHandler (w : World) (handler : HandlerId) (change : Handler → Handler) :
    (w.modifyHandler handler change).view = w.view := rfl

@[simp] theorem view_shutdownHandler (w : World) (handler : HandlerId) :
    (w.shutdownHandler handler).view = w.view := rfl

@[simp] theorem view_removeTask (w : World) (task : TaskId) : (w.removeTask task).view = w.view :=
  rfl

@[simp] theorem view_noteFinish (w : World) (task : TaskId) (finish : Finish) :
    (w.noteFinish task finish).view = w.view := rfl

@[simp] theorem view_swallowPanic (w : World) (client : ClientId) (step : TeardownStep)
    (content : Option Panic) : (w.swallowPanic client step content).view = w.view := by
  cases content <;> rfl

theorem view_foldl {α : Type} {change : World → α → World} (h : ∀ w a, (change w a).view = w.view)
    (w : World) (elements : List α) : (elements.foldl change w).view = w.view := by
  induction elements generalizing w with
  | nil => rfl
  | cons a rest ih => exact (ih (change w a)).trans (h w a)

@[simp] theorem view_spawn (w : World) (control : Control) (frames : List Frame)
    (handle : Option ClientId) (owner : Option EndpointId) :
    (w.spawn control frames handle owner).2.view = w.view := by
  unfold spawn
  split <;> rfl

@[simp] theorem view_cancelOperations (w : World) (handler : HandlerId)
    (cancel : Tracker → Tracker.Cancellation) :
    (w.cancelOperations handler cancel).2.view = w.view := by
  unfold cancelOperations
  split
  · rfl
  · dsimp only
    rw [view_foldl (fun w id => view_signal w _), view_foldl (fun w id => view_warn w _)]
    rfl

@[simp] theorem view_shutdownAssociation (w : World) (client : ClientId) :
    (w.shutdownAssociation client).1.view = w.view := by
  unfold shutdownAssociation
  split <;> rfl

@[simp] theorem view_shutdownAssociationNow (w : World) (client : ClientId) :
    (w.shutdownAssociationNow client).1.view = w.view := by
  unfold shutdownAssociationNow
  split
  · exact view_cancelOperations _ _ _
  · rfl
  · rfl

@[simp] theorem view_callAssociation (w : World) (client : ClientId)
    (call : Option AssociationCall) :
    (w.callAssociation client call).1.view = w.view := by
  unfold callAssociation
  split
  · rfl
  · exact view_shutdownAssociation w client
  · exact view_shutdownAssociationNow w client

theorem view_modifyConfig (w : World) (config : Nat) (release : ConfigCell → Release) :
    World.view
      { w with configs := w.configs.modify config fun c => { c with release := release c } } =
      w.view := by
  have hconfigs : (w.configs.modify config fun c => { c with release := release c }).map
      (fun cell => cell.config) = w.configs.map fun cell => cell.config :=
    @map_modify_of_eq ConfigCell _ _ (fun c => { c with release := release c }) (fun _ => rfl) _ _
  simp only [view, hconfigs]

@[simp] theorem view_releaseConfig (w : World) (config : Nat) :
    (w.releaseConfig config).2.view = w.view := by
  unfold releaseConfig
  split
  · rfl
  · dsimp only
    rw [view_foldl (fun w e => view_emit w _)]
    exact view_modifyConfig w config _

@[simp] theorem view_releaseForTeardown (w : World) (client : ClientId) :
    (w.releaseForTeardown client).view = w.view := by
  unfold releaseForTeardown
  split
  · rfl
  · next c _ =>
    have hrelease := view_releaseConfig (w.contact client .release) c.config
    split
    next heq => rwa [heq] at hrelease
    next heq =>
      rw [heq] at hrelease
      exact hrelease

/-! ## Changes of the client -/

theorem clients_modifyClient {c : Client} (hc : w.clients = [c]) (change : Client → Client) :
    (w.modifyClient 0 change).clients = [change c] := by
  rw [modifyClient, hc]
  rfl

/-- A change of no more than locks. -/
theorem view_modifyClient (w : World) (client : ClientId) {change : Client → Client}
    (h : ∀ c, (change c).unlocked = c.unlocked) : (w.modifyClient client change).view = w.view := by
  have hclients := map_modify_of_eq h w.clients client
  simp only [view, modifyClient, hclients]

@[simp] theorem view_requestLock (w : World) (task : TaskId) (client : ClientId) :
    (w.requestLock task client).view = w.view :=
  view_modifyClient w client fun _ => rfl

@[simp] theorem view_giveLock (w : World) (client : ClientId) (task : TaskId) :
    (w.giveLock client task).view = w.view :=
  view_modifyClient w client fun _ => rfl

@[simp] theorem view_leaveLock (w : World) (task : TaskId) (client : ClientId) :
    (w.leaveLock task client).view = w.view := by
  have hleave : (w.modifyClient client fun c => { c with lock := c.lock.leave task }).view =
      w.view :=
    view_modifyClient w client fun _ => rfl
  unfold leaveLock
  dsimp only
  split
  · exact hleave
  · exact hleave

/-- The client and its configuration. -/
theorem exists_client (h : w.view.Shows s) : ∃ c, w.clients = [c] ∧ c.Shows s ∧
    ∃ cell, w.configs[c.config]? = some cell ∧ cell.config = s.config := by
  obtain ⟨c', hclients, hshows, hconfig⟩ := h.client
  obtain ⟨c, hc, rfl⟩ := List.map_eq_singleton_iff.1 hclients
  have hconfig' : (w.configs.map fun cell => cell.config)[c.config]? = some s.config := hconfig
  rw [List.getElem?_map, Option.map_eq_some_iff] at hconfig'
  obtain ⟨cell, hcell, hsame⟩ := hconfig'
  exact ⟨c, hc, ⟨hshows.association, hshows.factory, hshows.endpointCalls, hshows.strategyCalls,
    hshows.state, hshows.held⟩, cell, hcell, hsame⟩

/-- The client and its configuration as calls look them up. -/
theorem exists_configOf? (h : w.view.Shows s) : ∃ c cell, w.clients[0]? = some c ∧ c.Shows s ∧
    w.configOf? 0 = some cell ∧ cell.config = s.config := by
  obtain ⟨c, hc, hshows, cell, hcell, hconfig⟩ := exists_client h
  have hlookup : w.clients[0]? = some c := by rw [hc]; rfl
  refine ⟨c, cell, hlookup, hshows, ?_, hconfig⟩
  rw [configOf?, hlookup]
  exact hcell

/-- A change of the client, in a world in which the rest already looks as it has to. -/
theorem Shows.modifyClient {s' : Serial} {change : Client → Client} (h : w.view.Shows s)
    (hclients : u.view.clients = w.view.clients) (hconfigs : u.view.configs = w.view.configs)
    (hchange : ∀ c : Client, c.Shows s → (change c).Shows s' ∧ (change c).config = c.config)
    (hconfig : s'.config = s.config)
    (endpoints : u.view.endpoints = s'.endpoint.toList.map (·, s'.asked, s'.asked))
    (strategies : u.view.strategies = s'.strategy.toList.map (·, s'.channelCalls))
    (asked : s'.outcome = none → s'.asked = false) (cancelled : u.view.cancelled = [])
    (closedChannels : s'.outcome = none → u.view.closedChannels = [])
    (running : u.view.running = true) : (u.modifyClient 0 change).view.Shows s' := by
  obtain ⟨c', hc', hshows', hconfig'⟩ := h.client
  obtain ⟨c, hc, rfl⟩ := List.map_eq_singleton_iff.1 (hclients.trans hc')
  have hshows : c.Shows s := ⟨hshows'.association, hshows'.factory, hshows'.endpointCalls,
    hshows'.strategyCalls, hshows'.state, hshows'.held⟩
  obtain ⟨hnext, hkept⟩ := hchange c hshows
  have hclient : (u.modifyClient 0 change).view.clients = [(change c).unlocked] :=
    congrArg (List.map Client.unlocked) (clients_modifyClient hc change)
  refine ⟨⟨_, hclient, ⟨hnext.association, hnext.factory, hnext.endpointCalls,
    hnext.strategyCalls, hnext.state, hnext.held⟩, ?_⟩, endpoints, strategies, asked, cancelled,
    closedChannels, running⟩
  show u.view.configs[(change c).config]? = some s'.config
  rw [hconfigs, hkept, hconfig]
  exact hconfig'

/-- A change of the client alone. -/
theorem Shows.changeClient {s' : Serial} {change : Client → Client} (h : w.view.Shows s)
    (hchange : ∀ c : Client, c.Shows s → (change c).Shows s' ∧ (change c).config = c.config)
    (hconfig : s'.config = s.config) (hendpoint : s'.endpoint = s.endpoint)
    (hasked : s'.asked = s.asked) (hstrategy : s'.strategy = s.strategy)
    (hcalls : s'.channelCalls = s.channelCalls) (houtcome : s'.outcome = none → s.outcome = none) :
    (w.modifyClient 0 change).view.Shows s' := by
  refine Shows.modifyClient h rfl rfl hchange hconfig ?_ ?_ ?_ h.cancelled
    (fun hnone => h.closedChannels (houtcome hnone)) h.running
  · rw [hendpoint, hasked]
    exact h.endpoints
  · rw [hstrategy, hcalls]
    exact h.strategies
  · rw [hasked]
    exact fun hnone => h.asked (houtcome hnone)

/-- The factory is about to be asked for an endpoint. -/
theorem shows_countEndpoint (h : w.view.Shows s) :
    (w.modifyClient 0 fun c => { c with endpointCalls := c.endpointCalls + 1 }).view.Shows
      { s with endpointCalls := s.endpointCalls + 1 } := by
  refine Shows.changeClient h (fun c hc => ⟨?_, rfl⟩) rfl rfl rfl rfl rfl fun hnone => hnone
  exact ⟨hc.association, hc.factory, congrArg (· + 1) hc.endpointCalls, hc.strategyCalls, hc.state,
    hc.held⟩

/-- The factory is about to be asked for a strategy. -/
theorem shows_countStrategy (h : w.view.Shows s) :
    (w.modifyClient 0 fun c => { c with strategyCalls := c.strategyCalls + 1 }).view.Shows
      { s with strategyCalls := s.strategyCalls + 1 } := by
  refine Shows.changeClient h (fun c hc => ⟨?_, rfl⟩) rfl rfl rfl rfl rfl fun hnone => hnone
  exact ⟨hc.association, hc.factory, hc.endpointCalls, congrArg (· + 1) hc.strategyCalls, hc.state,
    hc.held⟩

/-- The close of an open client begins. -/
theorem shows_markClosed (h : w.view.Shows s) :
    (w.markClosed 0).view.Shows { s with outcome := some (.ok ()) } := by
  refine Shows.changeClient h (fun c hc => ⟨?_, rfl⟩) rfl rfl rfl rfl rfl
    fun hnone => by cases hnone
  exact ⟨hc.association, hc.factory, hc.endpointCalls, hc.strategyCalls, rfl, hc.held⟩

/-- The teardown of a closed client notes its outcome. -/
theorem shows_recordOutcome (h : w.view.Shows s) (hclosed : s.outcome.isSome = true)
    (outcome : Except Error Unit) : (w.recordOutcome 0 outcome).view.Shows
      { s with outcome := some (outcome.mapError Error.clone) } := by
  refine Shows.changeClient h (fun c hc => ?_) rfl rfl rfl rfl rfl fun hnone => by cases hnone
  obtain ⟨old, hold⟩ := Option.isSome_iff_exists.1 hclosed
  have hstate : c.state = .closed old := by
    rw [hc.state, Serial.state, hold]
  rw [hstate]
  exact ⟨⟨hc.association, hc.factory, hc.endpointCalls, hc.strategyCalls, rfl, hc.held⟩, rfl⟩

/-! ## The endpoint -/

theorem endpoints_eq (h : w.view.Shows s) (hnone : s.endpoint = none) : w.endpoints = [] := by
  have hendpoints := h.endpoints
  rw [hnone] at hendpoints
  exact List.map_eq_nil_iff.1 hendpoints

theorem exists_endpoint {plan : Option EndpointPlan} (h : w.view.Shows s)
    (hsome : s.endpoint = some plan) : ∃ cell, w.endpoints = [cell] ∧ cell.plan = plan ∧
      cell.endpoint.state.isCloseRequested = s.asked ∧ cell.endpoint.cancelled = s.asked := by
  have hendpoints := h.endpoints
  rw [hsome] at hendpoints
  obtain ⟨cell, hcell, hseen⟩ := List.map_eq_singleton_iff.1 hendpoints
  exact ⟨cell, hcell, congrArg Prod.fst hseen, congrArg (fun seen => seen.2.1) hseen,
    congrArg (fun seen => seen.2.2) hseen⟩

theorem endpointPlan?_eq {plan : Option EndpointPlan} (h : w.view.Shows s)
    (hsome : s.endpoint = some plan) : w.endpointPlan? 0 = plan := by
  obtain ⟨cell, hcell, hplan, -⟩ := exists_endpoint h hsome
  rw [endpointPlan?, hcell]
  exact hplan

/-- The tasks that endpoints own are no concern of a call. -/
theorem Shows.owning {view : View} (h : view.Shows s) (owned : List TaskId) :
    View.Shows { view with owned := owned } s :=
  ⟨h.client, h.endpoints, h.strategies, h.asked, h.cancelled, h.closedChannels, h.running⟩

theorem owned_eq {cell : EndpointCell} (hcell : w.endpoints = [cell]) :
    w.view.owned = cell.endpoint.tasks := by
  simp [view, hcell]

theorem view_setLocal {cell : EndpointCell} (hcell : w.endpoints = [cell]) (owned : LocalEndpoint) :
    (w.setLocal 0 owned).view = { w.view with
      endpoints := [EndpointCell.seen { cell with endpoint := owned }], owned := owned.tasks } := by
  simp [view, setLocal, modifyEndpoint, hcell]

@[simp] theorem view_signalDrained (w : World) (endpoint : EndpointId) :
    (w.signalDrained endpoint).view = w.view := by
  unfold signalDrained
  split <;> rfl

/-- A task leaves the endpoint that owns it. -/
theorem view_leaveEndpoint {cell : EndpointCell} (hcell : w.endpoints = [cell]) (task : TaskId) :
    (w.leaveEndpoint task 0).view = { w.view with owned := w.view.owned.erase task } := by
  have hlocal : w.local? 0 = some cell.endpoint := by rw [local?, hcell]; rfl
  have hseen : [EndpointCell.seen { cell with endpoint := cell.endpoint.taskEnded task }] =
      w.view.endpoints := by
    simp [view, hcell, EndpointCell.seen, LocalEndpoint.taskEnded, LocalEndpoint.state]
  simp only [leaveEndpoint, hlocal, view_signalDrained]
  rw [view_setLocal hcell, hseen, owned_eq hcell]
  rfl

/-- A task leaves the list of the endpoint that owns it, if one does. -/
theorem view_leaveOwner {owner : Option EndpointId} (h : w.view.Shows s)
    (howner : owner = none ∨ owner = some 0) (task : TaskId) :
    (w.leaveOwner task owner).view = w.view ∧ owner = none ∨
      (w.leaveOwner task owner).view = { w.view with owned := w.view.owned.erase task } := by
  rcases howner with rfl | rfl
  · exact .inl ⟨rfl, rfl⟩
  · refine .inr ?_
    cases hsome : s.endpoint with
    | none =>
        have hnone := endpoints_eq h hsome
        have howned : w.view.owned = [] := by rw [view, hnone]; rfl
        have hlocal : w.local? 0 = none := by rw [local?, hnone]; rfl
        simp only [leaveOwner, leaveEndpoint, hlocal, howned, List.erase_nil]
        rw [← howned]
    | some plan =>
        obtain ⟨cell, hcell, -⟩ := exists_endpoint h hsome
        exact view_leaveEndpoint hcell task

/-- The endpoint of a closed client is asked to close or found closed. -/
theorem shows_setLocal {cell : EndpointCell} {plan : Option EndpointPlan} {owned : LocalEndpoint}
    (h : w.view.Shows s) (hcell : w.endpoints = [cell]) (hplan : cell.plan = plan)
    (hsome : s.endpoint = some plan) (hclosed : s.outcome.isSome = true)
    (hrequested : owned.state.isCloseRequested = true) (hcancelled : owned.cancelled = true) :
    (w.setLocal 0 owned).view.Shows { s with asked := true } := by
  obtain ⟨c, hc, hshows, hconfig⟩ := h.client
  rw [view_setLocal hcell]
  refine ⟨⟨c, hc, ⟨hshows.1, hshows.2, hshows.3, hshows.4, hshows.5, hshows.6⟩, hconfig⟩, ?_,
    h.strategies, fun hnone => ?_, h.cancelled, h.closedChannels, h.running⟩
  · rw [hsome, ← hplan]
    simp [EndpointCell.seen, hrequested, hcancelled]
  · rw [show s.outcome = none from hnone] at hclosed
    cases hclosed

/-- A client whose endpoint was asked to close is as if it were asked again. -/
theorem shows_asked (h : w.view.Shows s) (hasked : s.asked = true) :
    w.view.Shows { s with asked := true } := by
  rw [← hasked]
  exact h

theorem shows_closeLocal {plan : Option EndpointPlan} (h : w.view.Shows s)
    (hsome : s.endpoint = some plan) (hclosed : s.outcome.isSome = true) :
    (w.closeLocal 0).view.Shows { s with asked := true } ∧
      (w.closeLocal 0).view.owned = w.view.owned := by
  obtain ⟨cell, hcell, hplan, hasked, -⟩ := exists_endpoint h hsome
  have hlocal : w.local? 0 = some cell.endpoint := by rw [local?, hcell]; rfl
  simp only [closeLocal, hlocal]
  cases hstate : cell.endpoint.channel.state with
  | opened =>
      have hclose : cell.endpoint.close = (true, cell.endpoint.close.2) := by
        simp [LocalEndpoint.close, StateChannel.advance, hstate, EndpointState.rank]
      have hrequested : cell.endpoint.close.2.state.isCloseRequested = true := by
        simp [LocalEndpoint.close, LocalEndpoint.state, StateChannel.advance, hstate,
          EndpointState.rank, EndpointState.isCloseRequested]
      have hcancelled : cell.endpoint.close.2.cancelled = true := by
        simp [LocalEndpoint.close, StateChannel.advance, hstate, EndpointState.rank]
      have htasks : cell.endpoint.close.2.tasks = cell.endpoint.tasks := by
        simp [LocalEndpoint.close, StateChannel.advance, hstate, EndpointState.rank]
      rw [hclose]
      dsimp only
      rw [view_foldl (fun w task => view_signal w _), view_signalDrained, view_signal]
      refine ⟨shows_setLocal h hcell hplan hsome hclosed hrequested hcancelled, ?_⟩
      rw [view_setLocal hcell, owned_eq hcell]
      exact htasks
  | closing | closed =>
      have hclose : cell.endpoint.close = (false, cell.endpoint) := by
        simp [LocalEndpoint.close, StateChannel.advance, hstate, EndpointState.rank]
      rw [hclose]
      refine ⟨shows_asked h ?_, rfl⟩
      rw [← hasked, LocalEndpoint.state, hstate]
      rfl

theorem shows_finishLocal {plan : Option EndpointPlan} (h : w.view.Shows s)
    (hsome : s.endpoint = some plan) (hclosed : s.outcome.isSome = true) (hasked : s.asked = true) :
    (w.finishLocal 0).view.Shows s ∧ (w.finishLocal 0).view.owned = w.view.owned := by
  obtain ⟨cell, hcell, hplan, -, hcancelled⟩ := exists_endpoint h hsome
  have hlocal : w.local? 0 = some cell.endpoint := by rw [local?, hcell]; rfl
  have hsame : { s with asked := true } = s := by rw [← hasked]
  have hrequested : cell.endpoint.finish.2.state.isCloseRequested = true := by
    cases howned : cell.endpoint.channel.state <;>
      simp [LocalEndpoint.finish, LocalEndpoint.state, StateChannel.advance, howned,
        EndpointState.rank, EndpointState.isCloseRequested]
  simp only [finishLocal, hlocal]
  split
  next => exact ⟨h, rfl⟩
  next closed hfinish =>
    have hstate : cell.endpoint.finish.2 = closed := by rw [hfinish]
    rw [hstate] at hrequested
    subst hstate
    refine ⟨?_, ?_⟩
    · rw [← hsame]
      exact shows_setLocal h hcell hplan hsome hclosed hrequested (hcancelled.trans hasked)
    · rw [view_signal, view_setLocal hcell, owned_eq hcell]
      rfl

/-- The client keeps the endpoint that was made for it. -/
theorem shows_keepEndpoint {plan : Option EndpointPlan} {name : String} {owned : List TaskId}
    (h : w.view.Shows s) (hopen : s.outcome = none) (hnone : s.endpoint = none)
    (hstrategy : s.strategy = none) (hview : u.view =
      { (w.addEndpoint ⟨.fresh name, some 0, plan⟩).2.view with owned := owned }) :
    (u.keepEndpoint 0 0).view.Shows { s with endpoint := some plan } := by
  refine Shows.modifyClient (u := u.contact 0 (.endpointCreated 0)) h ?_ ?_
    (fun c hc => ⟨?_, rfl⟩) rfl ?_ ?_ h.asked ?_ ?_ ?_
  · rw [view_contact, hview]
    rfl
  · rw [view_contact, hview]
    rfl
  · refine ⟨hc.association, hc.factory, hc.endpointCalls, hc.strategyCalls, ?_, hc.held⟩
    simp only [Serial.state, hopen, hstrategy]
    rfl
  · have hendpoints : u.view.endpoints = _ := congrArg View.endpoints hview
    rw [view_contact, hendpoints]
    show ((w.endpoints ++ [_]).map EndpointCell.seen) = _
    rw [endpoints_eq h hnone, h.asked hopen]
    rfl
  · have hstrategies : u.view.strategies = _ := congrArg View.strategies hview
    rw [view_contact, hstrategies]
    exact h.strategies
  · exact (congrArg View.cancelled hview).trans h.cancelled
  · exact fun _ => (congrArg View.closedChannels hview).trans (h.closedChannels hopen)
  · exact (congrArg View.running hview).trans h.running

/-! ## The strategy -/

theorem strategies_eq (h : w.view.Shows s) (hnone : s.strategy = none) : w.strategies = [] := by
  have hstrategies := h.strategies
  rw [hnone] at hstrategies
  exact List.map_eq_nil_iff.1 hstrategies

theorem exists_strategy {plan : StrategyPlan} (h : w.view.Shows s)
    (hsome : s.strategy = some plan) :
    ∃ cell, w.strategies = [cell] ∧ cell.plan = plan ∧ cell.calls = s.channelCalls := by
  have hstrategies := h.strategies
  rw [hsome] at hstrategies
  obtain ⟨cell, hcell, hseen⟩ := List.map_eq_singleton_iff.1 hstrategies
  exact ⟨cell, hcell, congrArg Prod.fst hseen, congrArg Prod.snd hseen⟩

/-- The client keeps the strategy that was made for it. -/
theorem shows_keepStrategy {endpoint : Option EndpointPlan} (h : w.view.Shows s)
    (hopen : s.outcome = none) (hendpoint : s.endpoint = some endpoint) (hnone : s.strategy = none)
    (plan : StrategyPlan) : (w.keepStrategy 0 0 plan).1 = 0 ∧
      (w.keepStrategy 0 0 plan).2.view.Shows
        { s with strategy := some plan, channelCalls := 0 } := by
  have hlength : w.strategies.length = 0 := by rw [strategies_eq h hnone]; rfl
  refine ⟨hlength, ?_⟩
  refine Shows.modifyClient (u := World.contact { w with
    strategies := w.strategies ++ [⟨0, plan, 0, none⟩] } 0 (.strategyCreated w.strategies.length))
    h rfl rfl (fun c hc => ⟨?_, rfl⟩) rfl h.endpoints ?_ h.asked h.cancelled h.closedChannels
    h.running
  · refine ⟨hc.association, hc.factory, hc.endpointCalls, hc.strategyCalls, ?_, hc.held⟩
    simp only [Serial.state, hopen, hendpoint, hlength]
    rfl
  · show (w.strategies ++ [_]).map StrategyCell.seen = _
    rw [strategies_eq h hnone]
    rfl

/-- A strategy that is left alone but for its last channel. -/
theorem view_modifyStrategy (w : World) (strategy : StrategyId)
    {change : StrategyCell → StrategyCell} (h : ∀ cell, (change cell).seen = cell.seen) :
    (w.modifyStrategy strategy change).view = w.view := by
  have hstrategies := map_modify_of_eq h w.strategies strategy
  simp only [view, modifyStrategy, hstrategies]

/-- The strategy is about to be asked for a channel. -/
theorem shows_countChannel {plan : StrategyPlan} (h : w.view.Shows s)
    (hsome : s.strategy = some plan) :
    (w.modifyStrategy 0 fun cell => { cell with calls := cell.calls + 1 }).view.Shows
      { s with channelCalls := s.channelCalls + 1 } := by
  obtain ⟨cell, hcell, rfl, hcalls⟩ := exists_strategy h hsome
  obtain ⟨c, hc, hshows, hconfig⟩ := h.client
  refine ⟨⟨c, hc, ⟨hshows.1, hshows.2, hshows.3, hshows.4, hshows.5, hshows.6⟩, hconfig⟩,
    h.endpoints, ?_, h.asked, h.cancelled, h.closedChannels, h.running⟩
  show (w.strategies.modify 0 _).map StrategyCell.seen = _
  rw [hcell, hsome, ← hcalls]
  rfl

/-- The strategy of a closed client closes its last channel. -/
theorem shows_strategyClosed (h : w.view.Shows s) (hclosed : s.outcome.isSome = true)
    (strategy : StrategyId) : (w.strategyClosed strategy).view.Shows s ∧
      (w.strategyClosed strategy).view.owned = w.view.owned := by
  have hclose : ∀ channel, (w.closeChannel channel).view.Shows s ∧
      (w.closeChannel channel).view.owned = w.view.owned := by
    intro channel
    unfold closeChannel
    split
    · refine ⟨⟨h.client, h.endpoints, h.strategies, h.asked, h.cancelled, fun hnone => ?_,
        h.running⟩, rfl⟩
      rw [hnone] at hclosed
      cases hclosed
    · exact ⟨h, rfl⟩
  unfold strategyClosed
  dsimp only
  split
  · exact hclose _
  · exact ⟨h, rfl⟩

end World

end Remoting
