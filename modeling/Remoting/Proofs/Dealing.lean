import Remoting.Proofs.Lasting

/-!
# What the parts of a step do to a handler

Between two points of a task the world changes in small parts, and `Deals` says what such a part
does to the operations of one handler: the deeds that change its record, that no ticket changes
hands, and that the clock stands still, and which notable lines the log may gain. There is one lemma
for each part.
-/

namespace Remoting

/-- The deeds at a handler, as one handler sees them. -/
def deedsAt (own handler : HandlerId) (deeds : List Deed) : List Deed :=
  if own = handler then deeds else []

/-- Whether a log line says that a step of a teardown has failed or that a cancellation has reached
nobody. -/
def LogLine.Notable : LogLine → Prop
  | .swallowed _ step _ => step ≠ .join
  | .undelivered _ => True
  | _ => False

namespace World

/-- The log may say that a client has missed a time limit. -/
abbrev MayMiss (lines : LogLine → Prop) (client : Nat) : Prop :=
  ∀ {error : Error}, lines (.swallowed client .awaitCompletion error)

/-- The log may say that a step of the teardown of a client has failed, apart from its wait for
completion. -/
abbrev MayFail (lines : LogLine → Prop) (client : Nat) : Prop :=
  ∀ {step : TeardownStep} {error : Error}, step ≠ .awaitCompletion →
    lines (.swallowed client step error)

/-- The log goes on with lines of which the notable ones are allowed. -/
def Writes (lines : LogLine → Prop) (w u : World) : Prop :=
  ∃ new, u.log = w.log ++ new ∧ ∀ line ∈ new, line.Notable → lines line

section Writes

variable {lines : LogLine → Prop} {w v u : World}

theorem Writes.of_eq (h : u.log = w.log) : Writes lines w u :=
  ⟨[], by rw [h, List.append_nil], List.forall_mem_nil _⟩

theorem Writes.trans (h : Writes lines w v) (h' : Writes lines v u) : Writes lines w u := by
  obtain ⟨first, hfirst, hlines⟩ := h
  obtain ⟨second, hsecond, hlines'⟩ := h'
  refine ⟨first ++ second, by rw [hsecond, hfirst, List.append_assoc], fun line hline => ?_⟩
  rcases List.mem_append.1 hline with hline | hline
  · exact hlines line hline
  · exact hlines' line hline

theorem Writes.mem (h : Writes lines w u) {line : LogLine} (hnotable : line.Notable)
    (hline : line ∈ u.log) : line ∈ w.log ∨ lines line := by
  obtain ⟨new, heq, hlines⟩ := h
  rw [heq] at hline
  rcases List.mem_append.1 hline with hline | hline
  · exact .inl hline
  · exact .inr (hlines line hline hnotable)

end Writes

/-- The second world comes from the first by deeds at a handler. The notable log lines that may be
new are given. -/
structure Deals (lines : LogLine → Prop) (handler : HandlerId) (deeds : List Deed)
    (w u : World) : Prop extends Lasts w u where
  tracker : u.tracker? handler = (w.tracker? handler).map fun tracker =>
    deeds.foldl Tracker.after tracker
  tasks : ∃ new : List Task, u.tasks = w.tasks ++ new ∧ ∀ t ∈ new, t.tickets handler = []
  now : u.now = w.now
  traces : u.traces = w.traces
  log : Writes lines w u

variable {lines : LogLine → Prop} {handler : HandlerId} {deeds deeds' : List Deed} {w v u : World}

theorem Deals.trans (h : Deals lines handler deeds w v) (h' : Deals lines handler deeds' v u) :
    Deals lines handler (deeds ++ deeds') w u where
  toLasts := h.toLasts.trans h'.toLasts
  tracker := by
    rw [h'.tracker, h.tracker, Option.map_map]
    refine congrArg (fun change => (w.tracker? handler).map change) ?_
    funext tracker
    exact List.foldl_append.symm
  tasks := by
    obtain ⟨first, hfirst, hnone⟩ := h.tasks
    obtain ⟨second, hsecond, hnone'⟩ := h'.tasks
    refine ⟨first ++ second, by rw [hsecond, hfirst, List.append_assoc], fun t ht => ?_⟩
    rcases List.mem_append.1 ht with ht | ht
    · exact hnone t ht
    · exact hnone' t ht
  now := h'.now.trans h.now
  traces := h'.traces.trans h.traces
  log := h.log.trans h'.log

/-- A part without deeds after another one. -/
theorem Deals.and (h : Deals lines handler deeds w v) (h' : Deals lines handler [] v u) :
    Deals lines handler deeds w u := by
  simpa using h.trans h'

/-- Worlds that are the same in all that a handler is concerned with. -/
theorem Deals.of_eq (lasts : Lasts w u) (handlers : u.handlers = w.handlers)
    (tasks : u.tasks = w.tasks) (now : u.now = w.now) (traces : u.traces = w.traces)
    (log : u.log = w.log) : Deals lines handler [] w u where
  toLasts := lasts
  tracker := by
    rw [tracker?, tracker?, handlers]
    cases w.handlers[handler]? <;> rfl
  tasks := ⟨[], by rw [tasks, List.append_nil], List.forall_mem_nil _⟩
  now := now
  traces := traces
  log := .of_eq log

/-- Worlds that differ in nothing that lasts or that a handler is concerned with. -/
theorem Deals.of_same (finished : u.finished = w.finished) (clients : u.clients = w.clients)
    (configs : u.configs = w.configs) (endpoints : u.endpoints = w.endpoints)
    (handlers : u.handlers = w.handlers) (contacts : u.contacts = w.contacts)
    (registry : u.registry = w.registry) (tasks : u.tasks = w.tasks) (now : u.now = w.now)
    (log : u.log = w.log) (tokens : w.cancelled ⊆ u.cancelled) : Deals lines handler [] w u :=
  .of_eq (.of_eq finished clients configs endpoints handlers contacts registry tokens)
    handlers tasks now (congrArg (List.map Client.trace) clients) log

theorem Deals.refl (w : World) : Deals lines handler [] w w :=
  .of_same rfl rfl rfl rfl rfl rfl rfl rfl rfl rfl (List.Subset.refl _)

theorem Deals.foldl {α : Type} {change : World → α → World}
    (h : ∀ w a, Deals lines handler [] w (change w a)) (w : World) (elements : List α) :
    Deals lines handler [] w (elements.foldl change w) := by
  induction elements generalizing w with
  | nil => exact .refl w
  | cons a rest ih => exact (h w a).and (ih (change w a))

/-! ## Journal and channels -/

theorem deals_emit (w : World) (event : Event) : Deals lines handler [] w (w.emit event) :=
  .of_same rfl rfl rfl rfl rfl rfl rfl rfl rfl rfl (List.Subset.refl _)

theorem deals_signal (w : World) (signal : Signal) : Deals lines handler [] w (w.signal signal) :=
  .of_same rfl rfl rfl rfl rfl rfl rfl rfl rfl rfl (List.Subset.refl _)

/-- A call that is noted, apart from the release of a configuration. -/
theorem deals_contact (w : World) (client : ClientId) {call : Contact} (hcall : call ≠ .release) :
    Deals lines handler [] w (w.contact client call) := by
  refine .of_eq ⟨fun h => h, fun h => h, fun h => ⟨_, h, rfl, fun hr => hr⟩,
    fun h => ⟨_, h, .refl _⟩, fun h => ⟨_, h, .refl _⟩, fun {other} h => ?_,
    fun h => h.of_eq rfl rfl, List.Subset.refl _⟩ rfl rfl rfl rfl rfl
  rcases List.mem_append.1 h with h | h
  · exact .inl h
  · cases List.mem_singleton.1 h
    exact absurd rfl hcall

/-- A log line that may be new if it is notable. -/
theorem deals_warn (w : World) {line : LogLine}
    (hline : line.Notable → lines line) :
    Deals lines handler [] w (w.warn line) where
  toLasts := .of_eq rfl rfl rfl rfl rfl rfl rfl (List.Subset.refl _)
  tracker := by
    show w.tracker? handler = _
    cases w.tracker? handler <;> rfl
  tasks := ⟨[], (List.append_nil _).symm, List.forall_mem_nil _⟩
  now := rfl
  traces := rfl
  log := ⟨[line], rfl, fun other hother => List.mem_singleton.1 hother ▸ hline⟩

/-- A cancellation that reaches nobody is logged. -/
theorem deals_undelivered (w : World) {ids : List OperationId}
    (hids : ∀ id ∈ ids, lines (.undelivered id)) :
    Deals lines handler [] w (ids.foldl (fun w id => w.warn (.undelivered id)) w) := by
  induction ids generalizing w with
  | nil => exact .refl w
  | cons id ids ih =>
      exact (deals_warn w fun _ => hids id (List.mem_cons_self ..)).and
        (ih _ fun other hother => hids other (List.mem_cons_of_mem _ hother))

theorem deals_swallow (w : World) {client : ClientId} {step : TeardownStep} {error : Error}
    (hline : step ≠ .join → lines (.swallowed (client + 1) step error)) :
    Deals lines handler [] w (w.swallow client step error) :=
  deals_warn w hline

theorem deals_swallowPanic (w : World) (client : ClientId) (step : TeardownStep)
    (hline : ∀ {error}, lines (.swallowed (client + 1) step error)) (content : Option Panic) :
    Deals lines handler [] w (w.swallowPanic client step content) := by
  cases content with
  | none => exact .refl w
  | some content => exact deals_swallow w fun _ => hline

theorem deals_drainTimeout (w : World) {client : ClientId} (hlate : MayMiss lines (client + 1)) :
    Deals lines handler [] w (w.drainTimeout client) :=
  deals_swallow w fun _ => hlate

theorem deals_closeChannel (w : World) (channel : ChannelId) :
    Deals lines handler [] w (w.closeChannel channel) := by
  unfold closeChannel
  split
  · exact .of_same rfl rfl rfl rfl rfl rfl rfl rfl rfl rfl (List.Subset.refl _)
  · exact .refl w

theorem deals_strategyClosed (w : World) (strategy : StrategyId) :
    Deals lines handler [] w (w.strategyClosed strategy) := by
  unfold strategyClosed
  dsimp only
  split
  · exact (deals_closeChannel w _).and (deals_emit _ _)
  · exact deals_emit w _

theorem deals_strand (w : World) (client : ClientId) :
    Deals lines handler [] w (w.strand client) :=
  .of_same rfl rfl rfl rfl rfl rfl rfl rfl rfl rfl (List.Subset.refl _)

theorem deals_reportLeak (w : World) (client : ClientId) (trace : AllocationTrace) :
    Deals lines handler [] w (w.reportLeak client trace).1 := by
  unfold reportLeak
  split
  · exact deals_warn w nofun
  · exact deals_emit w _
  · exact deals_emit w _

/-! ## Clients -/

/-- A change of a client keeps where the clients were created if it does so at the client. -/
theorem traces_modifyClient (w : World) (client : ClientId) {change : Client → Client}
    (htrace : ∀ c, (change c).trace = c.trace) :
    (w.modifyClient client change).traces = w.traces := by
  refine List.ext_getElem? fun other => ?_
  simp only [traces, modifyClient, List.getElem?_map, List.getElem?_modify]
  cases w.clients[other]? with
  | none => rfl
  | some c => by_cases h : client = other <;> simp [h, htrace]

/-- A change of a client that keeps its association and its configuration and neither opens nor
closes it. -/
theorem deals_modifyClient (w : World) (client : ClientId) (change : Client → Client)
    (hconfig : ∀ c, (change c).config = c.config)
    (hassociation : ∀ c, (change c).association = c.association)
    (hstanding : ∀ c, ((change c).closed, (change c).trace) = (c.closed, c.trace)) :
    Deals lines handler [] w (w.modifyClient client change) :=
  .of_eq (lasts_modifyClient w client hconfig hassociation hstanding) rfl rfl rfl
    (traces_modifyClient w client fun c => congrArg Prod.snd (hstanding c)) rfl

theorem deals_requestLock (w : World) (task : TaskId) (client : ClientId) :
    Deals lines handler [] w (w.requestLock task client) :=
  deals_modifyClient w client _ (fun _ => rfl) (fun _ => rfl) fun _ => rfl

theorem deals_giveLock (w : World) (client : ClientId) (task : TaskId) :
    Deals lines handler [] w (w.giveLock client task) :=
  deals_modifyClient w client _ (fun _ => rfl) (fun _ => rfl) fun _ => rfl

theorem deals_leaveLock (w : World) (task : TaskId) (client : ClientId) :
    Deals lines handler [] w (w.leaveLock task client) := by
  have hleave : Deals lines handler [] w
      (w.modifyClient client fun c => { c with lock := c.lock.leave task }) :=
    deals_modifyClient w client _ (fun _ => rfl) (fun _ => rfl) fun _ => rfl
  unfold leaveLock
  dsimp only
  split
  · exact hleave.and (deals_signal _ _)
  · exact hleave

theorem deals_markClosed (w : World) (client : ClientId) :
    Deals lines handler [] w (w.markClosed client) :=
  .of_eq (lasts_changeClient w client (fun _ => rfl) (fun _ => rfl) fun h => h.markClosed client)
    rfl rfl rfl (traces_modifyClient w client fun _ => rfl) rfl

theorem deals_recordOutcome (w : World) (client : ClientId) (outcome : Except Error Unit) :
    Deals lines handler [] w (w.recordOutcome client outcome) := by
  refine deals_modifyClient w client _ (fun c => ?_) (fun c => ?_) fun c => ?_
  · split <;> rfl
  · split <;> rfl
  · split <;> rfl

theorem deals_keepEndpoint (w : World) (client : ClientId) (endpoint : EndpointId) :
    Deals lines handler [] w (w.keepEndpoint client endpoint) :=
  (deals_contact w client fun heq => by cases heq).and
    (deals_modifyClient _ client _ (fun _ => rfl) (fun _ => rfl) fun _ => rfl)

/-! ## Handlers -/

/-- A change of the record of a handler. -/
theorem deals_modifyHandler (w : World) (own : HandlerId) {change : Handler → Handler}
    (hchange : ∀ {h}, w.handlers[own]? = some h →
      (change h).tracker = deeds.foldl Tracker.after h.tracker)
    (hwanes : ∀ {h}, w.handlers[own]? = some h → h.tracker.Wanes (change h).tracker) :
    Deals lines handler (deedsAt own handler deeds) w (w.modifyHandler own change) where
  toLasts := lasts_modifyHandler w own hwanes
  tracker := by
    simp only [tracker?, modifyHandler, List.getElem?_modify, deedsAt]
    cases hcell : w.handlers[handler]? with
    | none => rfl
    | some cell =>
        by_cases heq : own = handler
        · subst heq
          simp [hchange hcell]
        · simp [heq]
  tasks := ⟨[], (List.append_nil _).symm, List.forall_mem_nil _⟩
  now := rfl
  traces := rfl
  log := .of_eq rfl

/-- A change of a handler that leaves its record alone. -/
theorem deals_modifySupplier (w : World) (own : HandlerId) {change : Handler → Handler}
    (hchange : ∀ h, (change h).tracker = h.tracker) :
    Deals lines handler [] w (w.modifyHandler own change) := by
  have hdeals : Deals lines handler (deedsAt own handler []) w (w.modifyHandler own change) :=
    deals_modifyHandler w own (fun {h} _ => hchange h) fun {h} _ => by
      rw [hchange h]
      exact .refl _
  rwa [deedsAt, ite_self] at hdeals

/-- No deed makes a record admit operations again. -/
theorem wanes_after (tracker : Tracker) (deed : Deed) : tracker.Wanes (tracker.after deed) := by
  intro h
  cases deed with
  | accept => rw [Tracker.accept_eq_of_not_accepting h]; exact ⟨h, Nat.le_refl _⟩
  | bind => exact ⟨h, Nat.le_refl _⟩
  | stop => exact ⟨rfl, Nat.le_refl _⟩
  | cancel notice => exact Tracker.wanes_cancelWhere _ _ _ h
  | finish id =>
      by_cases hid : id ∈ tracker.tickets
      · rw [Tracker.finish_eq hid]
        exact ⟨h, Nat.sub_le _ _⟩
      · simp [Tracker.after, Tracker.dropTicket, Tracker.dropReceiver, hid, h]

/-- One deed at a handler. -/
theorem deals_deed (w : World) (own : HandlerId) (deed : Deed) {change : Handler → Handler}
    (hchange : ∀ {h}, w.handlers[own]? = some h → (change h).tracker = h.tracker.after deed) :
    Deals lines handler (deedsAt own handler [deed]) w (w.modifyHandler own change) :=
  deals_modifyHandler w own hchange fun hcell => by
    rw [hchange hcell]
    exact wanes_after _ deed

theorem deals_endOperation (w : World) (own : HandlerId) (id : OperationId) :
    Deals lines handler (deedsAt own handler [.finish id]) w (w.endOperation own id) := by
  refine Deals.and ?_ (deals_signal _ _)
  exact deals_deed w own (.finish id) fun _ => rfl

theorem deals_registerOperation (w : World) (own : HandlerId) :
    Deals lines handler (deedsAt own handler [.accept]) w (w.registerOperation own).2 := by
  unfold registerOperation
  split
  next hnone =>
    have hdeals : Deals lines handler (deedsAt own handler [.accept]) w (w.modifyHandler own id) :=
      deals_deed w own .accept fun hcell => by rw [hnone] at hcell; cases hcell
    have hsame : w.modifyHandler own id = w := by
      simp [modifyHandler]
    rwa [hsame] at hdeals
  next h hcell =>
    have hdeals : Deals lines handler (deedsAt own handler [.accept]) w
        (w.modifyHandler own fun h' => { h' with tracker := h.tracker.register.2 }) :=
      deals_deed w own .accept fun hcell' => by
        rw [hcell] at hcell'
        cases hcell'
        rfl
    dsimp only
    split
    · exact hdeals.and (deals_signal _ _)
    · exact hdeals

theorem deals_bindOperation (w : World) (own : HandlerId) (id : OperationId) (channel : ChannelId) :
    Deals lines handler (deedsAt own handler [.bind id channel]) w
      (w.bindOperation own id channel) :=
  deals_deed w own (.bind id channel) fun _ => rfl

theorem deals_shutdownHandler (w : World) (own : HandlerId) :
    Deals lines handler (deedsAt own handler [.stop]) w (w.shutdownHandler own) :=
  deals_deed w own .stop fun _ => rfl

/-- Some operation that can be cancelled has lost its receiver. -/
def Deaf (w : World) : Prop :=
  ∃ handler tracker, w.tracker? handler = some tracker ∧
    ∃ operation ∈ tracker.active, tracker.receiver? operation.id = none

/-- The log may say that a cancellation has reached nobody, if that can be. -/
abbrev MayLose (lines : LogLine → Prop) (w : World) : Prop :=
  w.Deaf → ∀ {id : OperationId}, lines (.undelivered id)

/-- What a cancellation does not deliver has lost its receiver before. -/
theorem deaf_of_undelivered {own : HandlerId} {h : Handler} (hcell : w.handlers[own]? = some h)
    (matching : ActiveOperation → Bool) (reason : Error) {id : OperationId}
    (hid : id ∈ (h.tracker.cancelWhere matching reason).undelivered) : w.Deaf := by
  obtain ⟨hmem, hnone⟩ := List.mem_filter.1 hid
  obtain ⟨operation, hoperation, rfl⟩ := List.mem_map.1 hmem
  exact ⟨own, h.tracker, by rw [tracker?, hcell]; rfl, operation,
    (List.mem_filter.1 hoperation).1, Option.isNone_iff_eq_none.1 hnone⟩

theorem deaf_of_shutdownHandler {own : HandlerId} (h : (w.shutdownHandler own).Deaf) : w.Deaf := by
  obtain ⟨handler, tracker, htracker, operation, hactive, hnone⟩ := h
  have hstop : Deals (fun _ => True) handler _ w _ := deals_shutdownHandler w own
  rw [hstop.tracker] at htracker
  obtain ⟨before, hbefore, rfl⟩ := Option.map_eq_some_iff.1 htracker
  unfold deedsAt at hactive hnone
  split at hactive
  next hown =>
    rw [if_pos hown] at hnone
    exact ⟨handler, before, hbefore, operation, hactive, hnone⟩
  next hown =>
    rw [if_neg hown] at hnone
    exact ⟨handler, before, hbefore, operation, hactive, hnone⟩

/-- A notice at a handler. -/
theorem deals_cancelOperations (w : World) (hlost : MayLose lines w) (own : HandlerId)
    (notice : Notice) :
    Deals lines handler (deedsAt own handler [.cancel notice]) w
      (w.cancelOperations own fun tracker =>
        tracker.cancelWhere (fun operation => notice.concerns operation.channel)
          notice.reason).2 := by
  unfold cancelOperations
  split
  next hnone =>
    have hdeals : Deals lines handler (deedsAt own handler [.cancel notice]) w
        (w.modifyHandler own id) :=
      deals_deed w own (.cancel notice) fun hcell => by rw [hnone] at hcell; cases hcell
    have hsame : w.modifyHandler own id = w := by
      simp [modifyHandler]
    rwa [hsame] at hdeals
  next h hcell =>
    refine (Deals.and ?_ (deals_undelivered _ fun id hid =>
      hlost (deaf_of_undelivered hcell _ _ hid))).and (.foldl (fun w _ => deals_signal w _) _ _)
    refine deals_deed w own (.cancel notice) fun hcell' => ?_
    rw [hcell] at hcell'
    cases hcell'
    rfl

theorem deals_shutdownHandlerNow (w : World) (hlost : MayLose lines w) (own : HandlerId) :
    Deals lines handler (deedsAt own handler [.stop, .cancel .closing]) w
      (w.shutdownHandlerNow own) := by
  have hstop : Deals lines handler _ w _ := deals_shutdownHandler w own
  have hboth := hstop.trans (deals_cancelOperations (w.shutdownHandler own)
    (fun hdeaf => hlost (deaf_of_shutdownHandler hdeaf)) own .closing)
  have hdeeds : deedsAt own handler [.stop] ++ deedsAt own handler [.cancel .closing] =
      deedsAt own handler [.stop, .cancel .closing] := by
    unfold deedsAt
    split <;> rfl
  rw [hdeeds] at hboth
  exact hboth

theorem deals_handlerChannelClosed (w : World) (hlost : MayLose lines w) (own : HandlerId)
    (channel : ChannelId) (cause : Option Error) :
    Deals lines handler (deedsAt own handler [.cancel (.channelClosed channel cause)]) w
      (w.handlerChannelClosed own channel cause) :=
  deals_cancelOperations w hlost own (.channelClosed channel cause)

/-- The deeds at the handler of a client, as one handler sees them. -/
def clientDeeds (w : World) (client : ClientId) (handler : HandlerId) (deeds : List Deed) :
    List Deed :=
  match w.association? client with
  | some (.handler own) => deedsAt own handler deeds
  | _ => []

theorem deals_shutdownAssociation (w : World) (client : ClientId) :
    Deals lines handler (w.clientDeeds client handler [.stop]) w
      (w.shutdownAssociation client).1 := by
  unfold shutdownAssociation clientDeeds
  cases w.association? client with
  | none => exact .refl w
  | some association =>
      cases association with
      | handler own => exact deals_shutdownHandler w own
      | recorder plan => exact deals_emit w _

theorem deals_shutdownAssociationNow (w : World) (hlost : MayLose lines w) (client : ClientId) :
    Deals lines handler (w.clientDeeds client handler [.stop, .cancel .closing]) w
      (w.shutdownAssociationNow client).1 := by
  unfold shutdownAssociationNow clientDeeds
  cases w.association? client with
  | none => exact .refl w
  | some association =>
      cases association with
      | handler own => exact deals_shutdownHandlerNow w hlost own
      | recorder plan => exact deals_emit w _

theorem deals_associationChannelClosed (w : World) (hlost : MayLose lines w) (client : ClientId)
    (channel : ChannelId) (cause : Option Error) :
    Deals lines handler (w.clientDeeds client handler [.cancel (.channelClosed channel cause)]) w
      (w.associationChannelClosed client channel cause) := by
  unfold associationChannelClosed clientDeeds
  cases w.association? client with
  | none => exact .refl w
  | some association =>
      cases association with
      | handler own => exact deals_handlerChannelClosed w hlost own channel cause
      | recorder plan => exact deals_emit w _

/-- The deeds of a factory at the association of its client. -/
def factoryDeeds : AssociationCall → List Deed
  | .shutdown => [.stop]
  | .shutdownNow => [.stop, .cancel .closing]

theorem deals_callAssociation (w : World) (hlost : MayLose lines w) (client : ClientId)
    (call : Option AssociationCall) :
    Deals lines handler (call.elim [] fun call =>
      w.clientDeeds client handler (factoryDeeds call)) w
      (w.callAssociation client call).1 := by
  match call with
  | none => exact .refl w
  | some .shutdown => exact deals_shutdownAssociation w client
  | some .shutdownNow => exact deals_shutdownAssociationNow w hlost client

/-! ## Endpoints, strategies and configurations -/

theorem deals_setLocal {endpoint : EndpointId} {owned owned' : LocalEndpoint}
    (howned : w.local? endpoint = some owned) (hkeeps : owned.KeepsTasks w.HasEnded owned') :
    Deals lines handler [] w (w.setLocal endpoint owned') :=
  .of_eq (lasts_setLocal howned hkeeps) rfl rfl rfl rfl rfl

theorem deals_addEndpoint (w : World) (cell : EndpointCell) :
    Deals lines handler [] w (w.addEndpoint cell).2 := by
  refine .of_eq ?_ rfl rfl rfl rfl rfl
  refine ⟨fun h => h, fun h => h, fun h => ⟨_, h, rfl, fun hr => hr⟩, fun {endpoint owned} h => ?_,
    fun h => ⟨_, h, .refl _⟩, .inl, fun h => h.of_eq rfl rfl, List.Subset.refl _⟩
  obtain ⟨cell', hcell, rfl⟩ := Option.map_eq_some_iff.1 h
  refine ⟨_, ?_, .refl _⟩
  show ((w.endpoints ++ [cell])[endpoint]?).map _ = _
  rw [List.getElem?_append_left (List.getElem?_eq_some_iff.1 hcell).1, hcell]
  rfl

theorem deals_signalDrained (w : World) (endpoint : EndpointId) :
    Deals lines handler [] w (w.signalDrained endpoint) := by
  unfold signalDrained
  split
  · exact deals_signal w _
  · exact .refl w

theorem deals_closeLocal (w : World) (endpoint : EndpointId) :
    Deals lines handler [] w (w.closeLocal endpoint) := by
  unfold closeLocal
  split
  next => exact .refl w
  next owned howned =>
    have hkeeps : owned.KeepsTasks w.HasEnded owned.close.2 := owned.keepsTasks_close
    split
    next => exact .refl w
    next closed hclose =>
      rw [hclose] at hkeeps
      exact (((deals_setLocal howned hkeeps).and (deals_signal _ _)).and
        (deals_signalDrained _ _)).and (.foldl (fun w _ => deals_signal w _) _ _)

theorem deals_finishLocal (w : World) (endpoint : EndpointId) :
    Deals lines handler [] w (w.finishLocal endpoint) := by
  unfold finishLocal
  split
  next => exact .refl w
  next owned howned =>
    have hkeeps : owned.KeepsTasks w.HasEnded owned.finish.2 := owned.keepsTasks_finish
    split
    next => exact .refl w
    next closed hclose =>
      rw [hclose] at hkeeps
      exact (deals_setLocal howned hkeeps).and (deals_signal _ _)

/-- A task that has ended leaves the list of its endpoint. -/
theorem deals_leaveOwner {task : TaskId} (hended : w.HasEnded task) (owner : Option EndpointId) :
    Deals lines handler [] w (w.leaveOwner task owner) := by
  cases owner with
  | none => exact .refl w
  | some endpoint =>
      show Deals lines handler [] w (w.leaveEndpoint task endpoint)
      unfold leaveEndpoint
      split
      next => exact .refl w
      next owned howned =>
        exact (deals_setLocal howned (owned.keepsTasks_taskEnded hended)).and
          (deals_signalDrained _ _)

theorem deals_modifyStrategy (w : World) (strategy : StrategyId)
    (change : StrategyCell → StrategyCell) :
    Deals lines handler [] w (w.modifyStrategy strategy change) :=
  .of_same rfl rfl rfl rfl rfl rfl rfl rfl rfl rfl (List.Subset.refl _)

theorem deals_keepStrategy (w : World) (client : ClientId) (endpoint : EndpointId)
    (plan : StrategyPlan) : Deals lines handler [] w (w.keepStrategy client endpoint plan).2 := by
  have hadd : Deals lines handler [] w
      { w with strategies := w.strategies ++ [⟨client, plan, 0, none⟩] } :=
    .of_same rfl rfl rfl rfl rfl rfl rfl rfl rfl rfl (List.Subset.refl _)
  exact (hadd.and (deals_contact _ client fun heq => by cases heq)).and
    (deals_modifyClient _ client _ (fun _ => rfl) (fun _ => rfl) fun _ => rfl)

theorem deals_releaseConfig (w : World) (config : Nat) :
    Deals lines handler [] w (w.releaseConfig config).2 := by
  unfold releaseConfig
  split
  next => exact .refl w
  next cell hcell =>
    refine Deals.and ?_ (.foldl (fun w e => deals_emit w _) _ _)
    refine .of_eq (lasts_modifyConfig w config (fun _ => rfl) fun _ _ => ?_) rfl rfl rfl rfl rfl
    exact cell.release.released_run

theorem contacts_releaseConfig (w : World) (config : Nat) :
    (w.releaseConfig config).2.contacts = w.contacts := by
  have hemit : ∀ (events : List Release.Event) (v : World),
      (events.foldl (fun v e => v.emit (.disposal e)) v).contacts = v.contacts := by
    intro events
    induction events with
    | nil => exact fun _ => rfl
    | cons event events ih => exact fun v => ih (v.emit (.disposal event))
  unfold releaseConfig
  split
  next => rfl
  next => exact hemit _ _

/-- A client that has a configuration has it released when it is released. -/
theorem released_releaseConfig {client : ClientId} {c : Client} {cell : ConfigCell}
    (hc : w.clients[client]? = some c) (hcell : w.configOf? client = some cell) :
    (w.releaseConfig c.config).2.Released client := by
  have hconfig : w.configs[c.config]? = some cell := by
    rw [configOf?, hc] at hcell
    exact hcell
  unfold releaseConfig
  rw [hconfig]
  dsimp only
  have hemit : Deals (fun _ => True) 0 [] _ _ :=
    .foldl (fun w e => deals_emit w (.disposal e))
      { w with configs := w.configs.modify c.config fun cell' =>
        { cell' with release := cell.release.run.after } } cell.release.run.events
  refine Released.lasts ⟨{ cell with release := cell.release.run.after }, ?_,
    cell.release.released_run⟩ hemit.toLasts
  show (w.clients[client]?).bind _ = _
  rw [hc]
  show (w.configs.modify c.config _)[c.config]? = _
  rw [List.getElem?_modify_eq, hconfig]
  rfl

theorem deals_releaseForTeardown (w : World) {client : ClientId}
    (hfail : MayFail lines (client + 1)) :
    Deals lines handler [] w (w.releaseForTeardown client) := by
  unfold releaseForTeardown
  split
  next => exact .refl w
  next c hc =>
    have hdeals : Deals lines handler [] (w.contact client .release) _ :=
      deals_releaseConfig (w.contact client .release) c.config
    have hcontacts := contacts_releaseConfig (w.contact client .release) c.config
    have hreleased : ∀ {cell}, w.configOf? client = some cell →
        ((w.contact client .release).releaseConfig c.config).2.Released client :=
      fun hcell => released_releaseConfig (w := w.contact client .release) hc hcell
    have hrelease : Deals lines handler [] w
        ((w.contact client .release).releaseConfig c.config).2 :=
      { hdeals with
        released := fun {other} hentry => by
          rw [hcontacts] at hentry
          rcases List.mem_append.1 hentry with hentry | hentry
          · exact .inl hentry
          · cases List.mem_singleton.1 hentry
            exact .inr hreleased
        registered := fun h => hdeals.registered (h.of_eq rfl rfl) }
    split
    next hresult => rwa [hresult] at hrelease
    next hresult =>
      rw [hresult] at hrelease
      exact hrelease.and (deals_swallow _ fun _ => hfail nofun)

theorem deals_addDisposer (w : World) (config : Nat) (disposer : Disposer) :
    Deals lines handler [] w (w.addDisposer config disposer).2 := by
  unfold addDisposer
  split
  next => exact .refl w
  next cell hcell =>
    refine .of_eq (lasts_modifyConfig w config (fun _ => rfl) fun hcell' hr => ?_) rfl rfl rfl rfl
      rfl
    rw [hcell] at hcell'
    cases hcell'
    exact Release.released_add hr disposer

theorem deals_closeEndpoint (w : World) {client : ClientId} (hfail : MayFail lines (client + 1))
    (endpoint : EndpointId) :
    Deals lines handler [] w (w.closeEndpoint client endpoint) := by
  have hcontact : Deals lines handler _ _ (w.contact client (.closeEndpoint endpoint)) :=
    deals_contact w client fun heq => by cases heq
  unfold closeEndpoint
  dsimp only
  split
  next => exact hcontact.and (deals_closeLocal _ _)
  next =>
    have hemit := hcontact.and (deals_emit (w.contact client (.closeEndpoint endpoint))
      .endpointClose)
    split
    · exact hemit.and (deals_closeLocal _ _)
    · exact hemit.and (deals_swallowPanic _ _ .closeEndpoint (hfail nofun) _)
    · exact hemit
    · exact hemit.and (deals_swallow _ fun _ => hfail nofun)

/-! ## Tasks -/

/-- A new task holds no ticket. -/
theorem deals_addTask (w : World) (control : Control) {frames : List Frame}
    (hframes : frames.filterMap (Frame.ticket? handler) = []) (handle : Option ClientId)
    (owner : Option EndpointId) :
    Deals lines handler [] w (w.addTask control frames handle owner).2 where
  toLasts := .of_eq rfl rfl rfl rfl rfl rfl rfl (List.Subset.refl _)
  tracker := by
    show w.tracker? handler = _
    cases w.tracker? handler <;> rfl
  tasks := ⟨_, rfl, fun t ht => by rw [List.mem_singleton.1 ht]; exact hframes⟩
  now := rfl
  traces := rfl
  log := .of_eq rfl

theorem HasEnded.noteFinish {task : TaskId} (h : w.HasEnded task) (other : TaskId)
    (finish : Finish) : (w.noteFinish other finish).HasEnded task := by
  rw [HasEnded, finish?, World.noteFinish, List.lookup_cons]
  split
  · rfl
  · exact h

theorem hasEnded_noteFinish (w : World) (task : TaskId) (finish : Finish) :
    (w.noteFinish task finish).HasEnded task := by
  simp [HasEnded, finish?, World.noteFinish]

theorem deals_noteFinish (w : World) (task : TaskId) (finish : Finish) :
    Deals lines handler [] w (w.noteFinish task finish) := by
  refine .of_eq ?_ rfl rfl rfl rfl rfl
  exact ⟨fun h => h.noteFinish task finish, fun h => h, fun h => ⟨_, h, rfl, fun hr => hr⟩,
    fun h => ⟨_, h, .refl _⟩, fun h => ⟨_, h, .refl _⟩, .inl, fun h => h.of_eq rfl rfl,
      List.Subset.refl _⟩

theorem deals_spawn (w : World) (control : Control) (handle : Option ClientId)
    (owner : Option EndpointId) :
    Deals lines handler [] w (w.spawn control [] handle owner).2 := by
  unfold spawn
  split
  · exact deals_addTask w control rfl handle owner
  · have hnext : Deals lines handler [] w { w with nextTask := w.nextTask + 1 } :=
      .of_same rfl rfl rfl rfl rfl rfl rfl rfl rfl rfl (List.Subset.refl _)
    exact hnext.and (deals_noteFinish _ _ _)

theorem deals_spawnOwned (w : World) (endpoint : EndpointId) (script : List OwnedStep) :
    Deals lines handler [] w (w.spawnOwned endpoint script).2 := by
  unfold spawnOwned
  split
  next => exact .refl w
  next owned howned =>
    split
    next => exact .refl w
    next taken hspawn =>
      exact (deals_setLocal howned (LocalEndpoint.keepsTasks_spawn hspawn)).and
        (deals_spawn _ _ _ _)

theorem deals_startOwned (w : World) (endpoint : EndpointId) (tasks : List Nat) :
    Deals lines handler [] w (w.startOwned endpoint tasks) :=
  .foldl (fun w ms => deals_spawnOwned w endpoint [.shutdown, .sleep ms]) w tasks

theorem deals_handOver (w : World) (client : ClientId) (teardown : Teardown) :
    Deals lines handler [] w (w.handOver client teardown).2 :=
  ((deals_markClosed w client).and (deals_spawn _ _ none none)).and
    (deals_contact _ client fun heq => by cases heq)

theorem deals_spawnBackgroundClose (w : World) (client : ClientId) :
    Deals lines handler [] w (w.spawnBackgroundClose client) := by
  unfold spawnBackgroundClose
  split
  · exact deals_addTask w _ rfl none none
  · exact deals_strand w client

theorem deals_dropHandle (w : World) (client : ClientId) :
    Deals lines handler [] w (w.dropHandle client).1 := by
  unfold dropHandle
  split
  next => exact .refl w
  next c _ =>
    split
    next => exact .refl w
    next =>
      have hreport : Deals lines handler _ _ _ := deals_reportLeak w client c.trace
      split
      next hresult => rwa [hresult] at hreport
      next hresult =>
        rw [hresult] at hreport
        exact hreport.and (deals_spawnBackgroundClose _ client)

theorem deals_dropHeld (w : World) (finish : Finish) (handle : Option ClientId) :
    Deals lines handler [] w (w.dropHeld finish handle).1 := by
  unfold dropHeld
  split
  next => exact .refl w
  next client =>
    have hdrop : Deals lines handler _ _ _ := deals_dropHandle w client
    split
    next hresult => rwa [hresult] at hdrop
    next hresult => rwa [hresult] at hdrop

/-- What is noted after a task has left the list of its endpoint could as well be noted before. -/
theorem leaveOwner_noteFinish (w : World) (task : TaskId) (owner : Option EndpointId)
    (finish : Finish) : (w.leaveOwner task owner).noteFinish task finish =
      (w.noteFinish task finish).leaveOwner task owner := by
  cases owner with
  | none => rfl
  | some endpoint =>
      show (w.leaveEndpoint task endpoint).noteFinish task finish =
        (w.noteFinish task finish).leaveEndpoint task endpoint
      have hlocal : (w.noteFinish task finish).local? endpoint = w.local? endpoint := rfl
      unfold leaveEndpoint
      rw [hlocal]
      split
      next => rfl
      next owned _ =>
        have hdrained : ((w.noteFinish task finish).setLocal endpoint
            (owned.taskEnded task)).local? endpoint =
              (w.setLocal endpoint (owned.taskEnded task)).local? endpoint := rfl
        unfold signalDrained
        rw [hdrained]
        split <;> rfl

/-- Everything at the end of a task after it was taken off the list of tasks. -/
theorem deals_finishTask {task : TaskId} {t : Task} (ht : w.task? task = some t)
    (finish : Finish) : Deals lines handler [] (w.removeTask task) (w.finishTask task finish) := by
  have hdrop : Deals lines handler _ _ _ := deals_dropHeld (w.removeTask task) finish
    t.handle
  simp only [finishTask, ht]
  generalize (w.removeTask task).dropHeld finish t.handle = dropped at hdrop ⊢
  obtain ⟨v, finish'⟩ := dropped
  dsimp only at hdrop ⊢
  rw [leaveOwner_noteFinish]
  exact ((hdrop.and (deals_noteFinish v task finish')).and
    (deals_leaveOwner (hasEnded_noteFinish v task finish') t.owner)).and (deals_signal _ _)

/-! ## Dropped calls -/

theorem deals_dropControl (w : World) (task : TaskId) (control : Control) :
    Deals lines handler [] w (w.dropControl task control) := by
  unfold dropControl
  split
  · exact deals_leaveLock w task _
  · exact deals_leaveLock w task _
  · exact deals_leaveLock w task _
  · exact deals_leaveLock w task _
  · exact .refl w

/-- What the drop of calls means to a handler: the operations whose tickets are dropped end. -/
def dropDeeds (handler : HandlerId) (frames : List Frame) : List Deed :=
  (frames.filterMap (Frame.ticket? handler)).map .finish

theorem dropDeeds_append (handler : HandlerId) (inner outer : List Frame) :
    dropDeeds handler (inner ++ outer) = dropDeeds handler inner ++ dropDeeds handler outer := by
  simp [dropDeeds]

/-- A teardown that is dropped in its wait for completion still releases the configuration. -/
theorem deals_dropFrame (w : World) (task : TaskId) (frame : Frame)
    (hfail : ∀ t deadline, frame = .teardown t (.drain deadline) → MayFail lines (t.client + 1)) :
    Deals lines handler (dropDeeds handler [frame]) w (w.dropFrame task frame) := by
  have hdeeds : ∀ {own id}, frame.ticket? handler = (if own = handler then some id else none) →
      dropDeeds handler [frame] = deedsAt own handler [.finish id] := by
    intro own id hframe
    by_cases h : own = handler <;> simp [dropDeeds, deedsAt, hframe, h]
  cases frame with
  | creation client | channel client => exact deals_leaveLock w task client
  | supply own id | operation own id =>
      rw [hdeeds rfl]
      exact deals_endOperation w own id
  | opening id body site =>
      rw [hdeeds rfl]
      exact deals_endOperation w site.handler id
  | teardown t pause =>
      cases pause with
      | drain deadline =>
          exact (deals_releaseForTeardown w (hfail t deadline rfl)).and
            (deals_leaveLock _ task t.client)
      | strategy | endpoint => exact deals_leaveLock w task t.client
  | _ => exact .refl w

theorem deals_dropFrames (w : World) (task : TaskId) (frames : List Frame)
    (hfail : ∀ t deadline, .teardown t (.drain deadline) ∈ frames → MayFail lines (t.client + 1)) :
    Deals lines handler (dropDeeds handler frames) w (w.dropFrames task frames) := by
  induction frames generalizing w with
  | nil => exact .refl w
  | cons frame frames ih =>
      have hframe : Deals lines handler _ w _ := deals_dropFrame w task frame
        fun t deadline heq => hfail t deadline (heq ▸ List.mem_cons_self ..)
      have hboth := hframe.trans
        (ih _ fun t deadline hmem => hfail t deadline (List.mem_cons_of_mem _ hmem))
      rw [← dropDeeds_append] at hboth
      exact hboth

theorem deals_dropTask (w : World) (t : Task)
    (hfail : ∀ td deadline, .teardown td (.drain deadline) ∈ t.frames →
      MayFail lines (td.client + 1)) :
    Deals lines handler (dropDeeds handler t.frames) w (w.dropTask t) := by
  unfold dropTask
  split
  next client interrupt other _ hframes =>
    rw [hframes]
    exact deals_strand w client
  next =>
    have hcontrol : Deals lines handler [] w _ := deals_dropControl w t.id t.control
    exact hcontrol.trans (deals_dropFrames (w.dropControl t.id t.control) t.id t.frames hfail)

end World

end Remoting
