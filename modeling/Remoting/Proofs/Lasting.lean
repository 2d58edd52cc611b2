import Remoting.Proofs.Tracking
import Remoting.Proofs.Registry

/-!
# What no change takes back

A client keeps its association and its configuration, a configuration that was released stays
released, and a cancelled token stays cancelled. The registry has an entry for each open client and
no other. A handler that has stopped admitting operations never admits one again, so its operations
only become fewer. The state of an endpoint only moves forward, a task that an endpoint owns stays
on its list until it has ended, and an endpoint that is closed and owns no task stays like that.
`Lasts` says all this of two worlds, and `Deals` adds what one of them does to the operations of a
handler. There is one lemma for each change.
-/

namespace Remoting

namespace LocalEndpoint

/-- Whether an endpoint is closed and owns no task. -/
def Over (endpoint : LocalEndpoint) : Prop :=
  endpoint.state = .closed ∧ endpoint.tasks = []

/-- An endpoint has gone on: where tasks have left it, these have ended. -/
structure KeepsTasks (ended : TaskId → Prop) (before after : LocalEndpoint) : Prop where
  rank : before.state.rank ≤ after.state.rank
  tasks : ∀ {task}, task ∈ before.tasks → task ∈ after.tasks ∨ ended task
  empty : before.isDrained = true → after.tasks = []

variable {ended : TaskId → Prop} {before middle after : LocalEndpoint}

theorem isDrained_iff (endpoint : LocalEndpoint) : endpoint.isDrained = true ↔
    endpoint.state.isCloseRequested = true ∧ endpoint.tasks = [] := by
  simp [isDrained]

theorem Over.isDrained (h : before.Over) : before.isDrained = true := by
  rw [isDrained_iff, h.1]
  exact ⟨rfl, h.2⟩

theorem KeepsTasks.refl (endpoint : LocalEndpoint) : KeepsTasks ended endpoint endpoint :=
  ⟨Nat.le_refl _, .inl, fun h => (isDrained_iff _).1 h |>.2⟩

/-- An endpoint that was closed or asked to close, and that owns no task, stays like that. -/
theorem KeepsTasks.isDrained (hkeeps : KeepsTasks ended before after)
    (h : before.isDrained = true) : after.isDrained = true := by
  refine (isDrained_iff _).2 ⟨?_, hkeeps.empty h⟩
  have hrequested := ((isDrained_iff _).1 h).1
  have hrank := hkeeps.rank
  cases hstate : after.state with
  | closing | closed => rfl
  | opened =>
      rw [hstate] at hrank
      cases hbefore : before.state with
      | opened =>
          rw [hbefore] at hrequested
          cases hrequested
      | closing | closed =>
          rw [hbefore] at hrank
          exact absurd hrank (by decide)

theorem Over.keepsTasks (h : before.Over) (hkeeps : KeepsTasks ended before after) : after.Over :=
    by
  refine ⟨?_, hkeeps.empty h.isDrained⟩
  have hrank := hkeeps.rank
  rw [h.1] at hrank
  cases hstate : after.state with
  | closed => rfl
  | opened | closing =>
      rw [hstate] at hrank
      exact absurd hrank (by decide)

theorem KeepsTasks.trans {ended' : TaskId → Prop} (h : KeepsTasks ended before middle)
    (h' : KeepsTasks ended' middle after) (hended : ∀ {task}, ended task → ended' task) :
    KeepsTasks ended' before after where
  rank := Nat.le_trans h.rank h'.rank
  tasks htask := by
    rcases h.tasks htask with htask | hend
    · exact h'.tasks htask
    · exact .inr (hended hend)
  empty hdrained := h'.empty (h.isDrained hdrained)

theorem keepsTasks_spawn {task : TaskId} (h : before.spawn task = .ok after) :
    KeepsTasks ended before after := by
  unfold LocalEndpoint.spawn at h
  split at h
  next => cases h
  next hopen =>
    cases h
    refine ⟨Nat.le_refl _, fun htask => .inl (List.mem_append_left _ htask), fun hdrained => ?_⟩
    exact absurd ((isDrained_iff _).1 hdrained).1 hopen

/-- A move of the state keeps the tasks. -/
theorem keepsTasks_advance (endpoint : LocalEndpoint) (next : EndpointState) (cancelled : Bool) :
    KeepsTasks ended endpoint
      { endpoint with channel := (endpoint.channel.advance next).2, cancelled } := by
  refine ⟨?_, .inl, fun hdrained => ((isDrained_iff _).1 hdrained).2⟩
  show endpoint.channel.state.rank ≤ (endpoint.channel.advance next).2.state.rank
  rw [StateChannel.rank_advance]
  exact Nat.le_max_left _ _

theorem keepsTasks_close (endpoint : LocalEndpoint) : KeepsTasks ended endpoint endpoint.close.2 :=
    by
  have hkeeps : KeepsTasks ended endpoint _ := keepsTasks_advance endpoint .closing true
  unfold LocalEndpoint.close
  split
  next hadvance => rwa [hadvance] at hkeeps
  next => exact .refl endpoint

theorem keepsTasks_finish (endpoint : LocalEndpoint) :
    KeepsTasks ended endpoint endpoint.finish.2 :=
  keepsTasks_advance endpoint .closed endpoint.cancelled

theorem keepsTasks_taskEnded (endpoint : LocalEndpoint) {task : TaskId} (hended : ended task) :
    KeepsTasks ended endpoint (endpoint.taskEnded task) := by
  refine ⟨Nat.le_refl _, fun {other} hother => ?_, fun hdrained => ?_⟩
  · by_cases h : other = task
    · exact .inr (h ▸ hended)
    · exact .inl ((List.mem_erase_of_ne h).2 hother)
  · simp [taskEnded, ((isDrained_iff _).1 hdrained).2]

end LocalEndpoint

namespace Release

/-- Once a configuration is released no step of a cleanup action changes that. -/
theorem released_runSteps {nested : Release → Result}
    (hnested : ∀ release, release.released = true → (nested release).after.released = true)
    {release : Release} (h : release.released = true) (steps : List (Disposer.Step Disposer)) :
    (runSteps nested release steps).2.released = true := by
  induction steps generalizing release with
  | nil => exact h
  | cons step steps ih =>
      have hstep : (runStep nested release step).2.released = true := by
        cases step with
        | release => exact hnested release h
        | add disposer => simp [runStep, add, h]
        | state => exact h
      exact ih hstep

theorem released_runAll {nested : Release → Result}
    (hnested : ∀ release, release.released = true → (nested release).after.released = true)
    {release : Release} (h : release.released = true) (disposers : List Disposer) :
    (runAll nested release disposers).after.released = true := by
  induction disposers generalizing release with
  | nil => exact h
  | cons disposer disposers ih => exact ih (released_runSteps hnested h disposer.steps)

/-- A release leaves a configuration released. -/
theorem released_run (release : Release) : release.run.after.released = true := by
  unfold run runNested
  split
  next h => exact h
  next => exact released_runAll (fun _ h => h) rfl release.disposers

theorem released_add {release : Release} (h : release.released = true) (disposer : Disposer) :
    (release.add disposer).after.released = true := by
  simp [add, h]

end Release

/-- The operation that a frame holds the ticket of, if it is one of a handler. -/
def Frame.ticket? (handler : HandlerId) : Frame → Option OperationId
  | .supply own id _ _ | .operation own id => if own = handler then some id else none
  | .opening id _ site => if site.handler = handler then some id else none
  | _ => none

@[simp] theorem Frame.ticket?_supply (handler own : HandlerId) (id : OperationId)
    (routine : Routine) (client : Option ClientId) :
    (Frame.supply own id routine client).ticket? handler =
      if own = handler then some id else none :=
  rfl

@[simp] theorem Frame.ticket?_opening (handler : HandlerId) (id : OperationId) (body : Script)
    (site : Site) : (Frame.opening id body site).ticket? handler =
      if site.handler = handler then some id else none :=
  rfl

@[simp] theorem Frame.ticket?_operation (handler own : HandlerId) (id : OperationId) :
    (Frame.operation own id).ticket? handler = if own = handler then some id else none :=
  rfl

/-- A record that admits no operations goes on without admitting any, so that there are no more of
them. -/
def Tracker.Wanes (before after : Tracker) : Prop :=
  before.accepting = false → after.accepting = false ∧ after.count ≤ before.count

theorem Tracker.Wanes.refl (tracker : Tracker) : tracker.Wanes tracker :=
  fun hr => ⟨hr, Nat.le_refl _⟩

theorem Tracker.Wanes.trans {before middle after : Tracker} (h : before.Wanes middle)
    (h' : middle.Wanes after) : before.Wanes after := fun hr =>
  ⟨(h' (h hr).1).1, Nat.le_trans (h' (h hr).1).2 (h hr).2⟩

theorem Tracker.wanes_cancelWhere (tracker : Tracker) (matching : ActiveOperation → Bool)
    (reason : Error) : tracker.Wanes (tracker.cancelWhere matching reason).after := by
  intro hr
  rw [cancelWhere_eq]
  exact ⟨hr, Nat.le_refl _⟩

/-- The operations of a handler that a task holds the tickets of, the innermost first. -/
def Task.tickets (handler : HandlerId) (t : Task) : List OperationId :=
  t.frames.filterMap (Frame.ticket? handler)

namespace World

/-- The record of operations of a handler. -/
def tracker? (w : World) (handler : HandlerId) : Option Tracker :=
  w.handlers[handler]?.map fun h => h.tracker

/-- The tickets of a handler's operations that tasks hold. -/
def tickets (w : World) (handler : HandlerId) : List OperationId :=
  w.tasks.flatMap (Task.tickets handler)

/-- The tickets of a handler's operations that other tasks hold. -/
def ticketsBut (w : World) (task : TaskId) (handler : HandlerId) : List OperationId :=
  (w.tasks.filter (·.id ≠ task)).flatMap (Task.tickets handler)

/-- Whether a task has ended. -/
def HasEnded (w : World) (task : TaskId) : Prop :=
  (w.finish? task).isSome = true

/-- The configuration of a client is released. -/
def Released (w : World) (client : ClientId) : Prop :=
  ∃ cell, w.configOf? client = some cell ∧ cell.release.released = true

/-- What no change takes back, and that a client whose release is noted has its configuration
released. -/
structure Lasts (w u : World) : Prop where
  ended : ∀ {task : TaskId}, w.HasEnded task → u.HasEnded task
  association : ∀ {client : ClientId} {association : Association},
    w.association? client = some association → u.association? client = some association
  config : ∀ {client : ClientId} {cell : ConfigCell}, w.configOf? client = some cell →
    ∃ cell' : ConfigCell, u.configOf? client = some cell' ∧ cell'.config = cell.config ∧
      (cell.release.released = true → cell'.release.released = true)
  endpoint : ∀ {endpoint : EndpointId} {owned : LocalEndpoint}, w.local? endpoint = some owned →
    ∃ owned' : LocalEndpoint, u.local? endpoint = some owned' ∧
      owned.KeepsTasks u.HasEnded owned'
  wanes : ∀ {handler : HandlerId} {tracker : Tracker}, w.tracker? handler = some tracker →
    ∃ tracker' : Tracker, u.tracker? handler = some tracker' ∧ tracker.Wanes tracker'
  released : ∀ {client : ClientId}, (client, .release) ∈ u.contacts →
    (client, .release) ∈ w.contacts ∨
      ∀ {cell : ConfigCell}, w.configOf? client = some cell → u.Released client
  registered : w.Registered → u.Registered
  tokens : w.cancelled ⊆ u.cancelled

theorem Released.lasts {w u : World} {client : ClientId} (h : w.Released client)
    (hlasts : Lasts w u) : u.Released client := by
  obtain ⟨cell, hcell, hreleased⟩ := h
  obtain ⟨cell', hcell', -, hkept⟩ := hlasts.config hcell
  exact ⟨cell', hcell', hkept hreleased⟩

theorem Lasts.trans {w v u : World} (h : Lasts w v) (h' : Lasts v u) : Lasts w u where
  ended hended := h'.ended (h.ended hended)
  association ha := h'.association (h.association ha)
  config hcell := by
    obtain ⟨first, hfirst, hconfig, hreleased⟩ := h.config hcell
    obtain ⟨second, hsecond, hconfig', hreleased'⟩ := h'.config hfirst
    exact ⟨second, hsecond, hconfig'.trans hconfig, fun hr => hreleased' (hreleased hr)⟩
  endpoint howned := by
    obtain ⟨first, hfirst, hkeeps⟩ := h.endpoint howned
    obtain ⟨second, hsecond, hkeeps'⟩ := h'.endpoint hfirst
    exact ⟨second, hsecond, hkeeps.trans hkeeps' h'.ended⟩
  wanes htracker := by
    obtain ⟨first, hfirst, hwanes⟩ := h.wanes htracker
    obtain ⟨second, hsecond, hwanes'⟩ := h'.wanes hfirst
    exact ⟨second, hsecond, hwanes.trans hwanes'⟩
  released hentry := by
    rcases h'.released hentry with hentry | hreleased
    · rcases h.released hentry with hentry | hreleased
      · exact .inl hentry
      · exact .inr fun hcell => (hreleased hcell).lasts h'
    · refine .inr fun hcell => ?_
      obtain ⟨cell', hcell', -⟩ := h.config hcell
      exact hreleased hcell'
  registered hregistered := h'.registered (h.registered hregistered)
  tokens := List.Subset.trans h.tokens h'.tokens

/-- Worlds that are the same in what lasts. -/
theorem Lasts.of_eq {w u : World} (finished : u.finished = w.finished)
    (clients : u.clients = w.clients) (configs : u.configs = w.configs)
    (endpoints : u.endpoints = w.endpoints) (handlers : u.handlers = w.handlers)
    (contacts : u.contacts = w.contacts) (registry : u.registry = w.registry)
    (tokens : w.cancelled ⊆ u.cancelled) : Lasts w u where
  ended h := by rwa [HasEnded, finish?, finished]
  association h := by rwa [association?, clients]
  config h := ⟨_, by rwa [configOf?, configs, clients], rfl, fun hr => hr⟩
  endpoint h := ⟨_, by rwa [local?, endpoints], .refl _⟩
  wanes h := ⟨_, by rwa [tracker?, handlers], .refl _⟩
  released h := .inl (contacts ▸ h)
  registered h := h.of_eq registry clients
  tokens := tokens

theorem Lasts.refl (w : World) : Lasts w w :=
  .of_eq rfl rfl rfl rfl rfl rfl rfl (List.Subset.refl _)

/-! ## Parts that change -/

/-- A change of a client that keeps its association and its configuration, and of the registry along
with it. -/
theorem lasts_changeClient (w : World) (client : ClientId) {change : Client → Client}
    {registry : Registry} (hconfig : ∀ c, (change c).config = c.config)
    (hassociation : ∀ c, (change c).association = c.association)
    (hregistered : w.Registered → Registered { w.modifyClient client change with registry }) :
    Lasts w { w.modifyClient client change with registry } where
  ended h := h
  association {other _} h := by
    rw [← h]
    simp only [association?, modifyClient, List.getElem?_modify]
    cases w.clients[other]? with
    | none => rfl
    | some c => by_cases heq : client = other <;> simp [heq, hassociation]
  config {other cell} h := by
    refine ⟨cell, ?_, rfl, fun hr => hr⟩
    rw [← h]
    simp only [configOf?, modifyClient, List.getElem?_modify]
    cases w.clients[other]? with
    | none => rfl
    | some c => by_cases heq : client = other <;> simp [heq, hconfig]
  endpoint h := ⟨_, h, .refl _⟩
  wanes h := ⟨_, h, .refl _⟩
  released := .inl
  registered := hregistered
  tokens := List.Subset.refl _

/-- A change of a client that keeps its association and its configuration and neither opens nor
closes it. -/
theorem lasts_modifyClient (w : World) (client : ClientId) {change : Client → Client}
    (hconfig : ∀ c, (change c).config = c.config)
    (hassociation : ∀ c, (change c).association = c.association)
    (hstanding : ∀ c, ((change c).closed, (change c).trace) = (c.closed, c.trace)) :
    Lasts w (w.modifyClient client change) :=
  lasts_changeClient w client hconfig hassociation fun h => h.modifyClient client hstanding

/-- A change of what an endpoint owns. -/
theorem lasts_setLocal {w : World} {endpoint : EndpointId} {owned owned' : LocalEndpoint}
    (howned : w.local? endpoint = some owned) (hkeeps : owned.KeepsTasks w.HasEnded owned') :
    Lasts w (w.setLocal endpoint owned') where
  ended h := h
  association h := h
  config h := ⟨_, h, rfl, fun hr => hr⟩
  endpoint {other owned''} h := by
    simp only [local?, setLocal, modifyEndpoint, List.getElem?_modify] at h howned ⊢
    obtain ⟨cell, hcell, hother⟩ := Option.map_eq_some_iff.1 h
    rw [hcell]
    by_cases heq : endpoint = other
    · subst heq
      rw [hcell, Option.map_some, Option.some.injEq] at howned
      have hsame : owned'' = owned := hother.symm.trans howned
      exact ⟨owned', by simp, hsame ▸ hkeeps⟩
    · exact ⟨owned'', by simp [heq, hother], .refl _⟩
  wanes h := ⟨_, h, .refl _⟩
  released := .inl
  registered h := h.of_eq rfl rfl
  tokens := List.Subset.refl _

/-- A change of a configuration that releases it or leaves it as it is. -/
theorem lasts_modifyConfig (w : World) (config : Nat) {change : ConfigCell → ConfigCell}
    (hconfig : ∀ cell, (change cell).config = cell.config)
    (hreleased : ∀ {cell}, w.configs[config]? = some cell → cell.release.released = true →
      (change cell).release.released = true) :
    Lasts w { w with configs := w.configs.modify config change } where
  ended h := h
  association h := h
  config {client cell} h := by
    obtain ⟨c, hc, hcell⟩ := Option.bind_eq_some_iff.1 h
    have hnew : (w.configs.modify config change)[c.config]? =
        some (if config = c.config then change cell else cell) := by
      rw [List.getElem?_modify, hcell]
      rfl
    have hfound : World.configOf? { w with configs := w.configs.modify config change } client =
        (w.configs.modify config change)[c.config]? := by
      show (w.clients[client]?).bind _ = _
      rw [hc]
      rfl
    refine ⟨_, hfound.trans hnew, ?_, fun hr => ?_⟩
    · split
      · exact hconfig cell
      · rfl
    · split
      next heq => exact hreleased (heq ▸ hcell) hr
      next => exact hr
  endpoint h := ⟨_, h, .refl _⟩
  wanes h := ⟨_, h, .refl _⟩
  released := .inl
  registered h := h.of_eq rfl rfl
  tokens := List.Subset.refl _

/-- A change of a handler that does not make it admit operations again. -/
theorem lasts_modifyHandler (w : World) (handler : HandlerId) {change : Handler → Handler}
    (hwanes : ∀ {h : Handler}, w.handlers[handler]? = some h → h.tracker.Wanes (change h).tracker) :
    Lasts w (w.modifyHandler handler change) where
  ended h := h
  association h := h
  config h := ⟨_, h, rfl, fun hr => hr⟩
  endpoint h := ⟨_, h, .refl _⟩
  wanes {other tracker} h := by
    simp only [tracker?, modifyHandler, List.getElem?_modify] at h ⊢
    obtain ⟨cell, hcell, rfl⟩ := Option.map_eq_some_iff.1 h
    rw [hcell]
    by_cases heq : handler = other
    · subst heq
      exact ⟨(change cell).tracker, by simp, hwanes hcell⟩
    · exact ⟨cell.tracker, by simp [heq], .refl _⟩
  released := .inl
  registered h := h.of_eq rfl rfl
  tokens := List.Subset.refl _

end World

end Remoting
