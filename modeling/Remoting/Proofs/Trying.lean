import Remoting.Proofs.Holding
import Remoting.Proofs.Seats

/-!
# Steps of a call for a channel

With each step a call for a channel makes at most one call to a collaborator and keeps what that
call yields, and then goes on or is over. `World.Tries` says which entries of the journal a step
makes and what the task does next, and here is one lemma for each point at which the call goes on:
with the lock, with an endpoint, with the answer of the factory, with a strategy, and with the
answer of the strategy.
-/

namespace Remoting

/-- The factory of a client yields an endpoint when it is asked for the next one. -/
def Client.YieldsEndpoint (c : Client) : Prop :=
  c.factory.plain = true ∨ (c.factory.endpoint c.endpointCalls).create = .succeed

/-- A call is over: it has replied or panicked. -/
def Control.IsOver (control : Control) : Prop :=
  (∃ reply, control = .reply reply) ∨ ∃ content, control = .unwind content

theorem Control.IsOver.reply (reply : Reply) : (Control.reply reply).IsOver := .inl ⟨reply, rfl⟩

theorem Control.IsOver.unwind (content : Panic) : (Control.unwind content).IsOver :=
  .inr ⟨content, rfl⟩

namespace World

variable {w v u : World} {task : TaskId} {client : ClientId} {calls : List Contact}
  {control : Control} {frames : List Frame} {endpoint : EndpointId} {strategy : StrategyId}
  {c : Client} {cell : ConfigCell} {t : Task}

/-- With its answer the factory of a client yields a strategy. -/
def YieldsStrategy (w : World) (client : ClientId) (plan : StrategyPlan) (reply : Reply) : Prop :=
  (∃ value, reply = .ok value) ∧ (w.callAssociation client plan.onCreate).2 = none ∧
    plan.failure = none

/-- With a step a task makes entries for a client, and then goes on as given. -/
def Tries (task : TaskId) (client : ClientId) (calls : List Contact) (control : Control)
    (frames : List Frame) (w u : World) : Prop :=
  ∃ v : World, u = v.goto task control frames ∧ v.contacts = w.contacts ++ calls.map (client, ·) ∧
    w.tasks <+: v.tasks

theorem Tries.of_same (hcontacts : v.contacts = w.contacts ++ calls.map (client, ·))
    (htasks : v.tasks = w.tasks) :
    Tries task client calls control frames w (v.goto task control frames) :=
  ⟨v, rfl, hcontacts, htasks ▸ List.prefix_rfl⟩

/-- The task that makes a step goes on. -/
theorem Tries.found (h : Tries task client calls control frames w u) (ht : w.task? task = some t) :
    u.task? task = some { t with control, frames } := by
  obtain ⟨v, rfl, -, new, hnew⟩ := h
  rw [task?_goto, World.task?, ← hnew, List.find?_append,
    show w.tasks.find? (fun t => decide (t.id = task)) = some t from ht]
  rfl

theorem Tries.history (h : Tries task client calls control frames w u) :
    u.history client = w.history client ++ calls := by
  obtain ⟨v, rfl, hcontacts, -⟩ := h
  show v.history client = _
  simp only [World.history, hcontacts, List.filterMap_append, List.filterMap_map]
  congr 1
  simp

/-! ## Ends -/

theorem tries_endChannel (hcontacts : v.contacts = w.contacts ++ calls.map (client, ·))
    (htasks : v.tasks = w.tasks) (reply : Reply) :
    Tries task client calls (.reply reply) frames w (v.endChannel task client reply frames) :=
  have hleave := relocks_leaveLock v task client
  .of_same (hleave.contacts.trans hcontacts) (hleave.same.tasks.trans htasks)

theorem tries_panicChannel (hcontacts : v.contacts = w.contacts ++ calls.map (client, ·))
    (htasks : v.tasks = w.tasks) (content : Panic) :
    Tries task client calls (.unwind content) frames w
      (v.panicChannel task client content frames) :=
  have hleave := relocks_leaveLock v task client
  .of_same (hleave.contacts.trans hcontacts) (hleave.same.tasks.trans htasks)

/-- A panic of a collaborator goes through a call for a channel that holds the lock. -/
theorem tries_unwind {frame : Frame}
    (hframe : (∃ endpoint plan, frame = .creation client endpoint plan) ∨
    ∃ strategy channel, frame = .channel client strategy channel) (content : Panic) :
    Tries task client [] (.unwind content) frames w (w.unwind task frame content frames) := by
  have hleave := relocks_leaveLock w task client
  rcases hframe with ⟨endpoint, plan, rfl⟩ | ⟨strategy, channel, rfl⟩ <;>
    exact .of_same (hleave.contacts.trans (List.append_nil _).symm) hleave.same.tasks

/-! ## With the lock -/

theorem contacts_startOwned (w : World) (endpoint : EndpointId) (tasks : List Nat) :
    (w.startOwned endpoint tasks).contacts = w.contacts := by
  have hadds : Adds (fun _ _ => False) w (w.startOwned endpoint tasks) :=
    .foldl (fun w _ => adds_spawnOwned w _ _) _ _
  obtain ⟨entries, heq, hnone⟩ := hadds
  rw [heq, List.eq_nil_iff_forall_not_mem.2 hnone, List.append_nil]

/-- A factory that is asked for an endpoint fails, or the client keeps what it yields. -/
theorem tries_createEndpoint (w : World) (task : TaskId) (client : ClientId) (c : Client)
    (name : String) (frames : List Frame) :
    (¬ c.YieldsEndpoint ∧ ∃ control, control.IsOver ∧ Tries task client [.createEndpoint] control
      frames w (w.createEndpoint task client c name frames)) ∨
    (c.YieldsEndpoint ∧ ∃ endpoint, Tries task client [.createEndpoint, .endpointCreated endpoint]
      (.call (.connect client endpoint)) frames w
        (w.createEndpoint task client c name frames)) := by
  unfold World.createEndpoint
  dsimp only
  split
  next hplain =>
    exact .inr ⟨.inl hplain, _, .of_same (List.append_assoc ..) rfl⟩
  next hplain =>
    split
    next error hcreate =>
      refine .inl ⟨?_, _, .reply _, tries_endChannel (by rfl) (by rfl) _⟩
      -- a factory that fails yields no endpoint, and a plain one does not fail
      rintro (hyields | hyields)
      · exact hplain hyields
      · cases hcreate.symm.trans hyields
    next content hcreate =>
      refine .inl ⟨?_, _, .unwind _, tries_panicChannel (by rfl) (by rfl) _⟩
      rintro (hyields | hyields)
      · exact hplain hyields
      · cases hcreate.symm.trans hyields
    next hcreate =>
      generalize hasked : (((w.contact client .createEndpoint).modifyClient client fun c =>
        { c with endpointCalls := c.endpointCalls + 1 }).emit (.createEndpoint name)).addEndpoint
          ⟨LocalEndpoint.fresh name, some client, some (c.factory.endpoint c.endpointCalls)⟩ = made
      have hcontacts : made.2.contacts = w.contacts ++ [(client, .createEndpoint)] := by
        rw [← hasked]
        rfl
      have htasks : made.2.tasks = w.tasks := by
        rw [← hasked]
        rfl
      have hstarts : Deals (fun _ => True) 0 [] made.2 _ := deals_startOwned made.2 made.1
        (c.factory.endpoint c.endpointCalls).tasks
      obtain ⟨new, hnew, -⟩ := hstarts.tasks
      refine .inr ⟨.inr hcreate, made.1, _, rfl, ?_, new, by rw [← htasks]; exact hnew.symm⟩
      show (made.2.startOwned _ _).contacts ++ _ = _
      rw [contacts_startOwned, hcontacts, List.append_assoc]
      rfl

/-- With the lock a call for a channel goes on at the first piece that is missing. -/
theorem tries_lockedChannel {e : Option EndpointId} {s : Option StrategyId}
    (hc : w.clients[client]? = some c) (hcell : w.configOf? client = some cell)
    (hstate : c.state = .opened e s) :
    (∃ strategy, s = some strategy ∧ Tries task client []
      (.call (.openChannel client strategy)) frames w (w.lockedChannel task client frames)) ∨
    (∃ endpoint, s = none ∧ e = some endpoint ∧
      Tries task client [] (.call (.connect client endpoint))
      frames w (w.lockedChannel task client frames)) ∨
    (s = none ∧ e = none ∧ ¬ c.YieldsEndpoint ∧ ∃ control, control.IsOver ∧
      Tries task client [.createEndpoint] control frames w (w.lockedChannel task client frames)) ∨
    (s = none ∧ e = none ∧ c.YieldsEndpoint ∧ ∃ endpoint,
      Tries task client [.createEndpoint, .endpointCreated endpoint]
        (.call (.connect client endpoint)) frames w (w.lockedChannel task client frames)) := by
  have hnil : w.contacts = w.contacts ++ [].map (client, ·) := (List.append_nil _).symm
  simp only [lockedChannel, hc, hcell, hstate]
  cases s with
  | some strategy => exact .inl ⟨strategy, rfl, .of_same hnil rfl⟩
  | none =>
      cases e with
      | some endpoint => exact .inr (.inl ⟨endpoint, rfl, rfl, .of_same hnil rfl⟩)
      | none =>
          rcases tries_createEndpoint w task client c cell.config.endpointName frames with
            ⟨hfails, hover⟩ | ⟨hyields, hkept⟩
          · exact .inr (.inr (.inl ⟨rfl, rfl, hfails, hover⟩))
          · exact .inr (.inr (.inr ⟨rfl, rfl, hyields, hkept⟩))

/-- Without the settings of a connection a call for a channel fails, and with them the factory is
asked for a strategy. -/
theorem tries_connect (hc : w.clients[client]? = some c) (hcell : w.configOf? client = some cell) :
    (∃ error, ConnectionSettings.ofConfig cell.config = .error error ∧
      Tries task client [] (.reply (.error error)) frames w
        (w.connect task client endpoint frames)) ∨
    ∃ settings, ConnectionSettings.ofConfig cell.config = .ok settings ∧
      ((∃ content, Tries task client [.createStrategy endpoint] (.unwind content) frames w
        (w.connect task client endpoint frames)) ∨
      ∃ plan, Tries task client [.createStrategy endpoint] (.call (.behave plan.create))
        (.creation client endpoint plan :: frames) w (w.connect task client endpoint frames)) := by
  unfold World.connect
  rw [hc, hcell]
  dsimp only
  split
  next error hsettings =>
    exact .inl ⟨error, hsettings, tries_endChannel (List.append_nil _).symm rfl _⟩
  next settings hsettings =>
    refine .inr ⟨settings, hsettings, ?_⟩
    split
    next content _ => exact .inl ⟨content, tries_panicChannel (by rfl) (by rfl) content⟩
    next => exact .inr ⟨_, .of_same rfl rfl⟩

/-- The client keeps a strategy that the factory yields. -/
theorem tries_created (w : World) (task : TaskId) (client : ClientId) (endpoint : EndpointId)
    (plan : StrategyPlan) (reply : Reply) (frames : List Frame) :
    (¬ w.YieldsStrategy client plan reply ∧ ∃ control, control.IsOver ∧
      Tries task client [] control frames w (w.created task client endpoint plan reply frames)) ∨
    (w.YieldsStrategy client plan reply ∧ ∃ strategy,
      Tries task client [.strategyCreated strategy] (.call (.openChannel client strategy)) frames w
        (w.created task client endpoint plan reply frames)) := by
  have hquiet := quiet_callAssociation w client plan.onCreate
  have hcontacts := hquiet.contacts.trans (List.append_nil _).symm
  unfold World.created YieldsStrategy
  split
  next error =>
    refine .inl ⟨?_, _, .reply _, tries_endChannel (List.append_nil _).symm rfl _⟩
    rintro ⟨⟨value, hvalue⟩, -⟩
    cases hvalue
  next value =>
    split
    next v content hcall =>
      rw [hcall] at hquiet hcontacts
      refine .inl ⟨?_, _, .unwind _, tries_panicChannel hcontacts hquiet.same.tasks content⟩
      rintro ⟨-, hnone, -⟩
      rw [hcall] at hnone
      cases hnone
    next v hcall =>
      rw [hcall] at hquiet hcontacts
      split
      next failure hfailure =>
        refine .inl ⟨?_, _, .reply _, tries_endChannel hcontacts hquiet.same.tasks _⟩
        rintro ⟨-, -, hnone⟩
        cases hfailure.symm.trans hnone
      next hfailure =>
        refine .inr ⟨⟨⟨value, rfl⟩, by rw [hcall], hfailure⟩, v.strategies.length, .of_same ?_ ?_⟩
        · show v.contacts ++ _ = _
          rw [hquiet.contacts]
          rfl
        · exact hquiet.same.tasks

/-- The strategy is asked for a channel. -/
theorem tries_openChannel {strategyCell : StrategyCell}
    (hcell : w.strategies[strategy]? = some strategyCell) :
    ∃ plan : ChannelPlan, Tries task client [.channel strategy] (.call (.behave plan.behaviour))
      (.channel client strategy plan.channel :: frames) w
      (w.openChannel task client strategy frames) := by
  unfold World.openChannel
  rw [hcell]
  exact ⟨_, .of_same rfl rfl⟩

/-- With the answer of the strategy the call is over. -/
theorem tries_opened (w : World) (task : TaskId) (client : ClientId) (strategy : StrategyId)
    (channel : ChannelId) (reply : Reply) (frames : List Frame) :
    ∃ reply', Tries task client [] (.reply reply') frames w
      (w.opened task client strategy channel reply frames) := by
  unfold World.opened
  split
  next error => exact ⟨_, tries_endChannel (List.append_nil _).symm rfl _⟩
  next value => exact ⟨_, tries_endChannel (List.append_nil _).symm rfl _⟩

end World

end Remoting
