import Remoting.Proofs.Stack

/-!
# Calls that fit together

`CallsFit` is the invariant of all runs. It says of every task that its calls fit together and that
it has the locks that its calls hold, and of every client that its connection is the one that its
calls have led to. While a task is being polled the invariant leaves it out: `Acting` adds what is
known of that task at the moment. A step of the task may then change what its own locks guard,
`Respects`, and nothing that the other tasks rely on.
-/

namespace Remoting

/-- Whether a task can be found like this between polls: it waits, or it has not begun. -/
def Control.resting : Control → Bool
  | .wait _ => true
  | .call (.teardown _ .shutdown) => true
  | .call (.teardown ..) => false
  | .call _ => true
  | _ => false

namespace World

/-- A task has the lock of a client for what it does, and the client is as it has to be for that. -/
def Held (w : World) (task : TaskId) (client : ClientId) (hold : Hold) : Prop :=
  w.owner? client = some task ∧
  match hold with
  | .endpoint endpoint => w.state? client = some (.opened (some endpoint) none)
  | .strategy strategy => ∃ endpoint, w.state? client = some (.opened endpoint (some strategy))
  | .teardown t point => (∃ outcome, w.state? client = some (.closed outcome)) ∧
      .teardown task t ∈ w.history client ∧ t.Before point (afterTeardown (w.history client))

/-- What is known of a task wherever it is. -/
structure TaskOk (w : World) (task : TaskId) (control : Control) (frames : List Frame) : Prop where
  typed : w.Typed task frames control
  callHolds : ∀ {client : ClientId} {hold : Hold}, control.hold? = some (client, hold) →
    w.Held task client hold
  frameHolds : ∀ {frame : Frame} {client : ClientId} {hold : Hold}, frame ∈ frames →
    frame.hold? = some (client, hold) → w.Held task client hold

/-- What is known of a task while it is polled: besides, a teardown has its verdict, and it waits
for an endpoint only as long as it is not interrupted. -/
structure Active (w : World) (task : TaskId) (control : Control) (frames : List Frame) : Prop
    extends TaskOk w task control frames where
  verdict : ∀ {t : Teardown} {outcome : Except Error Unit},
    control = .call (.teardown t (.finish outcome)) → outcome = w.verdict t
  uninterrupted : ∀ {t : Teardown}, Frame.teardown t .endpoint ∈ frames → w.interrupted t = false

/-- What the end of the task of a teardown says: it was stopped, or it has made all calls and the
client has the outcome. -/
def Ended (w : World) (client : ClientId) (outcome : Except Error Unit) (t : Teardown)
    (finish : Finish) : Prop :=
  finish = .aborted ∨
    ∃ result, finish = .value (closeReply result) ∧ outcome = result.mapError Error.clone ∧
      ∃ skipDrain skipWait, afterTeardown (w.history client) = t.sequence skipDrain skipWait

/-- The endpoint and the strategy of a connection exist. -/
structure Has (w : World) (endpoint : Option EndpointId) (strategy : Option StrategyId) : Prop where
  endpoint : ∀ {e : EndpointId}, endpoint = some e → ∃ cell, w.endpoints[e]? = some cell
  strategy : ∀ {s : StrategyId}, strategy = some s → ∃ cell, w.strategies[s]? = some cell

/-- A connection with neither has all that it needs. -/
theorem Has.none (w : World) : w.Has none none := ⟨nofun, nofun⟩

/-- What is known of a closed client: what its teardown was handed, and how far it has come. -/
structure Closing (w : World) (client : ClientId) (outcome : Except Error Unit) (task : TaskId)
    (t : Teardown) : Prop where
  state : w.state? client = some (.closed outcome)
  history : w.history client = beforeTeardown (w.history client) ++
    .teardown task t :: afterTeardown (w.history client)
  client_eq : t.client = client
  opened : Opened t.endpoint t.strategy (beforeTeardown (w.history client))
  has : w.Has t.endpoint t.strategy
  calls : ∃ skipDrain skipWait,
    afterTeardown (w.history client) <+: t.sequence skipDrain skipWait
  started : w.Started task
  ended : ∀ {finish : Finish}, w.finish? task = some finish → w.Ended client outcome t finish

/-- A client is as its calls have made it. -/
def ClientOk (w : World) (client : ClientId) : Prop :=
  match w.state? client with
  | none => w.history client = []
  | some (.opened endpoint strategy) => w.closed? client = some false ∧
      Opened endpoint strategy (w.history client) ∧ w.Has endpoint strategy
  | some (.closed outcome) => w.closed? client = some true ∧
      ∃ task t, w.Closing client outcome task t

/-- What is known of all tasks, and of those apart from the polled one what they wait for. -/
structure Orderly (w : World) (active : Option TaskId) : Prop where
  nodup : (w.tasks.map Task.id).Nodup
  fresh : ∀ {t : Task}, t ∈ w.tasks → t.id < w.nextTask
  unfinished : ∀ {t : Task}, t ∈ w.tasks → w.finish? t.id = none
  past : ∀ {task : TaskId} {finish : Finish}, w.finish? task = some finish → task < w.nextTask
  handed : ∀ {client : ClientId} {task : TaskId} {t : Teardown},
    (client, .teardown task t) ∈ w.contacts → task < w.nextTask
  unheld : ∀ {t : Task} {client : ClientId} {teardown : Teardown}, t ∈ w.tasks →
    (client, .teardown t.id teardown) ∈ w.contacts → t.handle = none
  resting : ∀ {t : Task}, t ∈ w.tasks → active ≠ some t.id →
    t.control.resting = true ∧ w.TaskOk t.id t.control t.frames

/-- The invariant of runs, apart from the task that is being polled. -/
structure CallsFit (w : World) (active : Option TaskId) : Prop extends Orderly w active where
  clients : ∀ client, w.ClientOk client

/-- The invariant while a task is being polled. -/
structure Acting (w : World) (task : TaskId) : Prop where
  fits : w.CallsFit (some task)
  active : ∀ {t : Task}, w.task? task = some t → w.Active task t.control t.frames

theorem CallsFit.weaken {w : World} (h : w.CallsFit none) (task : TaskId) : w.CallsFit (some task)
    where
  nodup := h.nodup
  fresh := h.fresh
  unfinished := h.unfinished
  past := h.past
  handed := h.handed
  unheld := h.unheld
  resting ht _ := h.resting ht nofun
  clients := h.clients

/-! ## Closed clients -/

/-- A closed client has handed its teardown to one task only. -/
theorem Closing.unique {w : World} {client : ClientId} {outcome : Except Error Unit}
    {task task' : TaskId} {t t' : Teardown} (h : w.Closing client outcome task t)
    (hhanded : .teardown task' t' ∈ w.history client) : task' = task ∧ t' = t := by
  rw [h.history, List.mem_append, List.mem_cons] at hhanded
  rcases hhanded with hbefore | heq | hafter
  · cases isTeardown_of_mem_beforeTeardown hbefore
  · cases heq
    exact ⟨rfl, rfl⟩
  · obtain ⟨skipDrain, skipWait, hinitial⟩ := h.calls
    cases Teardown.not_isTeardown_of_mem (hinitial.subset hafter)

theorem Closing.handed {w : World} {client : ClientId} {outcome : Except Error Unit} {task : TaskId}
    {t : Teardown} (h : w.Closing client outcome task t) : .teardown task t ∈ w.history client := by
  rw [h.history]
  simp

/-- What connects a closed client was done before its teardown. -/
theorem Closing.connecting_iff {w : World} {client : ClientId} {outcome : Except Error Unit}
    {task : TaskId} {t : Teardown} (h : w.Closing client outcome task t) {call : Contact}
    (hconnecting : call.isConnecting = true) :
    call ∈ w.history client ↔ call ∈ beforeTeardown (w.history client) := by
  conv => lhs; rw [h.history, List.mem_append, List.mem_cons]
  refine ⟨fun hcall => ?_, .inl⟩
  rcases hcall with hbefore | rfl | hafter
  · exact hbefore
  · cases hconnecting
  · obtain ⟨skipDrain, skipWait, hinitial⟩ := h.calls
    rw [Teardown.not_isConnecting_of_mem (hinitial.subset hafter)] at hconnecting
    cases hconnecting

/-- Only a closed client has handed its teardown to a task. -/
theorem ClientOk.closing {w : World} {client : ClientId} (h : w.ClientOk client) {task : TaskId}
    {t : Teardown} (hhanded : .teardown task t ∈ w.history client) :
    ∃ outcome, w.Closing client outcome task t := by
  unfold ClientOk at h
  split at h
  next hstate =>
    rw [h] at hhanded
    cases hhanded
  next endpoint strategy hstate =>
    cases h.2.1.not_isTeardown hhanded
  next outcome hstate =>
    obtain ⟨-, task', t', hclosing⟩ := h
    obtain ⟨rfl, rfl⟩ := hclosing.unique hhanded
    exact ⟨outcome, hclosing⟩

/-! ## Changes that respect the resting tasks -/

/-- The second world has grown from the first and lost no task, and a teardown that has ended, if
not by being stopped, had ended before. -/
structure Continues (w u : World) : Prop extends Grows w u where
  started : ∀ {task : TaskId}, w.Started task → u.Started task
  ended : ∀ {client : ClientId} {task : TaskId} {t : Teardown} {finish : Finish},
    (client, .teardown task t) ∈ u.contacts → u.finish? task = some finish →
      finish = .aborted ∨ (client, .teardown task t) ∈ w.contacts ∧ w.finish? task = some finish

/-- The second world keeps what the tasks but one rely on: a lock that another task has, and what
that lock guards. -/
structure Respects (active : Option TaskId) (w u : World) : Prop extends Grows w u where
  others : ∀ {client : ClientId} {owner : TaskId}, w.owner? client = some owner →
    active ≠ some owner → u.owner? client = some owner ∧ u.state? client = w.state? client ∧
      u.history client = w.history client

theorem Continues.trans {w v u : World} (h : Continues w v) (h' : Continues v u) :
    Continues w u where
  toGrows := h.toGrows.trans h'.toGrows
  started hstarted := h'.started (h.started hstarted)
  ended hhanded hfinish := by
    rcases h'.ended hhanded hfinish with haborted | ⟨hhanded, hfinish⟩
    · exact .inl haborted
    · exact h.ended hhanded hfinish

theorem Alike.continues {w u : World} (h : Alike w u) : Continues w u where
  toGrows := h.grows
  started := h.started
  ended hhanded hfinish := by
    rw [h.contacts] at hhanded
    rcases h.ended hfinish with haborted | hfinish
    · exact .inl haborted
    · exact .inr ⟨hhanded, hfinish⟩

theorem Alike.respects {w u : World} (h : Alike w u) (active : Option TaskId) :
    Respects active w u where
  toGrows := h.grows
  others howner _ := ⟨(h.owner _).trans howner, h.state _, history_of_contacts h.contacts _⟩

section Changes

variable {w u : World} {task other : TaskId} {active : Option TaskId} {control : Control}
  {frames : List Frame}

theorem Held.of_eq {client : ClientId} {hold : Hold} (h : w.Held task client hold)
    (howner : u.owner? client = some task) (hstate : u.state? client = w.state? client)
    (hhistory : u.history client = w.history client) : u.Held task client hold := by
  refine ⟨howner, ?_⟩
  have hheld := h.2
  cases hold <;> simpa only [hstate, hhistory] using hheld

theorem Held.alike {client : ClientId} {hold : Hold} (h : w.Held task client hold)
    (halike : Alike w u) : u.Held task client hold :=
  h.of_eq ((halike.owner client).trans h.1) (halike.state client)
    (history_of_contacts halike.contacts client)

/-- A task that rests keeps what is known of it. -/
theorem TaskOk.of_respects (h : w.TaskOk other control frames) (hrespects : Respects active w u)
    (hother : active ≠ some other) (hfresh : other < w.nextTask) (hrest : control.resting = true) :
    u.TaskOk other control frames where
  typed := by
    have htyped := h.typed
    cases control with
    | call | wait => exact Stack.grow hrespects.toGrows hfresh htyped
    | _ => cases hrest
  callHolds hhold := by
    have hheld := h.callHolds hhold
    obtain ⟨howner, hstate, hhistory⟩ := hrespects.others hheld.1 hother
    exact hheld.of_eq howner hstate hhistory
  frameHolds hframe hhold := by
    have hheld := h.frameHolds hframe hhold
    obtain ⟨howner, hstate, hhistory⟩ := hrespects.others hheld.1 hother
    exact hheld.of_eq howner hstate hhistory

/-- An endpoint that exists still exists in a world that has kept its parts. -/
theorem Parts.exists_endpoint (h : Parts w u) {endpoint : EndpointId}
    (hcell : ∃ cell, w.endpoints[endpoint]? = some cell) :
    ∃ cell, u.endpoints[endpoint]? = some cell := by
  obtain ⟨cell, hcell⟩ := hcell
  obtain ⟨cell', hcell', -⟩ := h.endpoint hcell
  exact ⟨cell', hcell'⟩

/-- What exists goes on to exist in a world that has kept its parts. -/
theorem Has.parts (h : Parts w u) {endpoint : Option EndpointId} {strategy : Option StrategyId}
    (hhas : w.Has endpoint strategy) : u.Has endpoint strategy where
  endpoint he := h.exists_endpoint (hhas.endpoint he)
  strategy hs := by
    obtain ⟨cell, hcell⟩ := hhas.strategy hs
    obtain ⟨cell', hcell', -⟩ := h.strategy hcell
    exact ⟨cell', hcell'⟩

/-- A client stays as it has to be while its connection and its calls stay, if its teardown ends as
it has to. -/
theorem ClientOk.grow {client : ClientId} (h : w.ClientOk client) (hgrows : Grows w u)
    (hstate : u.state? client = w.state? client) (hclosed : u.closed? client = w.closed? client)
    (hhistory : u.history client = w.history client)
    (hstarted : ∀ {joined : TaskId}, w.Started joined → u.Started joined)
    (hended : ∀ {outcome : Except Error Unit} {joined : TaskId} {t : Teardown} {finish : Finish},
      w.Closing client outcome joined t → u.finish? joined = some finish →
        w.Ended client outcome t finish) : u.ClientOk client := by
  unfold ClientOk at h ⊢
  rw [hstate, hclosed, hhistory]
  split at h
  next => exact h
  next =>
    obtain ⟨hopen, hopened, hhas⟩ := h
    exact ⟨hopen, hopened, hhas.parts hgrows.toParts⟩
  next outcome hstate' =>
    obtain ⟨hopen, joined, t, hclosing⟩ := h
    refine ⟨hopen, joined, t, ?_⟩
    exact
      { state := hstate.trans hclosing.state
        history := by rw [hhistory]; exact hclosing.history
        client_eq := hclosing.client_eq
        opened := by rw [hhistory]; exact hclosing.opened
        has := hclosing.has.parts hgrows.toParts
        calls := by rw [hhistory]; exact hclosing.calls
        started := hstarted hclosing.started
        ended := fun hfinish => by
          rw [Ended, hhistory]
          exact hended hclosing hfinish }

/-- A client stays as it has to be while its connection and its calls stay. -/
theorem ClientOk.of_eq {client : ClientId} (h : w.ClientOk client) (hgoes : Continues w u)
    (hstate : u.state? client = w.state? client) (hclosed : u.closed? client = w.closed? client)
    (hhistory : u.history client = w.history client) : u.ClientOk client := by
  refine h.grow hgoes.toGrows hstate hclosed hhistory hgoes.started fun hclosing hfinish => ?_
  have hhanded := hgoes.mem (mem_history.1 hclosing.handed)
  rcases hgoes.ended hhanded hfinish with haborted | ⟨-, hfinish⟩
  · exact .inl haborted
  · exact hclosing.ended hfinish

/-- Clients stay as they have to be in an alike world. -/
theorem ClientOk.alike {client : ClientId} (h : w.ClientOk client) (halike : Alike w u) :
    u.ClientOk client :=
  h.of_eq halike.continues (halike.state client) (halike.closed client)
    (history_of_contacts halike.contacts client)

/-- Tasks stay in order under a change that respects the resting ones. -/
theorem Orderly.of_respects (h : w.Orderly active) (hsame : SameTasks w u)
    (hrespects : Respects active w u) : u.Orderly active where
  nodup := by
    rw [hsame.tasks]
    exact h.nodup
  fresh ht := by
    rw [hsame.tasks] at ht
    rw [hsame.nextTask]
    exact h.fresh ht
  unfinished ht := by
    rw [hsame.tasks] at ht
    rw [hsame.finish?]
    exact h.unfinished ht
  past hfinish := by
    rw [hsame.finish?] at hfinish
    rw [hsame.nextTask]
    exact h.past hfinish
  handed hhanded := by
    rcases hrespects.handed hhanded with hhanded | ⟨-, hlt⟩
    · rw [hsame.nextTask]
      exact h.handed hhanded
    · exact hlt
  unheld ht hhanded := by
    rw [hsame.tasks] at ht
    rcases hrespects.handed hhanded with hhanded | ⟨hle, -⟩
    · exact h.unheld ht hhanded
    · exact absurd (h.fresh ht) (Nat.not_lt.2 hle)
  resting ht hactive := by
    rw [hsame.tasks] at ht
    obtain ⟨hrest, hok⟩ := h.resting ht hactive
    exact ⟨hrest, hok.of_respects hrespects hactive (h.fresh ht) hrest⟩

/-- The calls of a world still fit after a quiet change. -/
theorem CallsFit.quiet (h : w.CallsFit active) (hquiet : Quiet w u) : u.CallsFit active where
  toOrderly := h.of_respects hquiet.same (hquiet.respects active)
  clients client := (h.clients client).alike hquiet.toAlike

end Changes

end World

end Remoting
