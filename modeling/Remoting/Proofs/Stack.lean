import Remoting.Proofs.History

/-!
# Calls inside calls

A task is a stack of frames, and each frame waits for a call of a certain kind. `Job` names these
kinds, `Frame.job` says what kind of call a frame is a part of, and `World.Awaits` what kinds of
call a frame can wait for. `World.Stack` says that a stack fits together. What an inner call may
hand to the frame around it, a reply or a panic, is `World.Delivers` and `World.Unwinds`: a wait for
a lock ends with the lock, a wait for another task with what that task ended with, a call for a
channel with a channel of the client's strategy, and a teardown with its verdict.
-/

namespace Remoting

/-- A kind of call. -/
inductive Job where
  | channel (client : ClientId)
  | supply (handler : HandlerId)
  /-- A stand-alone source takes its time. -/
  | supplied
  | clientSupply (client : ClientId)
  | execute
  | operate
  | close (client : ClientId)
  | background (client : ClientId)
  | teardown (teardown : Teardown)
  /-- A collaborator acts, and ends as given unless it never ends. -/
  | behave (ending : Ending)
  | awaitCompletion
  | awaitClosed (endpoint : EndpointId)
  | awaitLocal (endpoint : EndpointId)
  | own
  /-- A call runs in a task of its own; it may be one that can be started from outside. -/
  | spawn (isPublic : Bool)
  | awaitDrained
  | wait (wait : Wait)

/-- The kind of a call. -/
def Call.job : Call → Job
  | .getChannel client | .connect client _ | .openChannel client _ => .channel client
  | .supply handler => .supply handler
  | .clientSupply client => .clientSupply client
  | .execute .. => .execute
  | .operate .. => .operate
  | .close client _ => .close client
  | .teardown t _ => .teardown t
  | .behave behaviour => .behave behaviour.ending
  | .awaitCompletion _ => .awaitCompletion
  | .awaitClosed endpoint => .awaitClosed endpoint
  | .awaitLocal endpoint => .awaitLocal endpoint
  | .own .. => .own
  | .spawn call => .spawn call.isPublic
  | .await wait => .wait wait
  | .awaitDrained .. => .awaitDrained

/-- The kind of the call that a frame is a part of. -/
def Frame.job : Frame → Job
  | .getLock client | .creation client _ _ | .channel client _ _ => .channel client
  | .closeLock client _ | .closeJoin client | .recordLock client _ => .close client
  | .background client => .background client
  | .keep client => .clientSupply client
  | .supplied _ => .supplied
  | .supply .. | .opening .. | .operation .. => .execute
  | .script .. | .nested .. => .operate
  | .teardown t _ => .teardown t
  | .behaviour b => .behave b.ending
  | .completion _ => .awaitCompletion
  | .endpointClosed endpoint => .awaitClosed endpoint
  | .localRequest endpoint | .localTasks endpoint => .awaitLocal endpoint
  | .owned .. => .own

namespace Job

/-- Whether a collaborator is at work, perhaps forever. -/
def Behaves (job : Job) : Prop :=
  job = .wait .forever ∨ ∃ ending, job = .behave ending

/-- Whether a call of this kind is never made by a call that holds a lock. -/
def isOuter : Job → Bool
  | .channel _ | .supply _ | .supplied | .clientSupply _ | .execute | .operate | .close _
  | .background _ => true
  | _ => false

/-- The frames that can wait for a call of a kind, where these are few. -/
def Waiter : Job → Frame → Prop
  | .supply handler, frame => ∃ operation routine client,
      frame = .supply handler operation routine client
  | .operate, frame => (∃ operation body site, frame = .opening operation body site) ∨
      ∃ handler operation, frame = .operation handler operation
  | .awaitCompletion, frame => ∃ t deadline, frame = .teardown t (.drain deadline)
  | .awaitClosed _, frame => ∃ t, frame = .teardown t .endpoint
  | .wait (.lock client), frame => frame = .getLock client ∨
      (∃ interrupt, frame = .closeLock client interrupt) ∨ ∃ error, frame = .recordLock client error
  | .wait (.join _), frame => ∃ client, frame = .closeJoin client
  | .teardown _, _ | .background _, _ | .own, _ | .spawn _, _ | .awaitDrained, _ => False
  | _, _ => True

end Job

/-- What a task does with the lock of a client that it holds. -/
inductive Hold where
  /-- It makes a strategy over an endpoint. -/
  | endpoint (endpoint : EndpointId)
  /-- It gets a channel from a strategy. -/
  | strategy (strategy : StrategyId)
  /-- It is at a point of a teardown. -/
  | teardown (t : Teardown) (point : Teardown.Point)

/-- The lock that a call holds from its start on. -/
def Control.hold? : Control → Option (ClientId × Hold)
  | .call (.connect client endpoint) => some (client, .endpoint endpoint)
  | .call (.openChannel client strategy) => some (client, .strategy strategy)
  | .call (.teardown t stage) => some (t.client, .teardown t (.stage stage))
  | _ => none

/-- The lock that an enclosing call holds. -/
def Frame.hold? : Frame → Option (ClientId × Hold)
  | .creation client endpoint _ => some (client, .endpoint endpoint)
  | .channel client strategy _ => some (client, .strategy strategy)
  | .teardown t pause => some (t.client, .teardown t (.pause pause))
  | _ => none

/-- A call that can be started from outside holds no lock. -/
theorem Call.hold?_of_isPublic {call : Call} (h : call.isPublic = true) :
    (Control.call call).hold? = none := by
  cases call with
  | connect | openChannel | teardown => cases h
  | _ => rfl

theorem Call.job_of_isPublic {call : Call} (h : call.isPublic = true) :
    call.job ≠ .spawn false := by
  cases call with
  | spawn call =>
      rw [job, show call.isPublic = true from h]
      nofun
  | _ => nofun

namespace World

/-- One of the calls for a channel that were made to a strategy is for a channel and ends as given,
unless it never ends. -/
def Asked (w : World) (strategy : StrategyId) (channel : ChannelId) (ending : Ending) : Prop :=
  ∃ (cell : StrategyCell) (call : Nat), w.strategies[strategy]? = some cell ∧ call < cell.calls ∧
    (cell.plan.channel call).channel = channel ∧ (cell.plan.channel call).behaviour.ending = ending

/-- A channel that a strategy has yielded for one of the calls made so far. -/
def Yields (w : World) (strategy : StrategyId) (channel : ChannelId) : Prop :=
  w.Asked strategy channel .succeed

/-- A channel that a strategy of a client has yielded. -/
def Yielded (w : World) (client : ClientId) (channel : ChannelId) : Prop :=
  ∃ strategy, (client, .strategyCreated strategy) ∈ w.contacts ∧ w.Yields strategy channel

/-- The panic with which an endpoint ends the wait for its closure. -/
def awaitPanic? (w : World) (endpoint : EndpointId) : Option Panic :=
  (w.endpointPlan? endpoint).bind fun plan => plan.await.bind fun behaviour =>
    match behaviour.ending with
    | .panic content => some content
    | _ => none

/-- The outcome of a teardown whose wait for the endpoint ends now: it depends on the endpoint and
on whether the teardown is interrupted, and on nothing else. -/
def verdict (w : World) (t : Teardown) : Except Error Unit :=
  match t.endpoint with
  | none => .ok ()
  | some endpoint =>
    if w.interrupted t then .error (w.interruption endpoint)
    else
      match w.awaitPanic? endpoint with
      | some content => .error (.ofPanic content)
      | none => .ok ()

/-- The teardown of a client that was lost: its task was stopped before its end. -/
def LostTeardown (w : World) (client : ClientId) : Prop :=
  ∃ task t, (client, .teardown task t) ∈ w.contacts ∧ w.finish? task = some .aborted

/-! ## Stacks -/

/-- What a frame can wait for. -/
def Awaits (w : World) : Frame → Job → Prop
  | .getLock client, job | .closeLock client _, job => job = .wait (.lock client)
  | .creation .., job | .supplied _, job | .completion _, job => job.Behaves
  | .channel _ strategy channel, job => ∃ ending, w.Asked strategy channel ending ∧
      (job = .behave ending ∨ job = .wait .forever)
  | .closeJoin client, job => ∃ task t, job = .wait (.join task) ∧
      (client, .teardown task t) ∈ w.contacts
  | .recordLock client error, job => job = .wait (.lock client) ∧ error = lostTeardown ∧
      w.LostTeardown client
  | .background client, job => job = .close client
  | .keep client, job => job = .channel client
  | .supply handler .., job => job = .supply handler ∨
      job = .supplied ∧ w.source? handler = some none ∨
      ∃ client, job = .clientSupply client ∧ w.source? handler = some (some client)
  | .opening .., job | .operation .., job => job = .operate ∨ job = .wait .forever
  | .script .., job | .behaviour _, job => ∃ deadline, job = .wait (.sleep deadline)
  | .nested .., job => job = .execute ∨ ∃ client, job = .channel client ∨ job = .close client
  | .teardown t (.strategy strategy), job => t.strategy = some strategy ∧ job.Behaves
  | .teardown _ (.drain _), job => job = .awaitCompletion ∨
      ∃ handler deadline, job = .wait (.drained handler deadline)
  | .teardown t .endpoint, job => ∃ (endpoint : EndpointId) (cell : EndpointCell),
      t.endpoint = some endpoint ∧ w.endpoints[endpoint]? = some cell ∧
      (job = .awaitClosed endpoint ∨ job = .awaitLocal endpoint ∧ cell.plan = none)
  | .endpointClosed endpoint, job => ∃ (cell : EndpointCell) (plan : EndpointPlan),
      w.endpoints[endpoint]? = some cell ∧ cell.plan = some plan ∧
      match plan.await with
      | some behaviour => job = .behave behaviour.ending ∨ job = .wait .forever
      | none => job = .awaitLocal endpoint
  | .localRequest endpoint, job => job = .wait (.closeRequested endpoint)
  | .localTasks endpoint, job => job = .wait (.tasksGone endpoint)
  | .owned endpoint _, job => job = .wait (.finishOrder endpoint) ∨
      ∃ deadline, job = .wait (.sleep deadline)

/-- What the outermost call of a task can be: a task that was handed a teardown runs it, and what is
started from a task can be started from outside. -/
def Rooted (w : World) (task : TaskId) (job : Job) : Prop :=
  job ≠ .spawn false ∧
    ∀ client t, (client, Contact.teardown task t) ∈ w.contacts → job = .teardown t

/-- The frames of a task fit together around an inner call. -/
def Stack (w : World) (task : TaskId) : Job → List Frame → Prop
  | job, [] => w.Rooted task job
  | job, frame :: frames => w.Awaits frame job ∧ Stack w task frame.job frames

/-- What a call of some kind can reply. -/
def Delivers (w : World) (task : TaskId) : Job → Reply → Prop
  | .wait (.lock client), _ => w.owner? client = some task
  | .wait (.join joined), reply => w.finish? joined = some (.value reply)
  | .wait .forever, _ => False
  | .channel client, reply | .clientSupply client, reply =>
    ∀ channel, reply = .ok (.handle channel) → w.Yielded client channel
  | .supply _, reply => ∀ channel, reply ≠ .ok (.handle channel)
  | .behave ending, reply => (∃ value, reply = .ok value ∧ ending = .succeed) ∨
      ∃ error, reply = .error error ∧ ending = .fail error
  | .awaitClosed endpoint, _ => w.awaitPanic? endpoint = none
  | .awaitCompletion, reply | .wait (.drained ..), reply =>
    ∃ completed, reply = .ok (.flag completed)
  | .teardown t, reply => reply = closeReply (w.verdict t) ∧
      .teardown task t ∈ w.history t.client ∧
      w.state? t.client = some (.closed ((w.verdict t).mapError Error.clone)) ∧
      ∃ skipDrain skipWait, afterTeardown (w.history t.client) = t.sequence skipDrain skipWait
  | _, _ => True

/-- With what panic a call of some kind can end. -/
def Unwinds (w : World) : Job → Panic → Prop
  | .wait (.join joined), content => w.finish? joined = some (.panicked content)
  | .wait _, _ | .awaitLocal _, _ | .teardown _, _ => False
  | .behave ending, content => ending = .panic content
  | .awaitClosed endpoint, content => w.awaitPanic? endpoint = some content
  | _, _ => True

/-- What a task does next fits the frames around it. -/
def Typed (w : World) (task : TaskId) (frames : List Frame) : Control → Prop
  | .call call => w.Stack task call.job frames
  | .wait wait => w.Stack task (.wait wait) frames
  | .reply reply => ∃ job, w.Stack task job frames ∧ w.Delivers task job reply
  | .unwind content => ∃ job, w.Stack task job frames ∧ w.Unwinds job content
  | .lost => ∃ joined, w.Stack task (.wait (.join joined)) frames ∧
      w.finish? joined = some .aborted

/-! ## Growth -/

/-- The second world has kept everything that stacks speak of: parts, calls and ends of tasks. A
teardown is only handed to a new task. -/
structure Grows (w u : World) : Prop extends Parts w u where
  contacts : w.contacts <+: u.contacts
  handed : ∀ {client : ClientId} {task : TaskId} {t : Teardown},
    (client, .teardown task t) ∈ u.contacts →
      (client, .teardown task t) ∈ w.contacts ∨ w.nextTask ≤ task ∧ task < u.nextTask
  finished : ∀ {task : TaskId} {finish : Finish}, w.finish? task = some finish →
    u.finish? task = some finish
  nextTask : w.nextTask ≤ u.nextTask

theorem Grows.refl (w : World) : Grows w w :=
  ⟨.refl w, List.prefix_rfl, fun h => .inl h, fun h => h, Nat.le_refl _⟩

theorem Grows.trans {w v u : World} (h : Grows w v) (h' : Grows v u) : Grows w u where
  toParts := h.toParts.trans h'.toParts
  contacts := h.contacts.trans h'.contacts
  handed hentry := by
    rcases h'.handed hentry with hentry | ⟨hle, hlt⟩
    · rcases h.handed hentry with hentry | ⟨hle, hlt⟩
      · exact .inl hentry
      · exact .inr ⟨hle, Nat.lt_of_lt_of_le hlt h'.nextTask⟩
    · exact .inr ⟨Nat.le_trans h.nextTask hle, hlt⟩
  finished hfinish := h'.finished (h.finished hfinish)
  nextTask := Nat.le_trans h.nextTask h'.nextTask

theorem Grows.mem {w u : World} (h : Grows w u) {entry : ClientId × Contact}
    (hentry : entry ∈ w.contacts) : entry ∈ u.contacts :=
  h.contacts.subset hentry

/-- The calls of a client are kept. -/
theorem Grows.history {w u : World} (h : Grows w u) (client : ClientId) :
    ∃ later, u.history client = w.history client ++ later := by
  obtain ⟨later, hlater⟩ := h.contacts
  refine ⟨later.filterMap fun entry => if entry.1 = client then some entry.2 else none, ?_⟩
  rw [World.history, ← hlater, List.filterMap_append, World.history]

theorem Alike.grows {w u : World} (h : Alike w u) : Grows w u where
  toParts := h.toParts
  contacts := h.contacts ▸ List.prefix_rfl
  handed hentry := by
    rw [h.contacts] at hentry
    exact .inl hentry
  finished := h.finished
  nextTask := h.nextTask

section Growth

variable {w u : World} {task : TaskId} {job : Job} {frames : List Frame}

theorem Asked.grow (h : Grows w u) {strategy : StrategyId} {channel : ChannelId} {ending : Ending}
    (hasked : w.Asked strategy channel ending) : u.Asked strategy channel ending := by
  obtain ⟨cell, call, hcell, hcall, hchannel⟩ := hasked
  obtain ⟨cell', hcell', hplan, hcalls⟩ := h.strategy hcell
  exact ⟨cell', call, hcell', Nat.lt_of_lt_of_le hcall hcalls, by rwa [hplan]⟩

theorem Yielded.grow (h : Grows w u) {client : ClientId} {channel : ChannelId}
    (hyielded : w.Yielded client channel) : u.Yielded client channel := by
  obtain ⟨strategy, hcreated, hyields⟩ := hyielded
  exact ⟨strategy, h.mem hcreated, Asked.grow h hyields⟩

theorem Awaits.grow (h : Grows w u) {frame : Frame} (hawaits : w.Awaits frame job) :
    u.Awaits frame job := by
  cases frame with
  | channel client strategy channel =>
      obtain ⟨ending, hasked, hjob⟩ := hawaits
      exact ⟨ending, hasked.grow h, hjob⟩
  | closeJoin client =>
      obtain ⟨joined, t, hjob, hhanded⟩ := hawaits
      exact ⟨joined, t, hjob, h.mem hhanded⟩
  | recordLock client error =>
      obtain ⟨hjob, herror, joined, t, hhanded, haborted⟩ := hawaits
      exact ⟨hjob, herror, joined, t, h.mem hhanded, h.finished haborted⟩
  | supply handler operation routine client =>
      rcases hawaits with hjob | ⟨hjob, hsource⟩ | ⟨client, hjob, hsource⟩
      · exact .inl hjob
      · exact .inr (.inl ⟨hjob, h.source hsource⟩)
      · exact .inr (.inr ⟨client, hjob, h.source hsource⟩)
  | teardown t pause =>
      cases pause with
      | endpoint =>
          obtain ⟨endpoint, cell, hendpoint, hcell, hjob⟩ := hawaits
          obtain ⟨cell', hcell', hplan, -⟩ := h.endpoint hcell
          exact ⟨endpoint, cell', hendpoint, hcell', by rwa [hplan]⟩
      | _ => exact hawaits
  | endpointClosed endpoint =>
      obtain ⟨cell, plan, hcell, hplan, hjob⟩ := hawaits
      obtain ⟨cell', hcell', hplan', -⟩ := h.endpoint hcell
      exact ⟨cell', plan, hcell', hplan'.trans hplan, hjob⟩
  | _ => exact hawaits

/-- A stack is kept as long as its task is not handed a teardown. -/
theorem Stack.keep (h : Grows w u)
    (hhanded : ∀ {client t}, (client, Contact.teardown task t) ∈ u.contacts →
      (client, Contact.teardown task t) ∈ w.contacts)
    (hstack : w.Stack task job frames) : u.Stack task job frames := by
  induction frames generalizing job with
  | nil => exact ⟨hstack.1, fun _ _ hentry => hstack.2 _ _ (hhanded hentry)⟩
  | cons frame frames ih => exact ⟨hstack.1.grow h, ih hstack.2⟩

theorem Stack.grow (h : Grows w u) (hfresh : task < w.nextTask) (hstack : w.Stack task job frames) :
    u.Stack task job frames := by
  refine hstack.keep h fun hentry => ?_
  rcases h.handed hentry with hentry | ⟨hle, -⟩
  · exact hentry
  · exact absurd hfresh (Nat.not_lt.2 hle)

theorem Stack.alike (h : Alike w u) (hstack : w.Stack task job frames) :
    u.Stack task job frames :=
  hstack.keep h.grows fun hentry => by rwa [h.contacts] at hentry

end Growth

/-! ## Inner and outer calls -/

section Shape

variable {w : World} {task : TaskId} {job job' : Job} {frame : Frame} {frames : List Frame}

/-- The stack around a call also fits a call of another kind that every frame can wait for. -/
theorem Stack.become (hstack : w.Stack task job frames) (hroot : ∀ t, job ≠ .teardown t)
    (hroot' : job' ≠ .spawn false) (hframe : ∀ frame, w.Awaits frame job → w.Awaits frame job') :
    w.Stack task job' frames := by
  cases frames with
  | nil => exact ⟨hroot', fun _ _ hhanded => absurd (hstack.2 _ _ hhanded) (hroot _)⟩
  | cons frame frames => exact ⟨hframe frame hstack.1, hstack.2⟩

/-- A frame that waits for an outer call holds no lock, and is itself a part of an outer call. -/
theorem Awaits.outer (hawaits : w.Awaits frame job) (houter : job.isOuter = true) :
    frame.hold? = none ∧ frame.job.isOuter = true := by
  cases frame with
  | background | keep | supply | opening | operation | nested => exact ⟨rfl, rfl⟩
  | getLock | closeLock | localRequest | localTasks =>
      cases hawaits
      cases houter
  | recordLock =>
      obtain ⟨rfl, -⟩ := hawaits
      cases houter
  | closeJoin =>
      obtain ⟨joined, t, rfl, -⟩ := hawaits
      cases houter
  | creation | supplied | completion =>
      obtain rfl | ⟨ending, rfl⟩ := hawaits <;> cases houter
  | channel =>
      obtain ⟨ending, -, rfl | rfl⟩ := hawaits <;> cases houter
  | script | behaviour =>
      obtain ⟨deadline, rfl⟩ := hawaits
      cases houter
  | teardown t pause =>
      cases pause with
      | strategy => obtain ⟨-, rfl | ⟨ending, rfl⟩⟩ := hawaits <;> cases houter
      | drain => obtain rfl | ⟨handler, deadline, rfl⟩ := hawaits <;> cases houter
      | endpoint => obtain ⟨endpoint, cell, -, -, rfl | ⟨rfl, -⟩⟩ := hawaits <;> cases houter
  | endpointClosed =>
      obtain ⟨cell, plan, -, -, hjob⟩ := hawaits
      split at hjob
      · obtain rfl | rfl := hjob <;> cases houter
      · cases hjob
        cases houter
  | owned =>
      obtain rfl | ⟨deadline, rfl⟩ := hawaits <;> cases houter

/-- Around an outer call no lock is held. -/
theorem Stack.hold?_eq_none (hstack : w.Stack task job frames) (houter : job.isOuter = true) :
    ∀ frame ∈ frames, frame.hold? = none := by
  induction frames generalizing job with
  | nil => simp
  | cons frame frames ih =>
      obtain ⟨hhold, hjob⟩ := hstack.1.outer houter
      exact List.forall_mem_cons.2 ⟨hhold, ih hstack.2 hjob⟩

/-- The frames around a part of a stack are a stack. -/
theorem Stack.outer {inner : List Frame} (hstack : w.Stack task job (inner ++ frames)) :
    ∃ job', w.Stack task job' frames := by
  induction inner generalizing job with
  | nil => exact ⟨job, hstack⟩
  | cons frame inner ih => exact ih hstack.2

/-- Only certain frames wait for a call of a given kind, and for some kinds there are none. -/
theorem Awaits.waiter (hawaits : w.Awaits frame job) : job.Waiter frame := by
  cases frame with
  | getLock =>
      cases hawaits
      exact .inl rfl
  | closeLock =>
      cases hawaits
      exact .inr (.inl ⟨_, rfl⟩)
  | localRequest | localTasks =>
      cases hawaits
      trivial
  | recordLock =>
      obtain ⟨rfl, -⟩ := hawaits
      exact .inr (.inr ⟨_, rfl⟩)
  | background | keep =>
      cases hawaits
      trivial
  | supply =>
      obtain rfl | ⟨rfl, -⟩ | ⟨client, rfl, -⟩ := hawaits
      · exact ⟨_, _, _, rfl⟩
      · trivial
      · trivial
  | opening =>
      obtain rfl | rfl := hawaits
      · exact .inl ⟨_, _, _, rfl⟩
      · trivial
  | operation =>
      obtain rfl | rfl := hawaits
      · exact .inr ⟨_, _, rfl⟩
      · trivial
  | nested => obtain rfl | ⟨client, rfl | rfl⟩ := hawaits <;> trivial
  | closeJoin =>
      obtain ⟨joined, t, rfl, -⟩ := hawaits
      exact ⟨_, rfl⟩
  | creation | supplied | completion => obtain rfl | ⟨ending, rfl⟩ := hawaits <;> trivial
  | channel => obtain ⟨ending, -, rfl | rfl⟩ := hawaits <;> trivial
  | script | behaviour =>
      obtain ⟨deadline, rfl⟩ := hawaits
      trivial
  | teardown t pause =>
      cases pause with
      | strategy => obtain ⟨-, rfl | ⟨ending, rfl⟩⟩ := hawaits <;> trivial
      | drain =>
          obtain rfl | ⟨handler, deadline, rfl⟩ := hawaits
          · exact ⟨_, _, rfl⟩
          · trivial
      | endpoint =>
          obtain ⟨endpoint, cell, -, -, rfl | ⟨rfl, -⟩⟩ := hawaits
          · exact ⟨_, rfl⟩
          · trivial
  | endpointClosed =>
      obtain ⟨cell, plan, -, -, hjob⟩ := hawaits
      split at hjob
      · obtain rfl | rfl := hjob <;> trivial
      · cases hjob
        trivial
  | owned => obtain rfl | ⟨deadline, rfl⟩ := hawaits <;> trivial

/-- A call of a kind that no frame waits for is the outermost one. -/
theorem Stack.eq_nil (hstack : w.Stack task job frames) (h : ∀ frame, ¬ job.Waiter frame) :
    frames = [] := by
  cases frames with
  | nil => rfl
  | cons frame frames => exact absurd hstack.1.waiter (h frame)

/-- Around a call that holds a lock no other lock is held. -/
theorem Stack.unheld (hstack : w.Stack task frame.job frames) (hhold : frame.hold? ≠ none) :
    ∀ outer ∈ frames, outer.hold? = none := by
  cases frame with
  | creation | channel => exact hstack.hold?_eq_none rfl
  | teardown t pause =>
      rw [hstack.eq_nil fun _ hwaiter => hwaiter]
      simp
  | _ => exact absurd rfl hhold

/-- A stack holds at most one lock. -/
theorem Stack.pairwise (hstack : w.Stack task job frames) :
    frames.Pairwise fun inner outer => inner.hold? = none ∨ outer.hold? = none := by
  induction frames generalizing job with
  | nil => exact .nil
  | cons frame frames ih =>
      refine .cons (fun outer houter => ?_) (ih hstack.2)
      by_cases hhold : frame.hold? = none
      · exact .inl hhold
      · exact .inr (hstack.2.unheld hhold outer houter)

/-- A task that was handed a teardown runs it, and nothing around it. -/
theorem Stack.duty (hstack : w.Stack task job frames) {client : ClientId} {t : Teardown}
    (hhanded : (client, .teardown task t) ∈ w.contacts) :
    frames = [] ∧ job = .teardown t ∨ ∃ inner pause, frames = inner ++ [.teardown t pause] := by
  induction frames generalizing job with
  | nil => exact .inl ⟨rfl, hstack.2 _ _ hhanded⟩
  | cons frame frames ih =>
      refine .inr ?_
      rcases ih hstack.2 with ⟨rfl, hjob⟩ | ⟨inner, pause, rfl⟩
      · cases frame <;> simp only [Frame.job, reduceCtorEq] at hjob
        next t' pause =>
          cases hjob
          exact ⟨[], pause, rfl⟩
      · exact ⟨frame :: inner, pause, rfl⟩

end Shape

end World

end Remoting
