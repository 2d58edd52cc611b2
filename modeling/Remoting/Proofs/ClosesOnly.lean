import Remoting.Proofs.Passing
import Remoting.Proofs.Handling

/-!
# Steps that report nothing

A step of a task either ends the task or goes on inside the frames that it leaves alone. In the
second case, `ClosesOnly`, it reports no client and drops no handle, and what the task does next
closes no client that it could not have closed before. Only the step behind the wait for the tasks
of an endpoint closes that endpoint for good.
-/

namespace Remoting

/-- Whether what a task does next closes no client. -/
def Control.isPlain : Control → Bool
  | .call (.close ..) | .call (.execute ..) | .call (.operate ..) | .call (.spawn _) => false
  | _ => true

/-- Whether an enclosing call closes no client. -/
def Frame.isPlain : Frame → Bool
  | .background _ | .closeLock .. | .supply .. | .opening .. | .script .. | .nested .. => false
  | _ => true

/-- Whether a call is run in a task of its own that may close a client. -/
def Call.spawns (client : ClientId) : Call → Bool
  | .spawn call => call.mayClose client
  | _ => false

/-- Whether what a task does next starts a task that may close a client. -/
def Control.spawns (client : ClientId) : Control → Bool
  | .call made => made.spawns client
  | _ => false

theorem Control.mayClose_of_isPlain {control : Control} (h : control.isPlain = true)
    (client : ClientId) : control.mayClose client = false := by
  cases control with
  | call made =>
      cases made with
      | close | execute | operate | spawn => cases h
      | _ => rfl
  | _ => rfl

theorem Frame.mayClose_of_isPlain {frame : Frame} (h : frame.isPlain = true) (client : ClientId) :
    frame.mayClose client = false := by
  cases frame with
  | closeLock | supply | opening | script | nested => cases h
  | _ => rfl

theorem Ending.isPlain_control (ending : Ending) (value : Value) :
    (ending.control value).isPlain = true := by
  cases ending <;> rfl

/-- What a task does next and on which new frames: a close is made inside another call, and the
clients that may be closed are among the given ones. -/
structure Fits (may : ClientId → Bool) (control : Control) (inner : List Frame) : Prop where
  background : ∀ client, Frame.background client ∉ inner
  close : ∀ client interrupt, control = .call (.close client interrupt) → inner ≠ []
  spawn : ∀ made, control ≠ .call (.spawn made)
  closes : ∀ client, (control.mayClose client || inner.any (Frame.mayClose client)) = true →
    may client = true

theorem fits_plain {may : ClientId → Bool} {control : Control} (h : control.isPlain = true) :
    Fits may control [] where
  background _ := List.not_mem_nil
  close client interrupt heq := by
    rw [heq] at h
    cases h
  spawn made heq := by
    rw [heq] at h
    cases h
  closes client hmay := by
    rw [Control.mayClose_of_isPlain h] at hmay
    cases hmay

theorem fits_push {may : ClientId → Bool} {control : Control} {frame : Frame}
    (hframe : ∀ client, frame ≠ .background client) (hspawn : ∀ made, control ≠ .call (.spawn made))
    (hmay : ∀ client, (control.mayClose client || frame.mayClose client) = true →
      may client = true) : Fits may control [frame] where
  background client hmem := hframe client (List.mem_singleton.1 hmem).symm
  close _ _ _ := List.cons_ne_nil _ _
  spawn := hspawn
  closes client h := hmay client (by simpa using h)

namespace World

variable {new may : ClientId → Bool} {shut : EndpointId → Prop} {w v u : World} {task : TaskId}
  {frames : List Frame}

/-- A step of a task leads inside the given frames and reports nothing. A new task closes only some
of the clients, and so does what the task itself does next. -/
def ClosesOnly (new may : ClientId → Bool) (shut : EndpointId → Prop) (task : TaskId)
    (frames : List Frame) (w u : World) : Prop :=
  ∃ v control inner, u = v.goto task control (inner ++ frames) ∧ Passes new shut w v ∧
    Fits may control inner

/-- A part of a step, and then what the task does next. -/
theorem Passes.closesOnly (h : Passes new shut w v) (task : TaskId) {control : Control}
    (hplain : control.isPlain = true) (frames : List Frame) :
    ClosesOnly new may shut task frames w (v.goto task control frames) :=
  ⟨v, control, [], rfl, h, fits_plain hplain⟩

/-- A part of a step, and then an inner call. -/
theorem Passes.push (h : Passes new shut w v) (task : TaskId) {control : Control} {frame : Frame}
    (hframe : ∀ client, frame ≠ .background client) (hspawn : ∀ made, control ≠ .call (.spawn made))
    (hmay : ∀ client, (control.mayClose client || frame.mayClose client) = true →
      may client = true) (frames : List Frame) :
    ClosesOnly new may shut task frames w (v.goto task control (frame :: frames)) :=
  ⟨v, control, [frame], rfl, h, fits_push hframe hspawn hmay⟩

/-- A part of a step, and then an inner call that closes no client. -/
theorem Passes.enter (h : Passes new shut w v) (task : TaskId) {control : Control}
    (hplain : control.isPlain = true) {frame : Frame} (hframe : frame.isPlain = true)
    (frames : List Frame) :
    ClosesOnly new may shut task frames w (v.goto task control (frame :: frames)) := by
  refine h.push task (fun client heq => ?_) (fun made heq => ?_) (fun client hmay => ?_) frames
  · rw [heq] at hframe
    cases hframe
  · rw [heq] at hplain
    cases hplain
  · rw [Control.mayClose_of_isPlain hplain, Frame.mayClose_of_isPlain hframe] at hmay
    cases hmay

/-! ## Collaborators and endpoints -/

theorem closesOnly_behave (w : World) (task : TaskId) (behaviour : Behaviour)
    (frames : List Frame) :
    ClosesOnly new may shut task frames w (w.behave task behaviour frames) := by
  unfold World.behave
  split
  · exact (Passes.refl w).enter task rfl rfl frames
  · split
    · exact (Passes.refl w).closesOnly task rfl frames
    · exact (Passes.refl w).closesOnly task (Ending.isPlain_control _ _) frames

theorem closesOnly_awaitClosed (w : World) (task : TaskId) (endpoint : EndpointId)
    (frames : List Frame) :
    ClosesOnly new may shut task frames w (w.awaitClosed task endpoint frames) := by
  unfold World.awaitClosed
  split
  · exact (Passes.refl w).enter task rfl rfl frames
  · dsimp only
    split
    · exact (passes_emit w rfl).enter task rfl rfl frames
    · exact (passes_emit w rfl).enter task rfl rfl frames

theorem closesOnly_runOwned (w : World) (task : TaskId) (endpoint : EndpointId)
    (script : List OwnedStep) (frames : List Frame) :
    ClosesOnly new may shut task frames w (w.runOwned task endpoint script frames) := by
  unfold World.runOwned
  split
  · exact (Passes.refl w).closesOnly task rfl frames
  · exact (Passes.refl w).enter task rfl rfl frames
  · exact (Passes.refl w).enter task rfl rfl frames
  · exact (passes_emit w rfl).closesOnly task rfl frames
  · exact (passes_emit w rfl).closesOnly task rfl frames
  · exact (Passes.refl w).closesOnly task rfl frames
  · exact (Passes.refl w).closesOnly task rfl frames

/-! ## Getting a channel -/

theorem Passes.endChannel (h : Passes new shut w v) (task : TaskId) (client : ClientId)
    (reply : Reply) (frames : List Frame) :
    ClosesOnly new may shut task frames w (v.endChannel task client reply frames) :=
  (h.trans (passes_leaveLock v task client)).closesOnly task rfl frames

theorem Passes.panicChannel (h : Passes new shut w v) (task : TaskId) (client : ClientId)
    (content : Panic) (frames : List Frame) :
    ClosesOnly new may shut task frames w (v.panicChannel task client content frames) :=
  (h.trans (passes_leaveLock v task client)).closesOnly task rfl frames

theorem closesOnly_createEndpoint (w : World) (task : TaskId) (client : ClientId) (c : Client)
    (name : String) (frames : List Frame) :
    ClosesOnly new may shut task frames w (w.createEndpoint task client c name frames) := by
  have hcall : Passes new shut w (w.contact client .createEndpoint) := passes_contact w client _
  unfold World.createEndpoint
  dsimp only
  split
  · exact ((hcall.trans (passes_addEndpoint _ _ _ _)).trans
      (passes_keepEndpoint _ client _)).closesOnly task rfl frames
  · have hcount : Passes new shut w
        ((w.contact client .createEndpoint).modifyClient client fun c =>
          { c with endpointCalls := c.endpointCalls + 1 }) :=
      hcall.trans (passes_modifyClient _ client fun _ => rfl)
    have hcreate : Event.report? (.createEndpoint name) = none := rfl
    have hemit := hcount.trans (passes_emit _ hcreate)
    split
    · exact hemit.endChannel task client _ frames
    · exact hemit.panicChannel task client _ frames
    · exact (((hemit.trans (passes_addEndpoint _ _ _ _)).trans (passes_startOwned _ _ _)).trans
        (passes_keepEndpoint _ client _)).closesOnly task rfl frames

theorem closesOnly_lockedChannel (w : World) (task : TaskId) (client : ClientId)
    (frames : List Frame) :
    ClosesOnly new may shut task frames w (w.lockedChannel task client frames) := by
  unfold World.lockedChannel
  split
  · split
    · exact (Passes.refl w).endChannel task client _ frames
    · exact (Passes.refl w).closesOnly task rfl frames
    · exact (Passes.refl w).closesOnly task rfl frames
    · exact closesOnly_createEndpoint w task client _ _ frames
  · exact (Passes.refl w).endChannel task client _ frames

theorem closesOnly_connect (w : World) (task : TaskId) (client : ClientId) (endpoint : EndpointId)
    (frames : List Frame) :
    ClosesOnly new may shut task frames w (w.connect task client endpoint frames) := by
  unfold World.connect
  split
  · split
    · exact (Passes.refl w).endChannel task client _ frames
    · have hcount : Passes new shut w
          ((w.contact client (.createStrategy endpoint)).modifyClient client fun c =>
            { c with strategyCalls := c.strategyCalls + 1 }) :=
        (passes_contact w client _).trans (passes_modifyClient _ client fun _ => rfl)
      dsimp only
      split
      · exact hcount.panicChannel task client _ frames
      · exact (hcount.trans (passes_emit _ rfl)).enter task rfl rfl frames
  · exact (Passes.refl w).endChannel task client _ frames

theorem closesOnly_created (w : World) (task : TaskId) (client : ClientId) (endpoint : EndpointId)
    (plan : StrategyPlan) (reply : Reply) (frames : List Frame) :
    ClosesOnly new may shut task frames w (w.created task client endpoint plan reply frames) := by
  have hcall : Passes new shut w _ := passes_callAssociation w client plan.onCreate
  unfold World.created
  split
  · exact (Passes.refl w).endChannel task client _ frames
  · split
    next hresult =>
      rw [hresult] at hcall
      exact hcall.panicChannel task client _ frames
    next hresult =>
      rw [hresult] at hcall
      split
      · exact hcall.endChannel task client _ frames
      · exact (hcall.trans (passes_keepStrategy _ client endpoint plan)).closesOnly task rfl frames

theorem closesOnly_openChannel (w : World) (task : TaskId) (client : ClientId)
    (strategy : StrategyId) (frames : List Frame) :
    ClosesOnly new may shut task frames w (w.openChannel task client strategy frames) := by
  unfold World.openChannel
  split
  · exact (Passes.refl w).endChannel task client _ frames
  · exact (((passes_contact w client _).trans (passes_modifyStrategy _ strategy _)).trans
      (passes_emit _ rfl)).enter task rfl rfl frames

theorem closesOnly_opened (w : World) (task : TaskId) (client : ClientId) (strategy : StrategyId)
    (channel : ChannelId) (reply : Reply) (frames : List Frame) :
    ClosesOnly new may shut task frames w (w.opened task client strategy channel reply frames) := by
  unfold World.opened
  split
  · exact (Passes.refl w).endChannel task client _ frames
  · exact (passes_modifyStrategy w strategy _).endChannel task client _ frames

/-! ## Running operations -/

theorem closesOnly_supply (w : World) (task : TaskId) (handler : HandlerId) (frames : List Frame) :
    ClosesOnly new may shut task frames w (w.supply task handler frames) := by
  unfold World.supply
  split
  · exact (passes_modifyHandler w handler _).enter task rfl rfl frames
  · exact (Passes.refl w).closesOnly task rfl frames
  · exact (Passes.refl w).closesOnly task rfl frames

theorem closesOnly_clientSupply (w : World) (task : TaskId) (client : ClientId)
    (frames : List Frame) :
    ClosesOnly new may shut task frames w (w.clientSupply task client frames) := by
  unfold World.clientSupply
  split
  · exact (Passes.refl w).enter task rfl rfl frames
  · exact (Passes.refl w).closesOnly task rfl frames

/-- An operation may close the client that it can use. -/
@[simp] def user (user : Option ClientId) (client : ClientId) : Bool :=
  user = some client

theorem closesOnly_execute (w : World) (task : TaskId) (handler : HandlerId) (routine : Routine)
    (client : Option ClientId) (frames : List Frame) :
    ClosesOnly new (user client) shut task frames w
      (w.execute task handler routine client frames) := by
  have hregister : Passes new shut w _ := passes_registerOperation w handler
  unfold World.execute
  split
  next hresult =>
    rw [hresult] at hregister
    exact hregister.closesOnly task rfl frames
  next hresult =>
    rw [hresult] at hregister
    exact hregister.push task (fun _ heq => by cases heq) (fun _ heq => by cases heq)
      (by simp) frames

theorem closesOnly_endExecute (w : World) (task : TaskId) (handler : HandlerId)
    (operation : OperationId) (reply : Reply) (frames : List Frame) :
    ClosesOnly new may shut task frames w (w.endExecute task handler operation reply frames) :=
  (passes_endOperation w handler operation).closesOnly task rfl frames

theorem closesOnly_startOperation (w : World) (task : TaskId) (handler : HandlerId)
    (operation : OperationId) (routine : Routine) (client : Option ClientId) (reply : Reply)
    (frames : List Frame) :
    ClosesOnly new (user client) shut task frames w
      (w.startOperation task handler operation routine client reply frames) := by
  unfold World.startOperation
  split
  next channel =>
    have hbind : Passes new shut w (w.bindOperation handler operation channel) :=
      passes_modifyHandler w handler _
    exact hbind.push task (fun _ heq => by cases heq) (fun _ heq => by cases heq) (by simp) frames
  next => exact closesOnly_endExecute w task handler operation _ frames

theorem closesOnly_startBody (w : World) (task : TaskId) (operation : OperationId) (body : Script)
    (site : Site) (frames : List Frame) :
    ClosesOnly new (user site.client) shut task frames w
      (w.startBody task operation body site frames) := by
  unfold World.startBody
  split
  · exact closesOnly_endExecute w task site.handler operation _ frames
  · exact (Passes.refl w).push task (fun _ heq => by cases heq) (fun _ heq => by cases heq)
      (by simp) frames

/-- A step of an operation, and then the rest of its script. -/
theorem Passes.operate {site : Site} (h : Passes new shut w v) (task : TaskId)
    (rest : Script) (frames : List Frame) :
    ClosesOnly new (user site.client) shut task frames w
      (v.enter task (.operate rest site) frames) :=
  ⟨v, _, [], rfl, h, fun _ => List.not_mem_nil, fun _ _ heq => (by cases heq),
    fun _ heq => (by cases heq), by simp⟩

theorem closesOnly_operate (w : World) (task : TaskId) (script : Script) (site : Site)
    (frames : List Frame) :
    ClosesOnly new (user site.client) shut task frames w (w.operate task script site frames) := by
  cases script with
  | nil => exact (Passes.refl w).closesOnly task rfl frames
  | cons step rest =>
      cases step with
      | sleep ms =>
        exact (Passes.refl w).push task (fun _ heq => by cases heq) (fun _ heq => by cases heq)
          (by simp) frames
      | mark value => exact (passes_emit w rfl).operate task rest frames
      | active => exact (passes_emit w rfl).operate task rest frames
      | closeChannel => exact (passes_closeChannel w _).closesOnly task rfl frames
      | shutdown => exact (passes_modifyHandler w site.handler _).operate task rest frames
      | shutdownNow => exact (passes_shutdownHandlerNow w site.handler).operate task rest frames
      | channelClosed =>
          exact (passes_handlerChannelClosed w site.handler _ none).operate task rest frames
      | execute inner =>
          exact (Passes.refl w).push task (fun _ heq => by cases heq) (fun _ heq => by cases heq)
            (by simp) frames
      | getChannel | closeClient =>
          simp only [World.operate]
          split
          next client hclient =>
            exact (Passes.refl w).push task (fun _ heq => by cases heq) (fun _ heq => by cases heq)
              (by simp [hclient]) frames
          next => exact (Passes.refl w).operate task rest frames
      | _ => exact (Passes.refl w).closesOnly task rfl frames

/-! ## Closing -/

theorem closesOnly_lockedClose (w : World) (task : TaskId) (client : ClientId)
    (interrupt : Option TokenName) (frames : List Frame) :
    ClosesOnly new may shut task frames w (w.lockedClose task client interrupt frames) := by
  unfold World.lockedClose
  split
  next endpoint strategy _ =>
    have hover : Passes new shut w _ := passes_handOver w client
      ⟨client, endpoint, strategy, interrupt⟩
    dsimp only
    split
    · exact (hover.trans (passes_giveLock _ client _)).enter task rfl rfl frames
    · exact (hover.trans (passes_leaveLock _ task client)).enter task rfl rfl frames
  next => exact (passes_leaveLock w task client).closesOnly task rfl frames
  next => exact (passes_leaveLock w task client).closesOnly task rfl frames

theorem closesOnly_closeLost (w : World) (task : TaskId) (client : ClientId) (frames : List Frame) :
    ClosesOnly new may shut task frames w (w.closeLost task client frames) :=
  ((passes_swallow w client .join lostTeardown).trans (passes_requestLock _ task client)).enter
    task rfl rfl frames

theorem closesOnly_endBackground (w : World) (task : TaskId) (client : ClientId) (reply : Reply)
    (frames : List Frame) :
    ClosesOnly new may shut task frames w (w.endBackground task client reply frames) := by
  unfold World.endBackground
  dsimp only
  split
  · exact (Passes.refl w).closesOnly task rfl frames
  · exact (passes_warn w rfl).closesOnly task rfl frames

theorem closesOnly_runStage (w : World) (task : TaskId) (t : Teardown) (stage : Teardown.Stage)
    (frames : List Frame) :
    ClosesOnly new may shut task frames w (w.runStage task t stage frames) := by
  cases stage with
  | shutdown =>
      have hcall : Passes new shut w
          ((w.contact t.client .shutdown).shutdownAssociation t.client).1 :=
        (passes_contact w t.client .shutdown).trans (passes_shutdownAssociation _ t.client)
      exact (hcall.trans (passes_swallowPanic _ t.client .shutdown _)).closesOnly task rfl frames
  | shutdownNow =>
      have hcall : Passes new shut w
          ((w.contact t.client .shutdownNow).shutdownAssociationNow t.client).1 :=
        (passes_contact w t.client .shutdownNow).trans (passes_shutdownAssociationNow _ t.client)
      exact (hcall.trans (passes_swallowPanic _ t.client .shutdownNow _)).closesOnly task rfl frames
  | closeStrategy =>
      simp only [World.runStage]
      split
      · exact (Passes.refl w).closesOnly task rfl frames
      · exact ((passes_contact w t.client _).trans (passes_emit _ rfl)).enter task rfl rfl frames
  | closeEndpoint =>
      simp only [World.runStage]
      split
      · exact (Passes.refl w).closesOnly task rfl frames
      · exact (passes_closeEndpoint w t.client _).closesOnly task rfl frames
  | drain =>
      simp only [World.runStage]
      split
      · exact (passes_contact w t.client _).closesOnly task rfl frames
      · exact (passes_contact w t.client _).enter task rfl rfl frames
  | release => exact (passes_releaseForTeardown w t.client).closesOnly task rfl frames
  | awaitEndpoint =>
      simp only [World.runStage]
      split
      · exact (Passes.refl w).closesOnly task rfl frames
      · split
        · exact (passes_contact w t.client _).closesOnly task rfl frames
        · exact (passes_contact w t.client _).enter task rfl rfl frames
  | finish outcome =>
      exact ((passes_recordOutcome w t.client _).trans
        (passes_leaveLock _ task t.client)).closesOnly task rfl frames

theorem closesOnly_awaitCompletion (w : World) (task : TaskId) (client : ClientId)
    (frames : List Frame) :
    ClosesOnly new may shut task frames w (w.awaitCompletion task client frames) := by
  unfold World.awaitCompletion
  dsimp only
  split
  · exact (Passes.refl w).closesOnly task rfl frames
  · exact (passes_emit w rfl).enter task rfl rfl frames
  · exact (Passes.refl w).closesOnly task rfl frames

theorem passes_pauseEnded (w : World) (t : Teardown) (pause : Teardown.Pause) (reply : Reply) :
    Passes new shut w (w.pauseEnded t pause reply).2 := by
  unfold pauseEnded
  split
  · exact passes_strategyClosed w _
  · exact passes_swallow w _ _ _
  · exact passes_swallow w _ _ _
  · exact .refl w
  · exact .refl w

theorem passes_pausePanicked (w : World) (t : Teardown) (pause : Teardown.Pause)
    (content : Panic) : Passes new shut w (w.pausePanicked t pause content).2 := by
  cases pause with
  | strategy => exact passes_swallowPanic w t.client .closeStrategy (some content)
  | drain => exact passes_swallowPanic w t.client .awaitCompletion (some content)
  | endpoint => exact .refl w

/-! ## All steps -/

theorem closesOnly_makeCall (w : World) (task : TaskId) (call : Call) (frames : List Frame) :
    ClosesOnly (call.spawns ·) (call.mayClose ·) shut task frames w
      (w.makeCall task call frames) := by
  cases call with
  | getChannel client => exact (passes_requestLock w task client).enter task rfl rfl frames
  | connect client endpoint => exact closesOnly_connect w task client endpoint frames
  | openChannel client strategy => exact closesOnly_openChannel w task client strategy frames
  | supply handler => exact closesOnly_supply w task handler frames
  | clientSupply client => exact closesOnly_clientSupply w task client frames
  | execute handler routine client => exact closesOnly_execute w task handler routine client frames
  | operate script site => exact closesOnly_operate w task script site frames
  | close client interrupt =>
      exact (passes_requestLock w task client).push task (fun _ heq => by cases heq)
        (fun _ heq => by cases heq) (by simp) frames
  | teardown t stage => exact closesOnly_runStage w task t stage frames
  | behave behaviour => exact closesOnly_behave w task behaviour frames
  | awaitCompletion client => exact closesOnly_awaitCompletion w task client frames
  | awaitClosed endpoint => exact closesOnly_awaitClosed w task endpoint frames
  | awaitLocal => exact (Passes.refl w).enter task rfl rfl frames
  | own endpoint script => exact closesOnly_runOwned w task endpoint script frames
  | spawn call => exact (passes_spawn w (fun _ h => h) none).closesOnly task rfl frames
  | await | awaitDrained => exact (Passes.refl w).closesOnly task rfl frames

theorem closesOnly_resume (w : World) (task : TaskId) (frame : Frame) (reply : Reply)
    (frames : List Frame) (hover : ∀ endpoint, frame = .localTasks endpoint → shut endpoint) :
    ClosesOnly new (frame.mayClose ·) shut task frames w (w.resume task frame reply frames) := by
  cases frame with
  | getLock client => exact closesOnly_lockedChannel w task client frames
  | creation client endpoint plan =>
      exact closesOnly_created w task client endpoint plan reply frames
  | channel client strategy channel =>
      exact closesOnly_opened w task client strategy channel reply frames
  | closeLock client interrupt => exact closesOnly_lockedClose w task client interrupt frames
  | recordLock client error =>
      exact ((passes_recordOutcome w client _).trans
        (passes_leaveLock _ task client)).closesOnly task rfl frames
  | background client => exact closesOnly_endBackground w task client reply frames
  | supply handler operation routine client =>
      exact closesOnly_startOperation w task handler operation routine client reply frames
  | opening operation body site => exact closesOnly_startBody w task operation body site frames
  | operation handler operation => exact closesOnly_endExecute w task handler operation reply frames
  | script rest site => exact (Passes.refl w).operate task rest frames
  | nested rest site => exact (passes_emit w rfl).operate task rest frames
  | teardown t pause => exact (passes_pauseEnded w t pause reply).closesOnly task rfl frames
  | completion => exact (passes_emit w rfl).closesOnly task rfl frames
  | endpointClosed => exact (passes_emit w rfl).closesOnly task rfl frames
  | localRequest endpoint => exact (Passes.refl w).enter task rfl rfl frames
  | localTasks endpoint =>
      exact (passes_finishLocal w (hover endpoint rfl)).closesOnly task rfl frames
  | _ => exact (Passes.refl w).closesOnly task rfl frames

theorem closesOnly_unwind (w : World) (task : TaskId) (frame : Frame) (content : Panic)
    (frames : List Frame) :
    ClosesOnly new may shut task frames w (w.unwind task frame content frames) := by
  cases frame with
  | teardown t pause => exact (passes_pausePanicked w t pause content).closesOnly task rfl frames
  | _ => exact (passes_dropFrame w task _).closesOnly task rfl frames

/-- The clients that the next step of a task may lead to close. -/
def stepMay : Control → List Frame → ClientId → Bool
  | .call made, _ => (made.mayClose ·)
  | .reply _, frame :: _ => (frame.mayClose ·)
  | _, _ => fun _ => false

/-- What a task does once a wait is over. -/
theorem isPlain_of_ready? {wait : Wait} {control : Control}
    (h : w.ready? task wait = some control) : control.isPlain = true := by
  cases wait with
  | forever => cases h
  | sleep | lock | closeRequested | tasksGone | finishOrder =>
      simp only [ready?] at h
      split at h
      · cases h
        rfl
      · cases h
  | drained | join =>
      obtain ⟨found, -, rfl⟩ := Option.map_eq_some_iff.1 h
      first | rfl | (cases found <;> rfl)
  | state =>
      obtain ⟨state, -, h⟩ := Option.bind_eq_some_iff.1 h
      split at h
      · cases h
        rfl
      · cases h

/-- A step of a task ends the task or goes on inside the frames that it leaves alone. -/
theorem closesOnly_step {t : Task} (ht : w.task? task = some t) (hstep : w.step? task = some u)
    (hover : ∀ reply endpoint outer, t.control = .reply reply →
      t.frames = .localTasks endpoint :: outer → shut endpoint) :
    (t.frames = [] ∧ ∃ finish, u = w.finishTask task finish) ∨
      ClosesOnly (t.control.spawns ·) (stepMay t.control t.frames) shut task
        (stepFrames t.control t.frames) w u := by
  unfold step? at hstep
  rw [ht] at hstep
  dsimp only at hstep
  split at hstep
  next call hcontrol =>
    cases hstep
    rw [hcontrol]
    exact .inr (closesOnly_makeCall w task call t.frames)
  next reply frame frames hcontrol hframes =>
    cases hstep
    rw [hcontrol, hframes] at hover ⊢
    refine .inr (closesOnly_resume w task frame reply frames fun endpoint hframe => ?_)
    exact hover reply endpoint frames rfl (by rw [hframe])
  next reply hcontrol hframes =>
    cases hstep
    exact .inl ⟨hframes, _, rfl⟩
  next content frame frames hcontrol hframes =>
    cases hstep
    rw [hcontrol, hframes]
    exact .inr (closesOnly_unwind w task frame content frames)
  next content hcontrol hframes =>
    cases hstep
    exact .inl ⟨hframes, _, rfl⟩
  next client frames hcontrol hframes =>
    cases hstep
    rw [hcontrol, hframes]
    exact .inr (closesOnly_closeLost w task client frames)
  next frame frames _ hcontrol hframes =>
    cases hstep
    rw [hcontrol, hframes]
    exact .inr ((passes_dropFrame w task frame).closesOnly task rfl frames)
  next hcontrol hframes =>
    cases hstep
    exact .inl ⟨hframes, _, rfl⟩
  next wait hcontrol =>
    obtain ⟨control, hready, rfl⟩ := Option.map_eq_some_iff.1 hstep
    rw [hcontrol]
    exact .inr ((Passes.refl w).closesOnly task (isPlain_of_ready? hready) t.frames)

end World

end Remoting
