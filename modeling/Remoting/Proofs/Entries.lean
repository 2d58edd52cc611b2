import Remoting.Proofs.Polling

/-!
# Who makes an entry of the journal

An entry of the journal of calls is made by a step of a task, and what the task is about to do says
which entry it makes: a call for a channel that has the lock connects its client, a close that gets
the lock of an open client hands over its teardown, and a stage of a teardown makes the call that is
due, or notes that an interrupt makes it leave the call out. Only the release of a configuration may
also be made up for when a task is stopped.
-/

namespace Remoting

/-- The entry that a stage of a teardown makes, if it makes one. -/
def Teardown.call? (t : Teardown) (interrupted : Bool) : Teardown.Stage → Option Contact
  | .shutdown => some .shutdown
  | .closeStrategy => t.strategy.map .closeStrategy
  | .closeEndpoint => t.endpoint.map .closeEndpoint
  | .shutdownNow => some .shutdownNow
  | .drain => some (if interrupted then .completionSkipped else .awaitCompletion)
  | .release => some .release
  | .awaitEndpoint => t.endpoint.map (if interrupted then .endpointSkipped else .awaitEndpoint)
  | .finish _ => none

theorem Teardown.isClosing_of_call? {t : Teardown} {interrupted : Bool} {stage : Teardown.Stage}
    {call : Contact} (h : t.call? interrupted stage = some call) : call.isClosing = true := by
  cases stage with
  | closeStrategy | closeEndpoint =>
      obtain ⟨part, -, rfl⟩ := Option.map_eq_some_iff.1 h
      rfl
  | awaitEndpoint =>
      obtain ⟨endpoint, -, rfl⟩ := Option.map_eq_some_iff.1 h
      cases interrupted <;> rfl
  | drain =>
      cases h
      cases interrupted <;> rfl
  | shutdown | shutdownNow | release =>
      cases h
      rfl
  | finish => cases h

/-- A task goes on with a call for a channel of a client that has the lock. -/
inductive Task.Connects (t : Task) (client : ClientId) : Prop
  | lock {reply : Reply} {frames : List Frame} (control : t.control = .reply reply)
      (frames : t.frames = .getLock client :: frames) : Connects t client
  | connect {endpoint : EndpointId} (control : t.control = .call (.connect client endpoint)) :
      Connects t client
  | creation {endpoint : EndpointId} {plan : StrategyPlan} {reply : Reply} {frames : List Frame}
      (control : t.control = .reply reply)
      (frames : t.frames = .creation client endpoint plan :: frames) : Connects t client
  | openChannel {strategy : StrategyId}
      (control : t.control = .call (.openChannel client strategy)) :
      Connects t client

namespace World

variable {w v u : World} {task : TaskId} {client : ClientId} {frames : List Frame}
  {kind : ClientId → Contact → Prop}

/-- A close has got the lock of an open client and is about to hand over the teardown. -/
def Takes (w : World) (t : Task) (td : Teardown) : Prop :=
  w.state? td.client = some (.opened td.endpoint td.strategy) ∧
    (∃ reply, t.control = .reply reply) ∧
    ∃ frames, t.frames = .closeLock td.client td.interrupt :: frames

/-- A task is at a stage of the teardown of a client that makes an entry. -/
def Calls (w : World) (t : Task) (client : ClientId) (call : Contact) : Prop :=
  ∃ td stage, td.client = client ∧ t.control = .call (.teardown td stage) ∧
    td.call? (w.interrupted td) stage = some call

/-- What a task is about to do when it makes an entry. -/
def Makes (w : World) (t : Task) (client : ClientId) (call : Contact) : Prop :=
  call.isConnecting = true ∧ t.Connects client ∨ call = .release ∨ w.Calls t client call ∨
    ∃ joined td, td.client = client ∧ call = .teardown joined td ∧ w.Takes t td

/-- The second world has the entries of the first and then such of some kind. -/
def Adds (kind : ClientId → Contact → Prop) (w u : World) : Prop :=
  ∃ entries, u.contacts = w.contacts ++ entries ∧ ∀ entry ∈ entries, kind entry.1 entry.2

theorem Adds.of_eq (h : u.contacts = w.contacts) : Adds kind w u :=
  ⟨[], h.trans (List.append_nil _).symm, List.forall_mem_nil _⟩

theorem Adds.trans (h : Adds kind w v) (h' : Adds kind v u) : Adds kind w u := by
  obtain ⟨entries, heq, hkind⟩ := h
  obtain ⟨entries', heq', hkind'⟩ := h'
  refine ⟨entries ++ entries', by rw [heq', heq, List.append_assoc], fun entry hentry => ?_⟩
  exact (List.mem_append.1 hentry).elim (hkind entry) (hkind' entry)

theorem Adds.mono {kind' : ClientId → Contact → Prop} (h : Adds kind w u)
    (himp : ∀ client call, kind client call → kind' client call) : Adds kind' w u := by
  obtain ⟨entries, heq, hkind⟩ := h
  exact ⟨entries, heq, fun entry hentry => himp _ _ (hkind entry hentry)⟩

/-- An entry of the second world is one of the first, or of the kind. -/
theorem Adds.entry (h : Adds kind w u) {call : Contact} (hentry : (client, call) ∈ u.contacts) :
    (client, call) ∈ w.contacts ∨ kind client call := by
  obtain ⟨entries, heq, hkind⟩ := h
  rw [heq] at hentry
  exact (List.mem_append.1 hentry).imp_right (hkind _)

theorem Quiet.adds (h : Quiet w u) : Adds kind w u :=
  .of_eq h.contacts

theorem Relocks.adds (h : Relocks task w u) : Adds kind w u :=
  .of_eq h.contacts

theorem adds_contact {call : Contact} (h : kind client call) :
    Adds kind w (w.contact client call) :=
  ⟨[(client, call)], rfl, List.forall_mem_singleton.2 h⟩

theorem Adds.foldl {α : Type} {change : World → α → World} (h : ∀ w a, Adds kind w (change w a))
    (w : World) (elements : List α) : Adds kind w (elements.foldl change w) := by
  induction elements generalizing w with
  | nil => exact .of_eq rfl
  | cons a rest ih => exact (h w a).trans (ih (change w a))

/-! ## The life of tasks -/

theorem adds_spawn (w : World) (control : Control) (frames : List Frame)
    (handle : Option ClientId) (owner : Option EndpointId) :
    Adds kind w (w.spawn control frames handle owner).2 := by
  unfold spawn
  split
  · exact .of_eq rfl
  · exact .of_eq rfl

theorem adds_spawnOwned (w : World) (endpoint : EndpointId) (script : List OwnedStep) :
    Adds kind w (w.spawnOwned endpoint script).2 := by
  unfold spawnOwned
  split
  next => exact .of_eq rfl
  next =>
    split
    next => exact .of_eq rfl
    next => exact Adds.trans (.of_eq rfl) (adds_spawn _ _ _ _ _)

theorem adds_dropHandle (w : World) (client : ClientId) :
    Adds kind w (w.dropHandle client).1 := by
  unfold dropHandle
  split
  next => exact .of_eq rfl
  next c _ =>
    split
    next => exact .of_eq rfl
    next =>
      have hreport : Adds kind w (w.reportLeak client c.trace).1 :=
        (quiet_reportLeak w client c.trace).adds
      split
      next hresult => rwa [hresult] at hreport
      next hresult =>
        rw [hresult] at hreport
        refine hreport.trans ?_
        unfold spawnBackgroundClose
        split <;> exact .of_eq rfl

theorem adds_finishTask (w : World) (task : TaskId) (finish : Finish) :
    Adds kind w (w.finishTask task finish) := by
  unfold finishTask
  split
  next => exact .of_eq rfl
  next t _ =>
    have hdrop : Adds kind w ((w.removeTask task).dropHeld finish t.handle).1 := by
      unfold dropHeld
      split
      next => exact .of_eq rfl
      next client _ =>
        have hdropped : Adds kind w ((w.removeTask task).dropHandle client).1 :=
          adds_dropHandle (w.removeTask task) client
        split
        next hresult => rwa [hresult] at hdropped
        next hresult => rwa [hresult] at hdropped
    exact hdrop.trans (quiet_leaveOwner _ task t.owner).adds

/-! ## Dropped calls -/

theorem adds_releaseForTeardown (hkind : kind client .release) (w : World) :
    Adds kind w (w.releaseForTeardown client) := by
  cases hc : w.clients[client]? with
  | none =>
      have heq : w.releaseForTeardown client = w := by
        unfold releaseForTeardown
        rw [hc]
      rw [heq]
      exact .of_eq rfl
  | some c => exact (adds_contact hkind).trans (quiet_releaseForTeardown hc).adds

theorem adds_dropFrame (hkind : ∀ client, kind client .release) (w : World) (task : TaskId)
    (frame : Frame) : Adds kind w (w.dropFrame task frame) := by
  cases frame with
  | creation | channel => exact (relocks_leaveLock w task _).adds
  | teardown t pause =>
      cases pause with
      | strategy | endpoint => exact (relocks_leaveLock w task _).adds
      | drain =>
          exact (adds_releaseForTeardown (hkind _) w).trans (relocks_leaveLock _ task _).adds
  | _ => exact (quiet_dropFrame rfl w task).adds

theorem adds_dropFrames (hkind : ∀ client, kind client .release) (w : World) (task : TaskId)
    (control : Control) (frames : List Frame) :
    Adds kind w ((w.dropControl task control).dropFrames task frames) :=
  (relocks_dropControl w task control).adds.trans
    (.foldl (fun w frame => adds_dropFrame hkind w task frame) _ frames)

theorem adds_leaveCall (hkind : ∀ client, kind client .release) (w : World) (task : TaskId)
    (control : Control) (cut : Cut) : Adds kind w (w.leaveCall task control cut) := by
  have hdrop := adds_dropFrames hkind w task control cut.inner
  unfold leaveCall
  dsimp only
  split
  · exact hdrop
  · exact hdrop.trans (adds_dropFrame hkind _ task _)

theorem adds_cutTask (hkind : ∀ client, kind client .release) (w : World) (task : TaskId) :
    Adds kind w (w.cutTask task) := by
  unfold cutTask
  split
  next => exact .of_eq rfl
  next =>
    split
    · exact adds_leaveCall hkind w task _ _
    · exact .of_eq rfl

theorem adds_expireDrain (hkind : ∀ client, kind client .release) (w : World) (task : TaskId) :
    Adds kind w (w.expireDrain task) := by
  unfold expireDrain
  split
  next => exact .of_eq rfl
  next t _ =>
    split
    next => exact .of_eq rfl
    next cut _ =>
      have hleave := adds_leaveCall hkind w task t.control cut
      dsimp only
      split
      · exact hleave.trans (quiet_drainTimeout _ _).adds
      · exact hleave

theorem adds_abortTask (hkind : ∀ client, kind client .release) (w : World) (task : TaskId) :
    Adds kind w (w.abortTask task) := by
  unfold abortTask
  split
  next => exact .of_eq rfl
  next t _ =>
    refine Adds.trans ?_ (adds_finishTask _ task .aborted)
    unfold dropTask
    split
    · exact (quiet_strand w _).adds
    · exact adds_dropFrames hkind w t.id _ _

/-! ## Calls that make no entry -/

theorem adds_behave (w : World) (task : TaskId) (behaviour : Behaviour) (frames : List Frame) :
    Adds kind w (w.behave task behaviour frames) := by
  unfold World.behave
  split
  · exact .of_eq rfl
  · split <;> exact .of_eq rfl

theorem adds_awaitClosed (w : World) (task : TaskId) (endpoint : EndpointId) (frames : List Frame) :
    Adds kind w (w.awaitClosed task endpoint frames) := by
  unfold World.awaitClosed
  split
  · exact .of_eq rfl
  · dsimp only
    split <;> exact .of_eq rfl

theorem adds_runOwned (w : World) (task : TaskId) (endpoint : EndpointId) (script : List OwnedStep)
    (frames : List Frame) : Adds kind w (w.runOwned task endpoint script frames) := by
  unfold World.runOwned
  split <;> exact .of_eq rfl

theorem adds_awaitCompletion (w : World) (task : TaskId) (client : ClientId) (frames : List Frame) :
    Adds kind w (w.awaitCompletion task client frames) := by
  unfold World.awaitCompletion
  dsimp only
  split <;> exact .of_eq rfl

theorem adds_supply (w : World) (task : TaskId) (handler : HandlerId) (frames : List Frame) :
    Adds kind w (w.supply task handler frames) := by
  unfold World.supply
  split <;> exact .of_eq rfl

theorem adds_clientSupply (w : World) (task : TaskId) (client : ClientId) (frames : List Frame) :
    Adds kind w (w.clientSupply task client frames) := by
  unfold World.clientSupply
  split <;> exact .of_eq rfl

theorem adds_execute (w : World) (task : TaskId) (handler : HandlerId) (routine : Routine)
    (client : Option ClientId) (frames : List Frame) :
    Adds kind w (w.execute task handler routine client frames) := by
  have hregister : Adds kind w (w.registerOperation handler).2 :=
    (quiet_registerOperation w handler).adds
  unfold World.execute
  split
  next hresult => rwa [hresult] at hregister
  next hresult => rwa [hresult] at hregister

theorem adds_startOperation (w : World) (task : TaskId) (handler : HandlerId)
    (operation : OperationId) (routine : Routine) (client : Option ClientId) (reply : Reply)
    (frames : List Frame) :
    Adds kind w (w.startOperation task handler operation routine client reply frames) := by
  unfold World.startOperation
  split
  next channel =>
    have hbind : Adds kind w (w.bindOperation handler operation channel) :=
      (quiet_bindOperation w handler operation channel).adds
    exact hbind
  next => exact (quiet_endOperation w handler operation).adds

theorem adds_startBody (w : World) (task : TaskId) (operation : OperationId) (body : Script)
    (site : Site) (frames : List Frame) :
    Adds kind w (w.startBody task operation body site frames) := by
  unfold World.startBody
  split
  · exact (quiet_endOperation w site.handler operation).adds
  · exact .of_eq rfl

theorem adds_operate (w : World) (task : TaskId) (script : Script) (site : Site)
    (frames : List Frame) : Adds kind w (w.operate task script site frames) := by
  unfold World.operate
  split
  case h_9 => exact (quiet_closeChannel w _).adds
  case h_10 => exact (quiet_shutdownHandler w site.handler).adds
  case h_11 => exact (quiet_shutdownHandlerNow w site.handler).adds
  case h_12 => exact (quiet_handlerChannelClosed w site.handler site.channel none).adds
  case h_15 => split <;> exact .of_eq rfl
  case h_16 => split <;> exact .of_eq rfl
  all_goals exact .of_eq rfl

theorem adds_endBackground (w : World) (task : TaskId) (client : ClientId) (reply : Reply)
    (frames : List Frame) : Adds kind w (w.endBackground task client reply frames) := by
  unfold World.endBackground
  split <;> exact .of_eq rfl

/-- The end of a call for a channel is no entry. -/
theorem Adds.endChannel {reply : Reply} (h : Adds kind w v) :
    Adds kind w (v.endChannel task client reply frames) :=
  h.trans (relocks_leaveLock v task client).adds

theorem Adds.panicChannel {content : Panic} (h : Adds kind w v) :
    Adds kind w (v.panicChannel task client content frames) :=
  h.trans (relocks_leaveLock v task client).adds

/-! ## Calls that connect a client -/

section Connecting

variable (hkind : ∀ {call}, call.isConnecting = true → kind client call)

include hkind

theorem adds_createEndpoint (w : World) (task : TaskId) (c : Client)
    (name : String) (frames : List Frame) :
    Adds kind w (w.createEndpoint task client c name frames) := by
  have hcall : Adds kind w (w.contact client .createEndpoint) := adds_contact (hkind rfl)
  unfold World.createEndpoint
  dsimp only
  split
  · exact (hcall.trans (.of_eq rfl)).trans (adds_contact (hkind rfl))
  · split
    · exact Adds.endChannel (hcall.trans (.of_eq rfl))
    · exact Adds.panicChannel (hcall.trans (.of_eq rfl))
    · refine (Adds.trans ?_ (.foldl (fun w _ => adds_spawnOwned w _ _) _ _)).trans
        (adds_contact (hkind rfl))
      exact hcall.trans (.of_eq rfl)

theorem adds_lockedChannel (w : World) (task : TaskId) (frames : List Frame) :
    Adds kind w (w.lockedChannel task client frames) := by
  unfold World.lockedChannel
  split
  next =>
    split
    · exact Adds.endChannel (.of_eq rfl)
    · exact .of_eq rfl
    · exact .of_eq rfl
    · exact adds_createEndpoint hkind w task _ _ frames
  next => exact Adds.endChannel (.of_eq rfl)

theorem adds_connect (w : World) (task : TaskId) (endpoint : EndpointId)
    (frames : List Frame) : Adds kind w (w.connect task client endpoint frames) := by
  unfold World.connect
  split
  next =>
    split
    next => exact Adds.endChannel (.of_eq rfl)
    next =>
      have hcall : Adds kind w (w.contact client (.createStrategy endpoint)) :=
        adds_contact (hkind rfl)
      dsimp only
      split
      · exact Adds.panicChannel (hcall.trans (.of_eq rfl))
      · exact hcall.trans (.of_eq rfl)
  next => exact Adds.endChannel (.of_eq rfl)

theorem adds_created (w : World) (task : TaskId) (endpoint : EndpointId)
    (plan : StrategyPlan) (reply : Reply) (frames : List Frame) :
    Adds kind w (w.created task client endpoint plan reply frames) := by
  have hcalled : Adds kind w (w.callAssociation client plan.onCreate).1 :=
    (quiet_callAssociation w client plan.onCreate).adds
  unfold World.created
  split
  next => exact Adds.endChannel (.of_eq rfl)
  next =>
    split
    next hresult =>
      rw [hresult] at hcalled
      exact hcalled.panicChannel
    next hresult =>
      rw [hresult] at hcalled
      split
      · exact hcalled.endChannel
      · exact (hcalled.trans (.of_eq rfl)).trans (adds_contact (hkind rfl))

theorem adds_openChannel (w : World) (task : TaskId) (strategy : StrategyId)
    (frames : List Frame) : Adds kind w (w.openChannel task client strategy frames) := by
  unfold World.openChannel
  split
  · exact Adds.endChannel (.of_eq rfl)
  · exact (adds_contact (hkind rfl)).trans (.of_eq rfl)

end Connecting

theorem adds_opened (w : World) (task : TaskId) (client : ClientId) (strategy : StrategyId)
    (channel : ChannelId) (reply : Reply) (frames : List Frame) :
    Adds kind w (w.opened task client strategy channel reply frames) := by
  unfold World.opened
  split
  · exact Adds.endChannel (.of_eq rfl)
  · exact Adds.endChannel (.of_eq rfl)

/-! ## Calls that close a client -/

/-- A stage of a teardown makes no entry but its own. -/
theorem adds_runStage {t : Teardown} {stage : Teardown.Stage}
    (hkind : ∀ {call}, t.call? (w.interrupted t) stage = some call → kind t.client call) :
    Adds kind w (w.runStage task t stage frames) := by
  cases stage with
  | shutdown =>
      have hquiet := quiet_contact_shutdown w t.client .shutdown (·.shutdownAssociation t.client)
        (fun v => quiet_shutdownAssociation v t.client) .shutdown
      exact (adds_contact (hkind rfl)).trans hquiet.adds
  | closeStrategy =>
      simp only [World.runStage]
      cases hstrategy : t.strategy with
      | none => exact .of_eq rfl
      | some strategy =>
          exact adds_contact (hkind (by rw [Teardown.call?, hstrategy, Option.map_some]))
  | closeEndpoint =>
      simp only [World.runStage]
      cases hendpoint : t.endpoint with
      | none => exact .of_eq rfl
      | some endpoint =>
          exact (adds_contact (hkind (by rw [Teardown.call?, hendpoint, Option.map_some]))).trans
            (quiet_closeEndpoint w t.client endpoint).adds
  | shutdownNow =>
      have hquiet := quiet_contact_shutdown w t.client .shutdownNow
        (·.shutdownAssociationNow t.client) (fun v => quiet_shutdownAssociationNow v t.client)
        .shutdownNow
      exact (adds_contact (hkind rfl)).trans hquiet.adds
  | drain =>
      simp only [World.runStage]
      split
      next hinterrupted => exact adds_contact (hkind (by rw [Teardown.call?, if_pos hinterrupted]))
      next hinterrupted => exact adds_contact (hkind (by rw [Teardown.call?, if_neg hinterrupted]))
  | release => exact adds_releaseForTeardown (hkind rfl) w
  | awaitEndpoint =>
      simp only [World.runStage]
      cases hendpoint : t.endpoint with
      | none => exact .of_eq rfl
      | some endpoint =>
          dsimp only
          split
          next hinterrupted =>
            exact adds_contact (hkind (by
              rw [Teardown.call?, hendpoint, if_pos hinterrupted, Option.map_some]))
          next hinterrupted =>
            exact adds_contact (hkind (by
              rw [Teardown.call?, hendpoint, if_neg hinterrupted, Option.map_some]))
  | finish outcome =>
      exact Adds.trans (.of_eq rfl) (relocks_leaveLock (w.recordOutcome t.client outcome) task
        t.client).adds

theorem adds_handOver {t : Teardown} (hkind : ∀ {joined}, kind client (.teardown joined t)) :
    Adds kind w (w.handOver client t).2 := by
  have hspawn : Adds kind w
      ((w.markClosed client).spawn (.call (.teardown t .shutdown)) [] none none).2 :=
    adds_spawn (w.markClosed client) _ _ _ _
  exact hspawn.trans (adds_contact hkind)

/-- A close that has got the lock hands over a teardown with its own token. -/
theorem adds_lockedClose {interrupt : Option TokenName}
    (hkind : ∀ {joined endpoint strategy},
      w.state? client = some (.opened endpoint strategy) →
        kind client (.teardown joined ⟨client, endpoint, strategy, interrupt⟩)) :
    Adds kind w (w.lockedClose task client interrupt frames) := by
  unfold World.lockedClose
  split
  next endpoint strategy hstate =>
    have hover : Adds kind w (w.handOver client ⟨client, endpoint, strategy, interrupt⟩).2 :=
      adds_handOver (hkind hstate)
    dsimp only
    split
    · exact hover
    · exact hover.trans (relocks_leaveLock _ task client).adds
  next => exact (relocks_leaveLock w task client).adds
  next => exact (relocks_leaveLock w task client).adds

/-! ## Steps -/

theorem adds_makeCall {t : Task} {call : Call} (hcontrol : t.control = .call call) :
    Adds (w.Makes t) w (w.makeCall task call frames) := by
  cases call with
  | getChannel client => exact (relocks_requestLock w task client).adds
  | connect client endpoint =>
    exact adds_connect (fun h => .inl ⟨h, .connect hcontrol⟩) w task endpoint frames
  | openChannel client strategy =>
    exact adds_openChannel (fun h => .inl ⟨h, .openChannel hcontrol⟩) w task strategy frames
  | supply handler => exact adds_supply w task handler frames
  | clientSupply client => exact adds_clientSupply w task client frames
  | execute handler routine client => exact adds_execute w task handler routine client frames
  | operate script site => exact adds_operate w task script site frames
  | close client interrupt => exact (relocks_requestLock w task client).adds
  | teardown td stage =>
      exact adds_runStage fun hcall => .inr (.inr (.inl ⟨td, stage, rfl, hcontrol, hcall⟩))
  | behave behaviour => exact adds_behave w task behaviour frames
  | awaitCompletion client => exact adds_awaitCompletion w task client frames
  | awaitClosed endpoint => exact adds_awaitClosed w task endpoint frames
  | awaitLocal endpoint => exact .of_eq rfl
  | own endpoint script => exact adds_runOwned w task endpoint script frames
  | spawn call => exact adds_spawn w (.call call) [] none none
  | await wait => exact .of_eq rfl
  | awaitDrained handler ms => exact .of_eq rfl

theorem adds_resume {t : Task} {frame : Frame} {reply : Reply} (hcontrol : t.control = .reply reply)
    (hframes : t.frames = frame :: frames) :
    Adds (w.Makes t) w (w.resume task frame reply frames) := by
  cases frame with
  | getLock client =>
    exact adds_lockedChannel (fun h => .inl ⟨h, .lock hcontrol hframes⟩) w task frames
  | creation client endpoint plan =>
      exact adds_created (fun h => .inl ⟨h, .creation hcontrol hframes⟩) w task endpoint plan reply
        frames
  | channel client strategy channel => exact adds_opened w task client strategy channel reply frames
  | closeLock client interrupt =>
      refine adds_lockedClose fun hstate => .inr (.inr (.inr ⟨_, _, rfl, rfl, hstate, ?_, ?_⟩))
      · exact ⟨reply, hcontrol⟩
      · exact ⟨frames, hframes⟩
  | recordLock client error =>
      exact Adds.trans (.of_eq rfl)
        (relocks_leaveLock (w.recordOutcome client (.error error.clone)) task client).adds
  | background client => exact adds_endBackground w task client reply frames
  | supply handler operation routine client =>
      exact adds_startOperation w task handler operation routine client reply frames
  | opening operation body site => exact adds_startBody w task operation body site frames
  | operation handler operation => exact (quiet_endOperation w handler operation).adds
  | teardown td pause => exact (quiet_pauseEnded w td pause reply).adds
  | localTasks endpoint => exact (quiet_finishLocal w endpoint).adds
  | _ => exact .of_eq rfl

theorem adds_unwind (hkind : ∀ client, kind client .release) (w : World) (task : TaskId)
    (frame : Frame) (content : Panic) (frames : List Frame) :
    Adds kind w (w.unwind task frame content frames) := by
  cases frame with
  | teardown td pause => exact (quiet_pausePanicked w td pause content).adds
  | _ => exact adds_dropFrame hkind w task _

/-- A step of a task makes the entries that it is about to make, and no others. -/
theorem adds_step {t : Task} (ht : w.task? task = some t) (hstep : w.step? task = some u) :
    Adds (w.Makes t) w u := by
  have hrelease : ∀ client, w.Makes t client .release := fun _ => .inr (.inl rfl)
  unfold step? at hstep
  rw [ht] at hstep
  dsimp only at hstep
  split at hstep
  next hcontrol =>
    cases hstep
    exact adds_makeCall hcontrol
  next hcontrol hframes =>
    cases hstep
    exact adds_resume hcontrol hframes
  next =>
    cases hstep
    exact adds_finishTask w task _
  next =>
    cases hstep
    exact adds_unwind hrelease w task _ _ _
  next =>
    cases hstep
    exact adds_finishTask w task _
  next client frames _ _ =>
    cases hstep
    exact (quiet_swallow w client .join lostTeardown).adds.trans
      (relocks_requestLock _ task client).adds
  next =>
    cases hstep
    exact adds_dropFrame hrelease w task _
  next =>
    cases hstep
    exact adds_finishTask w task _
  next =>
    obtain ⟨control, -, rfl⟩ := Option.map_eq_some_iff.1 hstep
    exact .of_eq rfl

end World

end Remoting
