import Remoting.Proofs.Dealing

/-!
# What a step does to a handler

A step of a task ends with what the task does next, on frames inside which it stays. `Runs` says
which deeds the step does at a handler and which tickets the task takes on. A call admits an
operation, or is a step of an operation or of a teardown that tells the handler something; a frame
that is given a reply binds or ends an operation, or lets a factory tell the handler something.
-/

namespace Remoting.World

variable {lines : LogLine → Prop} {handler : HandlerId} {deeds : List Deed} {w v u : World}
  {task : TaskId} {frames : List Frame} {tickets : List OperationId}

/-- A step of a task leads inside the given frames, with the given deeds at a handler and the given
tickets in new frames. -/
def Runs (lines : LogLine → Prop) (handler : HandlerId) (deeds : List Deed)
    (tickets : List OperationId) (task : TaskId) (frames : List Frame) (w u : World) : Prop :=
  ∃ v control inner, u = v.goto task control (inner ++ frames) ∧
    inner.filterMap (Frame.ticket? handler) = tickets ∧ Deals lines handler deeds w v

/-- A part of a step, and then what the task does next. -/
theorem Deals.runs (h : Deals lines handler deeds w v) (task : TaskId) (control : Control)
    (frames : List Frame) :
    Runs lines handler deeds [] task frames w (v.goto task control frames) :=
  ⟨v, control, [], rfl, rfl, h⟩

/-- A part of a step, and then an inner call. -/
theorem Deals.push (h : Deals lines handler deeds w v) (task : TaskId) (control : Control)
    (frame : Frame) (frames : List Frame) :
    Runs lines handler deeds (frame.ticket? handler).toList task frames w
      (v.goto task control (frame :: frames)) := by
  refine ⟨v, control, [frame], rfl, ?_, h⟩
  rw [List.filterMap_cons]
  cases frame.ticket? handler <;> rfl

/-- An inner call that holds no ticket. -/
theorem Deals.enter (h : Deals lines handler deeds w v) (task : TaskId) (control : Control)
    {frame : Frame} (hframe : frame.ticket? handler = none) (frames : List Frame) :
    Runs lines handler deeds [] task frames w (v.goto task control (frame :: frames)) := by
  have hruns := h.push task control frame frames
  rwa [hframe] at hruns

/-- A part before a step. -/
theorem Deals.before (h : Deals lines handler [] w v)
    (hruns : Runs lines handler deeds tickets task frames v u) :
    Runs lines handler deeds tickets task frames w u := by
  obtain ⟨v', control, inner, hu, htickets, hdeals⟩ := hruns
  exact ⟨v', control, inner, hu, htickets, h.trans hdeals⟩

/-! ## Collaborators and endpoints -/

theorem runs_behave (w : World) (task : TaskId) (behaviour : Behaviour) (frames : List Frame) :
    Runs lines handler [] [] task frames w (w.behave task behaviour frames) := by
  unfold World.behave
  split
  · exact (Deals.refl w).enter task _ rfl frames
  · split
    · exact (Deals.refl w).runs task _ frames
    · exact (Deals.refl w).runs task _ frames

theorem runs_awaitClosed (w : World) (task : TaskId) (endpoint : EndpointId) (frames : List Frame) :
    Runs lines handler [] [] task frames w (w.awaitClosed task endpoint frames) := by
  unfold World.awaitClosed
  split
  · exact (Deals.refl w).enter task _ rfl frames
  · dsimp only
    split
    · exact (deals_emit w _).enter task _ rfl frames
    · exact (deals_emit w _).enter task _ rfl frames

theorem runs_finishClosure (w : World) (task : TaskId) (endpoint : EndpointId)
    (frames : List Frame) :
    Runs lines handler [] [] task frames w (w.finishClosure task endpoint frames) :=
  (deals_finishLocal w endpoint).runs task _ frames

theorem runs_runOwned (w : World) (task : TaskId) (endpoint : EndpointId) (script : List OwnedStep)
    (frames : List Frame) :
    Runs lines handler [] [] task frames w (w.runOwned task endpoint script frames) := by
  unfold World.runOwned
  split
  · exact (Deals.refl w).runs task _ frames
  · exact (Deals.refl w).enter task _ rfl frames
  · exact (Deals.refl w).enter task _ rfl frames
  · exact (deals_emit w _).runs task _ frames
  · exact (deals_emit w _).runs task _ frames
  · exact (Deals.refl w).runs task _ frames
  · exact (Deals.refl w).runs task _ frames

/-! ## Getting a channel -/

theorem runs_getChannel (w : World) (task : TaskId) (client : ClientId) (frames : List Frame) :
    Runs lines handler [] [] task frames w (w.getChannel task client frames) :=
  (deals_requestLock w task client).enter task _ rfl frames

/-- The end of a call for a channel. -/
theorem Deals.endChannel (h : Deals lines handler deeds w v) (task : TaskId) (client : ClientId)
    (reply : Reply) (frames : List Frame) :
    Runs lines handler deeds [] task frames w (v.endChannel task client reply frames) :=
  (h.and (deals_leaveLock v task client)).runs task _ frames

theorem Deals.panicChannel (h : Deals lines handler deeds w v) (task : TaskId) (client : ClientId)
    (content : Panic) (frames : List Frame) :
    Runs lines handler deeds [] task frames w (v.panicChannel task client content frames) :=
  (h.and (deals_leaveLock v task client)).runs task _ frames

theorem runs_createEndpoint (w : World) (task : TaskId) (client : ClientId) (c : Client)
    (name : String) (frames : List Frame) :
    Runs lines handler [] [] task frames w (w.createEndpoint task client c name frames) := by
  have hcall : Deals lines handler _ _ (w.contact client .createEndpoint) :=
    deals_contact w client fun heq => by cases heq
  unfold World.createEndpoint
  dsimp only
  split
  · exact ((hcall.and (deals_addEndpoint _ _)).and (deals_keepEndpoint _ client _)).runs task _
      frames
  · have hcount := (hcall.and (deals_modifyClient _ client
      (fun c => { c with endpointCalls := c.endpointCalls + 1 }) (fun _ => rfl) (fun _ => rfl)
      fun _ => rfl)).and (deals_emit _ (.createEndpoint name))
    split
    · exact hcount.endChannel task client _ frames
    · exact hcount.panicChannel task client _ frames
    · exact (((hcount.and (deals_addEndpoint _ _)).and (deals_startOwned _ _ _)).and
        (deals_keepEndpoint _ client _)).runs task _ frames

theorem runs_lockedChannel (w : World) (task : TaskId) (client : ClientId) (frames : List Frame) :
    Runs lines handler [] [] task frames w (w.lockedChannel task client frames) := by
  unfold World.lockedChannel
  split
  · split
    · exact (Deals.refl w).endChannel task client _ frames
    · exact (Deals.refl w).runs task _ frames
    · exact (Deals.refl w).runs task _ frames
    · exact runs_createEndpoint w task client _ _ frames
  · exact (Deals.refl w).endChannel task client _ frames

theorem runs_connect (w : World) (task : TaskId) (client : ClientId) (endpoint : EndpointId)
    (frames : List Frame) :
    Runs lines handler [] [] task frames w (w.connect task client endpoint frames) := by
  unfold World.connect
  split
  · split
    · exact (Deals.refl w).endChannel task client _ frames
    · have hcontact : Deals lines handler [] w (w.contact client (.createStrategy endpoint)) :=
        deals_contact w client fun heq => by cases heq
      have hcount := hcontact.and (deals_modifyClient _ client
        (fun c => { c with strategyCalls := c.strategyCalls + 1 }) (fun _ => rfl) (fun _ => rfl)
        fun _ => rfl)
      dsimp only
      split
      · exact hcount.panicChannel task client _ frames
      · exact (hcount.and (deals_emit _ _)).enter task _ rfl frames
  · exact (Deals.refl w).endChannel task client _ frames

theorem runs_created (w : World) (hlost : MayLose lines w) (task : TaskId) (client : ClientId)
    (endpoint : EndpointId) (plan : StrategyPlan) (value : Value) (frames : List Frame) :
    Runs lines handler (plan.onCreate.elim [] fun call =>
      w.clientDeeds client handler (factoryDeeds call)) [] task frames w
      (w.created task client endpoint plan (.ok value) frames) := by
  have hcall : Deals lines handler _ _ _ := deals_callAssociation w hlost client plan.onCreate
  unfold World.created
  dsimp only
  split
  next hresult =>
    rw [hresult] at hcall
    exact hcall.panicChannel task client _ frames
  next hresult =>
    rw [hresult] at hcall
    split
    · exact hcall.endChannel task client _ frames
    · exact (hcall.and (deals_keepStrategy _ client endpoint plan)).runs task _ frames

theorem runs_openChannel (w : World) (task : TaskId) (client : ClientId) (strategy : StrategyId)
    (frames : List Frame) :
    Runs lines handler [] [] task frames w (w.openChannel task client strategy frames) := by
  unfold World.openChannel
  split
  · exact (Deals.refl w).endChannel task client _ frames
  · exact (((deals_contact w client fun heq => by cases heq).and
      (deals_modifyStrategy _ strategy _)).and (deals_emit _ _)).enter task _ rfl frames

theorem runs_opened (w : World) (task : TaskId) (client : ClientId) (strategy : StrategyId)
    (channel : ChannelId) (reply : Reply) (frames : List Frame) :
    Runs lines handler [] [] task frames w
      (w.opened task client strategy channel reply frames) := by
  unfold World.opened
  split
  · exact (Deals.refl w).endChannel task client _ frames
  · exact (deals_modifyStrategy w strategy _).endChannel task client _ frames

/-! ## Running operations -/

/-- The number that a handler gives to the next operation, if it admits operations. -/
def admits? (w : World) (handler : HandlerId) : Option OperationId :=
  (w.tracker? handler).bind fun tracker =>
    if tracker.accepting then some tracker.nextId else none

/-- The answer to a registration. -/
theorem registerOperation_fst (w : World) (own : HandlerId) :
    (w.registerOperation own).1 = match w.admits? own with
      | some id => .ok id
      | none => .error (.closed "ManagementChannelHandler") := by
  unfold registerOperation admits? tracker?
  cases w.handlers[own]? with
  | none => rfl
  | some h =>
      cases haccepting : h.tracker.accepting <;> simp [Tracker.register, haccepting]

/-- A call that executes an operation is refused, or goes on to the source of channels. -/
theorem execute_eq (w : World) (task : TaskId) (own : HandlerId) (routine : Routine)
    (client : Option ClientId) (frames : List Frame) :
    w.execute task own routine client frames = match w.admits? own with
      | some id => (w.registerOperation own).2.enter task (.supply own)
          (.supply own id routine client :: frames)
      | none => (w.registerOperation own).2.answer task
          (.error (.closed "ManagementChannelHandler")) frames := by
  have hanswer := w.registerOperation_fst own
  unfold World.execute
  generalize w.registerOperation own = result at hanswer ⊢
  obtain ⟨answer, v⟩ := result
  dsimp only at hanswer ⊢
  subst hanswer
  cases w.admits? own <;> rfl

theorem runs_execute (w : World) (task : TaskId) (own : HandlerId) (routine : Routine)
    (client : Option ClientId) (frames : List Frame) :
    Runs lines handler (deedsAt own handler [.accept])
      (if own = handler then (w.admits? own).toList else []) task frames w
      (w.execute task own routine client frames) := by
  have hregister : Deals lines handler _ _ _ := deals_registerOperation w own
  rw [execute_eq]
  cases w.admits? own with
  | none =>
      rw [Option.toList_none, ite_self]
      exact hregister.runs task _ frames
  | some id =>
      have hruns := hregister.push task (.call (.supply own)) (.supply own id routine client) frames
      have htickets : ((Frame.supply own id routine client).ticket? handler).toList =
          if own = handler then (some id).toList else [] := by
        rw [Frame.ticket?_supply]
        split <;> rfl
      rwa [htickets] at hruns

theorem runs_supply (w : World) (task : TaskId) (own : HandlerId) (frames : List Frame) :
    Runs lines handler [] [] task frames w (w.supply task own frames) := by
  unfold World.supply
  split
  next channels calls _ =>
    have hcount : Deals lines handler [] w
        (w.modifyHandler own fun h => { h with supplier := .plan channels (calls + 1) }) :=
      deals_modifySupplier w own fun _ => rfl
    exact hcount.enter task _ rfl frames
  next => exact (Deals.refl w).runs task _ frames
  next => exact (Deals.refl w).runs task _ frames

theorem runs_clientSupply (w : World) (task : TaskId) (client : ClientId) (frames : List Frame) :
    Runs lines handler [] [] task frames w (w.clientSupply task client frames) := by
  unfold World.clientSupply
  split
  · exact (Deals.refl w).enter task _ rfl frames
  · exact (Deals.refl w).runs task _ frames

theorem runs_endExecute (w : World) (task : TaskId) (own : HandlerId) (id : OperationId)
    (reply : Reply) (frames : List Frame) :
    Runs lines handler (deedsAt own handler [.finish id]) [] task frames w
      (w.endExecute task own id reply frames) :=
  (deals_endOperation w own id).runs task _ frames

/-- The deeds at the answer of a source of channels, as one handler sees them. -/
def suppliedDeeds (handler own : HandlerId) (id : OperationId) : Reply → List Deed
  | .ok (.handle channel) => deedsAt own handler [.bind id channel]
  | _ => deedsAt own handler [.finish id]

/-- The ticket that is kept at the answer of a source of channels. -/
def suppliedTickets (handler own : HandlerId) (id : OperationId) : Reply → List OperationId
  | .ok (.handle _) => if own = handler then [id] else []
  | _ => []

theorem runs_startOperation (w : World) (task : TaskId) (own : HandlerId) (id : OperationId)
    (routine : Routine) (client : Option ClientId) (reply : Reply) (frames : List Frame) :
    Runs lines handler (suppliedDeeds handler own id reply) (suppliedTickets handler own id reply)
      task frames w (w.startOperation task own id routine client reply frames) := by
  unfold World.startOperation
  split
  next channel =>
    have hbind : Deals lines handler _ _ _ := deals_bindOperation w own id channel
    have hruns := hbind.push task (.call (.operate routine.call ⟨own, channel, client⟩))
      (.opening id routine.body ⟨own, channel, client⟩) frames
    have htickets : ((Frame.opening id routine.body ⟨own, channel, client⟩).ticket?
        handler).toList = if own = handler then [id] else [] := by
      rw [Frame.ticket?_opening]
      split <;> rfl
    rwa [htickets] at hruns
  next hreply =>
    have hruns : Runs lines handler _ _ _ _ _ _ := runs_endExecute w task own id reply frames
    unfold suppliedDeeds suppliedTickets
    split
    next channel => exact absurd rfl (hreply channel)
    next => exact hruns

/-- The deeds at the return of the call of an operation, as one handler sees them. -/
def openedDeeds (w : World) (handler : HandlerId) (id : OperationId) (site : Site) : List Deed :=
  if (w.cancellation? site.handler id).isSome then deedsAt site.handler handler [.finish id] else []

/-- The ticket that is kept at the return of the call of an operation. -/
def openedTickets (w : World) (handler : HandlerId) (id : OperationId) (site : Site) :
    List OperationId :=
  if (w.cancellation? site.handler id).isSome then []
  else if site.handler = handler then [id] else []

theorem runs_startBody (w : World) (task : TaskId) (id : OperationId) (body : Script) (site : Site)
    (frames : List Frame) :
    Runs lines handler (w.openedDeeds handler id site) (w.openedTickets handler id site)
      task frames w (w.startBody task id body site frames) := by
  unfold World.startBody openedDeeds openedTickets
  cases w.cancellation? site.handler id with
  | some reason => exact runs_endExecute w task site.handler id (.error reason) frames
  | none =>
      have hruns : Runs lines handler _ _ _ _ _ _ := (Deals.refl w).push task
        (.call (.operate body site)) (.operation site.handler id) frames
      have htickets : ((Frame.operation site.handler id).ticket? handler).toList =
          if site.handler = handler then [id] else [] := by
        rw [Frame.ticket?_operation]
        split <;> rfl
      rw [htickets] at hruns
      simp only [Option.isSome_none, Bool.false_eq_true, if_false]
      exact hruns

theorem runs_nestedDone (w : World) (task : TaskId) (rest : Script) (site : Site) (reply : Reply)
    (frames : List Frame) :
    Runs lines handler [] [] task frames w (w.nestedDone task rest site reply frames) :=
  (deals_emit w _).runs task _ frames

/-- The deeds of the next step of an operation, as one handler sees them. -/
def operateDeeds (handler : HandlerId) (site : Site) : Script → List Deed
  | .shutdown :: _ => deedsAt site.handler handler [.stop]
  | .shutdownNow :: _ => deedsAt site.handler handler [.stop, .cancel .closing]
  | .channelClosed :: _ =>
    deedsAt site.handler handler [.cancel (.channelClosed site.channel none)]
  | _ => []

theorem runs_operate (w : World) (hlost : MayLose lines w) (task : TaskId) (script : Script)
    (site : Site) (frames : List Frame) :
    Runs lines handler (operateDeeds handler site script) [] task frames w
      (w.operate task script site frames) := by
  cases script with
  | nil => exact (Deals.refl w).runs task _ frames
  | cons step rest =>
      cases step with
      | sleep ms => exact (Deals.refl w).enter task _ rfl frames
      | mark value => exact (deals_emit w _).runs task _ frames
      | active => exact (deals_emit w _).runs task _ frames
      | closeChannel => exact (deals_closeChannel w _).runs task _ frames
      | shutdown => exact (deals_shutdownHandler w _).runs task _ frames
      | shutdownNow => exact (deals_shutdownHandlerNow w hlost _).runs task _ frames
      | channelClosed => exact (deals_handlerChannelClosed w hlost _ _ none).runs task _ frames
      | execute inner => exact (Deals.refl w).enter task _ rfl frames
      | getChannel | closeClient =>
          simp only [World.operate]
          split
          · exact (Deals.refl w).enter task _ rfl frames
          · exact (Deals.refl w).runs task _ frames
      | _ => exact (Deals.refl w).runs task _ frames

/-! ## Closing -/

theorem runs_close (w : World) (task : TaskId) (client : ClientId) (interrupt : Option TokenName)
    (frames : List Frame) :
    Runs lines handler [] [] task frames w (w.close task client interrupt frames) :=
  (deals_requestLock w task client).enter task _ rfl frames

theorem runs_lockedClose (w : World) (task : TaskId) (client : ClientId)
    (interrupt : Option TokenName) (frames : List Frame) :
    Runs lines handler [] [] task frames w (w.lockedClose task client interrupt frames) := by
  unfold World.lockedClose
  split
  next endpoint strategy _ =>
    have hover : Deals lines handler _ _ _ := deals_handOver w client
      ⟨client, endpoint, strategy, interrupt⟩
    dsimp only
    split
    · exact (hover.and (deals_giveLock _ client _)).enter task _ rfl frames
    · exact (hover.and (deals_leaveLock _ task client)).enter task _ rfl frames
  next => exact (deals_leaveLock w task client).runs task _ frames
  next => exact (deals_leaveLock w task client).runs task _ frames

theorem runs_closeLost (w : World) (task : TaskId) (client : ClientId) (frames : List Frame) :
    Runs lines handler [] [] task frames w (w.closeLost task client frames) :=
  ((deals_swallow w fun hne => absurd rfl hne).and (deals_requestLock _ task client)).enter
    task _ rfl frames

theorem runs_recordFailure (w : World) (task : TaskId) (client : ClientId) (error : Error)
    (frames : List Frame) :
    Runs lines handler [] [] task frames w (w.recordFailure task client error frames) :=
  ((deals_recordOutcome w client _).and (deals_leaveLock _ task client)).runs task _ frames

theorem runs_endBackground (w : World) (task : TaskId) (client : ClientId) (reply : Reply)
    (frames : List Frame) :
    Runs lines handler [] [] task frames w (w.endBackground task client reply frames) := by
  unfold World.endBackground
  dsimp only
  split
  · exact (Deals.refl w).runs task _ frames
  · exact (deals_warn w nofun).runs task _ frames

/-- The deeds of a stage of a teardown, as one handler sees them. -/
def stageDeeds (w : World) (handler : HandlerId) (t : Teardown) : Teardown.Stage → List Deed
  | .shutdown => w.clientDeeds t.client handler [.stop]
  | .shutdownNow => w.clientDeeds t.client handler [.stop, .cancel .closing]
  | _ => []

theorem runs_runStage (w : World) (hlost : MayLose lines w) (task : TaskId) {t : Teardown}
    (hfail : MayFail lines (t.client + 1)) (stage : Teardown.Stage) (frames : List Frame) :
    Runs lines handler (w.stageDeeds handler t stage) [] task frames w
      (w.runStage task t stage frames) := by
  cases stage with
  | shutdown =>
      have hcontact : Deals lines handler _ _ (w.contact t.client .shutdown) :=
        deals_contact w t.client fun heq => by cases heq
      exact ((hcontact.trans (deals_shutdownAssociation _ t.client)).and
        (deals_swallowPanic _ _ .shutdown (hfail nofun) _)).runs task _ frames
  | shutdownNow =>
      have hcontact : Deals lines handler _ _ (w.contact t.client .shutdownNow) :=
        deals_contact w t.client fun heq => by cases heq
      have hlost' : MayLose lines (w.contact t.client .shutdownNow) := hlost
      exact ((hcontact.trans (deals_shutdownAssociationNow _ hlost' t.client)).and
        (deals_swallowPanic _ _ .shutdownNow (hfail nofun) _)).runs task _ frames
  | closeStrategy =>
      simp only [World.runStage]
      split
      · exact (Deals.refl w).runs task _ frames
      · exact ((deals_contact w t.client fun heq => by cases heq).and (deals_emit _ _)).enter task _
          rfl frames
  | closeEndpoint =>
      simp only [World.runStage]
      split
      · exact (Deals.refl w).runs task _ frames
      · exact (deals_closeEndpoint w hfail _).runs task _ frames
  | drain =>
      simp only [World.runStage]
      split
      · exact (deals_contact w t.client fun heq => by cases heq).runs task _ frames
      · exact (deals_contact w t.client fun heq => by cases heq).enter task _ rfl frames
  | release => exact (deals_releaseForTeardown w hfail).runs task _ frames
  | awaitEndpoint =>
      simp only [World.runStage]
      split
      · exact (Deals.refl w).runs task _ frames
      · split
        · exact (deals_contact w t.client fun heq => by cases heq).runs task _ frames
        · exact (deals_contact w t.client fun heq => by cases heq).enter task _ rfl frames
  | finish outcome =>
      exact ((deals_recordOutcome w t.client _).and (deals_leaveLock _ task t.client)).runs task _
        frames

theorem runs_awaitCompletion (w : World) (task : TaskId) (client : ClientId)
    (frames : List Frame) :
    Runs lines handler [] [] task frames w (w.awaitCompletion task client frames) := by
  unfold World.awaitCompletion
  dsimp only
  split
  · exact (Deals.refl w).runs task _ frames
  · exact (deals_emit w _).enter task _ rfl frames
  · exact (Deals.refl w).runs task _ frames

/-- The end of a wait of a teardown. A wait for operations that has ended without success may have
missed its time limit. -/
theorem deals_pauseEnded (w : World) {t : Teardown} (hfail : MayFail lines (t.client + 1))
    (pause : Teardown.Pause) (reply : Reply)
    (hlate : ∀ deadline, pause = .drain deadline → reply = .ok (.flag false) →
      MayMiss lines (t.client + 1)) :
    Deals lines handler [] w (w.pauseEnded t pause reply).2 := by
  unfold pauseEnded
  split
  · exact deals_strategyClosed w _
  · exact deals_swallow w fun _ => hfail nofun
  · exact deals_drainTimeout w (hlate _ rfl rfl)
  · exact .refl w
  · exact .refl w

theorem deals_pausePanicked (w : World) {t : Teardown} (hfail : MayFail lines (t.client + 1))
    (pause : Teardown.Pause) (content : Panic)
    (hlate : ∀ deadline, pause = .drain deadline → MayMiss lines (t.client + 1)) :
    Deals lines handler [] w (w.pausePanicked t pause content).2 := by
  cases pause with
  | strategy => exact deals_swallowPanic w _ .closeStrategy (hfail nofun) (some content)
  | drain deadline =>
      exact deals_swallowPanic w _ _ (hlate deadline rfl) (some content)
  | endpoint => exact .refl w

end World

/-- Whether a task hands something to the innermost enclosing call. -/
def Control.hands : Control → Bool
  | .call _ | .wait _ => false
  | _ => true

/-- What a task does next is a part of a teardown, and not of a call that the teardown waits for. -/
inductive Task.Tears (t : Task) (td : Teardown) : Prop
  | stage {stage : Teardown.Stage} (control : t.control = .call (.teardown td stage))
  | pause {pause : Teardown.Pause} {outer : List Frame}
      (frames : t.frames = .teardown td pause :: outer) (control : t.control.hands = true)

namespace World

variable {lines : LogLine → Prop} {handler : HandlerId} {w u : World}

/-! ## All steps -/

/-- The deeds of a call, as one handler sees them. -/
def callDeeds (w : World) (handler : HandlerId) : Call → List Deed
  | .execute own .. => deedsAt own handler [.accept]
  | .operate script site => operateDeeds handler site script
  | .teardown t stage => w.stageDeeds handler t stage
  | _ => []

/-- The ticket that a call takes on. -/
def callTickets (w : World) (handler : HandlerId) : Call → List OperationId
  | .execute own .. => if own = handler then (w.admits? own).toList else []
  | _ => []

/-- The deeds at a reply to a frame, as one handler sees them. -/
def resumeDeeds (w : World) (handler : HandlerId) : Frame → Reply → List Deed
  | .creation client _ plan, .ok _ =>
    plan.onCreate.elim [] fun call => w.clientDeeds client handler (factoryDeeds call)
  | .supply own id _ _, reply => suppliedDeeds handler own id reply
  | .opening id _ site, _ => w.openedDeeds handler id site
  | .operation own id, _ => deedsAt own handler [.finish id]
  | _, _ => []

/-- The ticket that is kept at a reply to a frame. -/
def resumeTickets (w : World) (handler : HandlerId) : Frame → Reply → List OperationId
  | .supply own id _ _, reply => suppliedTickets handler own id reply
  | .opening id _ site, _ => w.openedTickets handler id site
  | _, _ => []

theorem runs_makeCall (w : World) (hlost : MayLose lines w) (task : TaskId) (call : Call)
    (frames : List Frame)
    (hfail : ∀ t stage, call = .teardown t stage → MayFail lines (t.client + 1)) :
    Runs lines handler (w.callDeeds handler call) (w.callTickets handler call) task frames w
      (w.makeCall task call frames) := by
  cases call with
  | getChannel client => exact runs_getChannel w task client frames
  | connect client endpoint => exact runs_connect w task client endpoint frames
  | openChannel client strategy => exact runs_openChannel w task client strategy frames
  | supply own => exact runs_supply w task own frames
  | clientSupply client => exact runs_clientSupply w task client frames
  | execute own routine client => exact runs_execute w task own routine client frames
  | operate script site => exact runs_operate w hlost task script site frames
  | close client interrupt => exact runs_close w task client interrupt frames
  | teardown t stage => exact runs_runStage w hlost task (hfail t stage rfl) stage frames
  | behave behaviour => exact runs_behave w task behaviour frames
  | awaitCompletion client => exact runs_awaitCompletion w task client frames
  | awaitClosed endpoint => exact runs_awaitClosed w task endpoint frames
  | awaitLocal => exact (Deals.refl w).enter task _ rfl frames
  | own endpoint script => exact runs_runOwned w task endpoint script frames
  | spawn call => exact (deals_spawn w (.call call) none none).runs task _ frames
  | await | awaitDrained => exact (Deals.refl w).runs task _ frames

theorem runs_resume (w : World) (hlost : MayLose lines w) (task : TaskId) (frame : Frame)
    (reply : Reply) (frames : List Frame)
    (hfail : ∀ t pause, frame = .teardown t pause → MayFail lines (t.client + 1))
    (hlate : ∀ t deadline, frame = .teardown t (.drain deadline) → reply = .ok (.flag false) →
      MayMiss lines (t.client + 1)) :
    Runs lines handler (w.resumeDeeds handler frame reply) (w.resumeTickets handler frame reply)
      task frames w (w.resume task frame reply frames) := by
  cases frame with
  | getLock client => exact runs_lockedChannel w task client frames
  | creation client endpoint plan =>
      cases reply with
      | error e => exact (Deals.refl w).endChannel task client _ frames
      | ok value => exact runs_created w hlost task client endpoint plan value frames
  | channel client strategy channel => exact runs_opened w task client strategy channel reply frames
  | closeLock client interrupt => exact runs_lockedClose w task client interrupt frames
  | recordLock client error => exact runs_recordFailure w task client error frames
  | background client => exact runs_endBackground w task client reply frames
  | supply own id routine client =>
    exact runs_startOperation w task own id routine client reply frames
  | opening id body site => exact runs_startBody w task id body site frames
  | operation own id => exact runs_endExecute w task own id reply frames
  | nested rest site => exact runs_nestedDone w task rest site reply frames
  | teardown t pause =>
      have hpause : Deals lines handler _ _ _ := deals_pauseEnded w (hfail t pause rfl) pause reply
        fun deadline hpause => hlate t deadline (hpause ▸ rfl)
      exact hpause.runs task _ frames
  | completion => exact (deals_emit w _).runs task _ frames
  | endpointClosed => exact (deals_emit w _).runs task _ frames
  | localRequest => exact (Deals.refl w).enter task _ rfl frames
  | localTasks endpoint => exact runs_finishClosure w task endpoint frames
  | _ => exact (Deals.refl w).runs task _ frames

theorem runs_unwind (w : World) (task : TaskId) (frame : Frame) (content : Panic)
    (frames : List Frame)
    (hfail : ∀ t pause, frame = .teardown t pause → MayFail lines (t.client + 1))
    (hlate : ∀ t deadline, frame = .teardown t (.drain deadline) → MayMiss lines (t.client + 1)) :
    Runs lines handler (dropDeeds handler [frame]) [] task frames w
      (w.unwind task frame content frames) := by
  have hdrop : Deals lines handler _ _ _ := deals_dropFrame w task frame
    fun t deadline heq => hfail t _ heq
  cases frame with
  | teardown t pause =>
      have hpause : Deals lines handler _ _ _ :=
        deals_pausePanicked w (hfail t pause rfl) pause content
        fun deadline hpause => hlate t deadline (hpause ▸ rfl)
      exact hpause.runs task _ frames
  | _ => exact hdrop.runs task _ frames

/-- The deeds of the next step of a task, as one handler sees them. -/
def stepDeeds (w : World) (handler : HandlerId) : Control → List Frame → List Deed
  | .call call, _ => w.callDeeds handler call
  | .reply reply, frame :: _ => w.resumeDeeds handler frame reply
  | .unwind _, frame :: _ => dropDeeds handler [frame]
  | .lost, frame :: _ => dropDeeds handler [frame]
  | _, _ => []

/-- The tickets that a task has after its next step, apart from those in the frames that the step
leaves alone. -/
def stepTickets (w : World) (handler : HandlerId) : Control → List Frame → List OperationId
  | .call call, _ => w.callTickets handler call
  | .reply reply, frame :: _ => w.resumeTickets handler frame reply
  | _, _ => []

/-- The frames that the next step of a task leaves alone. -/
def stepFrames : Control → List Frame → List Frame
  | .call _, frames | .wait _, frames => frames
  | _, frames => frames.tail

/-- A step of a task ends the task or leads inside the frames that it leaves alone. -/
theorem runs_step (lines : LogLine → Prop) (handler : HandlerId) {t : Task}
    (ht : w.task? task = some t) (hstep : w.step? task = some u) (hlost : MayLose lines w)
    (hfail : ∀ td, t.Tears td → MayFail lines (td.client + 1))
    (hlate : ∀ td deadline, t.frames.head? = some (.teardown td (.drain deadline)) →
      (t.control = .reply (.ok (.flag false)) ∨ ∃ content, t.control = .unwind content) →
      MayMiss lines (td.client + 1)) :
    (t.frames = [] ∧ w.stepDeeds handler t.control t.frames = [] ∧
      Deals lines handler [] (w.removeTask task) u) ∨
    Runs lines handler (w.stepDeeds handler t.control t.frames)
      (w.stepTickets handler t.control t.frames) task (stepFrames t.control t.frames) w u := by
  unfold step? at hstep
  rw [ht] at hstep
  dsimp only at hstep
  split at hstep
  next call hcontrol =>
    cases hstep
    rw [hcontrol]
    refine .inr (runs_makeCall w hlost task call t.frames fun td stage heq => ?_)
    exact hfail td (.stage (hcontrol.trans (congrArg Control.call heq)))
  next reply frame frames hcontrol hframes =>
    cases hstep
    have hfail' : ∀ td pause, frame = .teardown td pause → MayFail lines (td.client + 1) :=
      fun td pause heq => hfail td (.pause (heq ▸ hframes) (by rw [hcontrol]; rfl))
    rw [hcontrol, hframes] at hlate ⊢
    refine .inr (runs_resume w hlost task frame reply frames hfail'
      fun td deadline hframe hreply => ?_)
    exact hlate td deadline (congrArg some hframe) (.inl (congrArg Control.reply hreply))
  next reply hcontrol hframes =>
    cases hstep
    rw [hcontrol, hframes]
    exact .inl ⟨rfl, rfl, deals_finishTask ht _⟩
  next content frame frames hcontrol hframes =>
    cases hstep
    have hfail' : ∀ td pause, frame = .teardown td pause → MayFail lines (td.client + 1) :=
      fun td pause heq => hfail td (.pause (heq ▸ hframes) (by rw [hcontrol]; rfl))
    rw [hcontrol, hframes] at hlate ⊢
    refine .inr (runs_unwind w task frame content frames hfail' fun td deadline hframe => ?_)
    exact hlate td deadline (congrArg some hframe) (.inr ⟨content, rfl⟩)
  next content hcontrol hframes =>
    cases hstep
    rw [hcontrol, hframes]
    exact .inl ⟨rfl, rfl, deals_finishTask ht _⟩
  next client frames hcontrol hframes =>
    cases hstep
    rw [hcontrol, hframes]
    exact .inr (runs_closeLost w task client frames)
  next frame frames _ hcontrol hframes =>
    cases hstep
    have hfail' : ∀ td deadline, frame = .teardown td (.drain deadline) →
        MayFail lines (td.client + 1) :=
      fun td deadline heq => hfail td (.pause (heq ▸ hframes) (by rw [hcontrol]; rfl))
    rw [hcontrol, hframes]
    exact .inr ((deals_dropFrame w task frame hfail').runs task _ frames)
  next hcontrol hframes =>
    cases hstep
    rw [hcontrol, hframes]
    exact .inl ⟨rfl, rfl, deals_finishTask ht _⟩
  next wait hcontrol =>
    obtain ⟨control, -, rfl⟩ := Option.map_eq_some_iff.1 hstep
    rw [hcontrol]
    exact .inr ((Deals.refl w).runs task _ t.frames)

end Remoting.World
