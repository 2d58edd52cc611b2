import Remoting.Proofs.Queueing

/-!
# What a step does to the queues of locks

Every step of a task leaves it in the queues of no other locks than those that its calls ask for or
hold: a call that ends gives up its lock, and a close hands its lock to the teardown. The steps that
touch no lock keep the claims of the frames; the steps of a call that has the lock of a client are
`Around` that client.
-/

namespace Remoting.World

variable {w v u : World} {task : TaskId} {client : ClientId} {control control' : Control}
  {frames frames' : List Frame} {reply : Reply} {claims : ClientId → Prop}

/-! ## Changes that leave the locks alone -/

theorem lock?_spawn (w : World) (control : Control) (frames : List Frame)
    (handle : Option ClientId) (owner : Option EndpointId) (client : ClientId) :
    (w.spawn control frames handle owner).2.lock? client = w.lock? client := by
  unfold World.spawn
  split <;> rfl

theorem lock?_spawnOwned (w : World) (endpoint : EndpointId) (script : List OwnedStep)
    (client : ClientId) : (w.spawnOwned endpoint script).2.lock? client = w.lock? client := by
  unfold spawnOwned
  split
  next => rfl
  next =>
    split
    next => rfl
    next => exact lock?_spawn _ _ _ _ _ client

theorem lock?_startOwned (w : World) (endpoint : EndpointId) (tasks : List Nat)
    (client : ClientId) : (w.startOwned endpoint tasks).lock? client = w.lock? client := by
  unfold startOwned
  induction tasks generalizing w with
  | nil => rfl
  | cons ms tasks ih => exact (ih _).trans (lock?_spawnOwned w endpoint _ client)

theorem lock?_keepEndpoint (w : World) (client : ClientId) (endpoint : EndpointId)
    (other : ClientId) : (w.keepEndpoint client endpoint).lock? other = w.lock? other :=
  lock?_modifyClient_of_eq (w.contact client (.endpointCreated endpoint)) client _
    (fun _ => by rfl) other

theorem lock?_keepStrategy (w : World) (client : ClientId) (endpoint : EndpointId)
    (plan : StrategyPlan) (other : ClientId) :
    (w.keepStrategy client endpoint plan).2.lock? other = w.lock? other :=
  lock?_modifyClient_of_eq _ client _ (fun _ => by rfl) other

theorem lock?_recordOutcome (w : World) (client : ClientId) (outcome : Except Error Unit)
    (other : ClientId) : (w.recordOutcome client outcome).lock? other = w.lock? other := by
  refine lock?_modifyClient_of_eq w client _ (fun c => ?_) other
  split <;> rfl

theorem lock?_handOver (w : World) (client : ClientId) (teardown : Teardown) (other : ClientId) :
    (w.handOver client teardown).2.lock? other = w.lock? other :=
  (lock?_spawn (w.markClosed client) _ _ _ _ other).trans
    (lock?_modifyClient_of_eq w client _ (fun _ => by rfl) other)

theorem lock?_closeEndpoint (w : World) (client : ClientId) (endpoint : EndpointId)
    (other : ClientId) : (w.closeEndpoint client endpoint).lock? other = w.lock? other :=
  (quiet_closeEndpoint w client endpoint).lock other

theorem lock?_releaseForTeardown (w : World) (client : ClientId) (other : ClientId) :
    (w.releaseForTeardown client).lock? other = w.lock? other := by
  cases hc : w.clients[client]? with
  | none => simp only [releaseForTeardown, hc]
  | some c => exact (quiet_releaseForTeardown hc).lock other

/-! ## Around a lock -/

/-- The claims of a task that may have the lock of a client inside the given frames. -/
def Around (client : ClientId) (frames : List Frame) (other : ClientId) : Prop :=
  other = client ∨ Framed frames other

/-- A call that holds a lock from its start on, or a wait for a lock that is over. -/
theorem Seated.claiming (h : Seated w v task (Claims control frames'))
    (hclaim : control.claim? frames' = some client)
    (hframes : ∀ frame ∈ frames', frame ∈ frames ∨ frame.claim? = none) :
    Seated w v task (Around client frames) := by
  refine h.weaken fun other hclaims => ?_
  rcases hclaims with hother | hframed
  · exact .inl (Option.some.inj (hother.symm.trans hclaim))
  · exact .inr (hframed.mono hframes)

theorem Seated.called {call : Call} (h : Seated w v task (Claims (.call call) frames))
    (hclaim : (Control.call call).claim? frames = some client) :
    Seated w v task (Around client frames) :=
  h.claiming hclaim fun _ hframe => .inl hframe

/-- The innermost frame has waited for the lock. -/
theorem Seated.granted {frame : Frame} (h : Seated w v task (Claims control (frame :: frames)))
    (hclaim : control.claim? (frame :: frames) = some client) (hframe : frame.claim? = none) :
    Seated w v task (Around client frames) :=
  h.claiming hclaim (List.forall_mem_cons.2 ⟨.inr hframe, fun _ hmem => .inl hmem⟩)

/-- The innermost frame holds the lock. -/
theorem Seated.framed {frame : Frame} (h : Seated w v task (Claims control (frame :: frames)))
    (hcontrol : control.claim? (frame :: frames) = none) (hclaim : frame.claim? = some client) :
    Seated w v task (Around client frames) := by
  refine h.weaken fun other hclaims => ?_
  obtain ⟨frame', hframe', hother⟩ := hclaims.framed hcontrol
  rcases List.mem_cons.1 hframe' with rfl | hmem
  · exact .inl (Option.some.inj (hother.symm.trans hclaim))
  · exact .inr ⟨frame', hmem, hother⟩

/-- The task leaves the lock and goes on outside. -/
theorem Seated.release (h : Seated w v task (Around client frames)) :
    Lands w ((v.leaveLock task client).goto task control frames) task :=
  ((h.leave client).weaken fun _ hclaims => .inr (hclaims.1.resolve_left hclaims.2)).goto

/-- The task goes on with a call that holds the lock. -/
theorem Seated.enterHeld {call : Call} (h : Seated w v task (Around client frames))
    (hclaim : (Control.call call).claim? frames = some client) :
    Lands w (v.enter task call frames) task := by
  refine (h.weaken fun other hclaims => ?_).goto
  rcases hclaims with rfl | hframed
  · exact .inl hclaim
  · exact .inr hframed

/-- The task goes on inside a frame that holds the lock. -/
theorem Seated.hold {frame : Frame} (h : Seated w v task (Around client frames))
    (hclaim : frame.claim? = some client) :
    Lands w (v.goto task control (frame :: frames)) task := by
  refine (h.weaken fun other hclaims => .inr ?_).goto
  rcases hclaims with rfl | ⟨other, hmem, hother⟩
  · exact ⟨frame, List.mem_cons_self .., hclaim⟩
  · exact ⟨other, List.mem_cons_of_mem _ hmem, hother⟩

/-- The task asks for a lock and waits for it. -/
theorem Seated.ask {frame : Frame} (h : Seated w v task (Claims control frames))
    (hcontrol : control.claim? frames = none) (hclaim : frame.ask? = some client) :
    Lands w ((v.requestLock task client).await task (.lock client) (frame :: frames)) task := by
  refine ((h.request client).weaken fun other hclaims => ?_).goto
  rcases hclaims with hclaims | rfl
  · exact hclaims.mono hcontrol fun _ hmem => .inl (List.mem_cons_of_mem _ hmem)
  · exact .inl hclaim

/-! ## Calls that hold no lock -/

theorem lands_behave {behaviour : Behaviour}
    (h : Seated w w task (Claims (.call (.behave behaviour)) frames)) :
    Lands w (w.behave task behaviour frames) task := by
  unfold World.behave
  split
  · exact h.push rfl fun _ => rfl
  · split
    · exact h.stay rfl fun _ => rfl
    · exact h.stay rfl fun _ => rfl

theorem lands_awaitClosed {endpoint : EndpointId}
    (h : Seated w w task (Claims (.call (.awaitClosed endpoint)) frames)) :
    Lands w (w.awaitClosed task endpoint frames) task := by
  unfold World.awaitClosed
  split
  · exact h.push rfl fun _ => rfl
  · dsimp only
    split
    · exact h.push rfl fun _ => rfl
    · exact h.push rfl fun _ => rfl

theorem lands_runOwned {endpoint : EndpointId} {script : List OwnedStep}
    (h : Seated w w task (Claims (.call (.own endpoint script)) frames)) :
    Lands w (w.runOwned task endpoint script frames) task := by
  unfold World.runOwned
  split
  · exact h.stay rfl fun _ => rfl
  · exact h.push rfl fun _ => rfl
  · exact h.push rfl fun _ => rfl
  · exact h.stay rfl fun _ => rfl
  · exact h.stay rfl fun _ => rfl
  · exact h.stay rfl fun _ => rfl
  · exact h.stay rfl fun _ => rfl

theorem lands_supply {handler : HandlerId}
    (h : Seated w w task (Claims (.call (.supply handler)) frames)) :
    Lands w (w.supply task handler frames) task := by
  unfold World.supply
  split
  · exact h.push rfl fun _ => rfl
  · exact h.stay rfl fun _ => rfl
  · exact h.stay rfl fun _ => rfl

theorem lands_clientSupply
    (h : Seated w w task (Claims (.call (.clientSupply client)) frames)) :
    Lands w (w.clientSupply task client frames) task := by
  unfold World.clientSupply
  split
  · exact h.push rfl fun _ => rfl
  · exact h.stay rfl fun _ => rfl

theorem lands_execute {handler : HandlerId} {routine : Routine} {user : Option ClientId}
    (h : Seated w w task (Claims (.call (.execute handler routine user)) frames)) :
    Lands w (w.execute task handler routine user frames) task := by
  have hlock := (quiet_registerOperation w handler).lock
  unfold World.execute
  split
  next hregister =>
    rw [hregister] at hlock
    exact h.stay rfl hlock
  next hregister =>
    rw [hregister] at hlock
    exact h.push rfl hlock

theorem lands_operate {script : Script} {site : Site}
    (h : Seated w w task (Claims (.call (.operate script site)) frames)) :
    Lands w (w.operate task script site frames) task := by
  unfold World.operate
  split
  · exact h.stay rfl fun _ => rfl
  · exact h.push rfl fun _ => rfl
  · exact h.stay rfl fun _ => rfl
  · exact h.stay rfl fun _ => rfl
  · exact h.stay rfl fun _ => rfl
  · exact h.stay rfl fun _ => rfl
  · exact h.stay rfl fun _ => rfl
  · exact h.stay rfl fun _ => rfl
  · exact h.stay rfl (quiet_closeChannel w _).lock
  · exact h.stay rfl fun _ => rfl
  · exact h.stay rfl (quiet_shutdownHandlerNow w _).lock
  · exact h.stay rfl (quiet_handlerChannelClosed w _ _ _).lock
  · exact h.stay rfl fun _ => rfl
  · exact h.push rfl fun _ => rfl
  · split
    · exact h.push rfl fun _ => rfl
    · exact h.stay rfl fun _ => rfl
  · split
    · exact h.push rfl fun _ => rfl
    · exact h.stay rfl fun _ => rfl

theorem lands_awaitCompletion
    (h : Seated w w task (Claims (.call (.awaitCompletion client)) frames)) :
    Lands w (w.awaitCompletion task client frames) task := by
  unfold World.awaitCompletion
  dsimp only
  split
  · exact h.stay rfl fun _ => rfl
  · exact h.push rfl fun _ => rfl
  · exact h.stay rfl fun _ => rfl

/-! ## Getting a channel -/

theorem lands_createEndpoint (h : Seated w w task (Around client frames)) (c : Client)
    (name : String) : Lands w (w.createEndpoint task client c name frames) task := by
  unfold World.createEndpoint
  dsimp only
  split
  · refine (h.locks fun other => ?_).enterHeld rfl
    exact lock?_keepEndpoint _ client _ other
  · have hcount : ∀ other, (((w.contact client .createEndpoint).modifyClient client fun c =>
        { c with endpointCalls := c.endpointCalls + 1 }).emit (.createEndpoint name)).lock? other =
          w.lock? other := fun other =>
      lock?_modifyClient_of_eq (w.contact client .createEndpoint) client _ (fun _ => by rfl) other
    split
    · exact (h.locks hcount).release
    · exact (h.locks hcount).release
    · refine (h.locks fun other => ?_).enterHeld rfl
      exact ((lock?_keepEndpoint _ client _ other).trans (lock?_startOwned _ _ _ other)).trans
        (hcount other)

theorem lands_lockedChannel
    (h : Seated w w task (Claims (.reply reply) (.getLock client :: frames))) :
    Lands w (w.lockedChannel task client frames) task := by
  have haround : Seated w w task (Around client frames) := h.granted rfl rfl
  unfold World.lockedChannel
  split
  · split
    · exact haround.release
    · exact haround.enterHeld rfl
    · exact haround.enterHeld rfl
    · exact lands_createEndpoint haround _ _
  · exact haround.release

theorem lands_connect {endpoint : EndpointId}
    (h : Seated w w task (Claims (.call (.connect client endpoint)) frames)) :
    Lands w (w.connect task client endpoint frames) task := by
  have haround : Seated w w task (Around client frames) := h.called rfl
  unfold World.connect
  split
  · split
    · exact haround.release
    · have hcount : ∀ other, ((w.contact client (.createStrategy endpoint)).modifyClient client
          fun c => { c with strategyCalls := c.strategyCalls + 1 }).lock? other = w.lock? other :=
        fun other => lock?_modifyClient_of_eq (w.contact client (.createStrategy endpoint)) client _
          (fun _ => by rfl) other
      dsimp only
      split
      · exact (haround.locks hcount).release
      · refine (haround.locks fun other => ?_).hold ?_
        · exact hcount other
        · rfl
  · exact haround.release

theorem lands_created {endpoint : EndpointId} {plan : StrategyPlan}
    (h : Seated w w task (Claims (.reply reply) (.creation client endpoint plan :: frames))) :
    Lands w (w.created task client endpoint plan reply frames) task := by
  have haround : Seated w w task (Around client frames) := h.framed rfl rfl
  have hlock := (quiet_callAssociation w client plan.onCreate).lock
  unfold World.created
  split
  · exact haround.release
  · split
    next hresult =>
      rw [hresult] at hlock
      exact (haround.locks hlock).release
    next hresult =>
      rw [hresult] at hlock
      split
      · exact (haround.locks hlock).release
      · exact ((haround.locks hlock).locks (lock?_keepStrategy _ client endpoint plan)).enterHeld
          rfl

theorem lands_openChannel {strategy : StrategyId}
    (h : Seated w w task (Claims (.call (.openChannel client strategy)) frames)) :
    Lands w (w.openChannel task client strategy frames) task := by
  have haround : Seated w w task (Around client frames) := h.called rfl
  unfold World.openChannel
  split
  · exact haround.release
  · refine (haround.locks fun _ => ?_).hold ?_ <;> rfl

theorem lands_opened {strategy : StrategyId} {channel : ChannelId}
    (h : Seated w w task (Claims (.reply reply) (.channel client strategy channel :: frames))) :
    Lands w (w.opened task client strategy channel reply frames) task := by
  have haround : Seated w w task (Around client frames) := h.framed rfl rfl
  unfold World.opened
  split
  · exact haround.release
  · refine (haround.locks fun _ => ?_).release
    rfl

/-! ## Closes -/

theorem lands_closeLost (h : Seated w w task (Claims .lost (.closeJoin client :: frames))) :
    Lands w (w.closeLost task client frames) task := by
  have hpop : Seated w w task (Claims .lost frames) := h.weaken fun _ hclaims =>
    hclaims.mono rfl (List.forall_mem_cons.2 ⟨.inr rfl, fun _ hmem => .inl hmem⟩)
  exact (hpop.locks (quiet_swallow w client .join lostTeardown).lock).ask rfl rfl

theorem lands_recordFailure {error : Error}
    (h : Seated w w task (Claims (.reply reply) (.recordLock client error :: frames))) :
    Lands w (w.recordFailure task client error frames) task := by
  have haround : Seated w w task (Around client frames) := h.granted rfl rfl
  exact (haround.locks (lock?_recordOutcome w client _)).release

/-- The first close hands the lock to the teardown, which claims it at once. -/
theorem lands_lockedClose (hfit : w.CallsFit (some task)) (howner : w.owner? client = some task)
    (hmembers : ∀ {id}, id ∈ w.queue client → id < w.nextTask) {interrupt : Option TokenName}
    (h : Seated w w task (Claims (.reply reply) (.closeLock client interrupt :: frames))) :
    Lands w (w.lockedClose task client interrupt frames) task := by
  have haround : Seated w w task (Around client frames) := h.granted rfl rfl
  unfold World.lockedClose
  split
  next endpoint strategy hstate =>
    obtain ⟨c, hc, -⟩ := state?_eq_some.1 hstate
    obtain ⟨hjoined, hover⟩ := handOver_spec ⟨c, hc⟩ ⟨client, endpoint, strategy, interrupt⟩
    have hlock := lock?_handOver w client ⟨client, endpoint, strategy, interrupt⟩
    generalize w.handOver client ⟨client, endpoint, strategy, interrupt⟩ = pair
      at hjoined hover hlock
    obtain ⟨joined, v⟩ := pair
    dsimp only at hjoined hover hlock ⊢
    subst hjoined
    have hjoin : ∀ {other : ClientId} {wait : Wait}, Framed frames other →
        Claims (.wait wait) (.closeJoin client :: frames) other := by
      rintro other wait ⟨frame, hmem, hclaim⟩
      exact .inr ⟨frame, List.mem_cons_of_mem _ hmem, hclaim⟩
    have hv : Seated w v task (Around client frames) := haround.locks hlock
    have hownerv : v.owner? client = some task := (hover.owner client).trans howner
    split
    next hrunning =>
      have hfind := hover.task?_nextTask hfit.toOrderly
      rw [hover.running] at hrunning
      rw [if_pos hrunning] at hfind
      have hnew : w.nextTask ∉ v.queue client := fun hmem =>
        Nat.lt_irrefl _ (hmembers (by rwa [queue_congr (hlock client)] at hmem))
      have hne : w.nextTask ≠ task := fun heq => hnew (heq ▸ mem_queue_of_owner? hownerv)
      -- the queue of the client has changed at its head, the others not at all
      have hqueue : ∀ {other id}, id ∈ (v.giveLock client w.nextTask).queue other ↔
          if client = other then id = w.nextTask ∨ id ∈ w.queue other ∧ id ≠ task
          else id ∈ w.queue other := by
        intro other id
        rw [mem_queue_giveLock hv.singleFile hownerv hnew, queue_congr (hlock other)]
      exact
        { singleFile := singleFile_giveLock hv.singleFile hownerv hnew
          others := fun {other id} hid hmem => by
            have hmem' := hqueue.1 hmem
            split at hmem'
            next heq =>
              subst heq
              rcases hmem' with rfl | ⟨hmem', -⟩
              · refine .inr ⟨_, (task?_goto_of_ne hne _ _ _).trans hfind, .inl rfl⟩
              · exact .inl hmem'
            next => exact .inl hmem'
          stays := fun {other id} hid hmem => by
            refine hqueue.2 ?_
            split
            next => exact .inr ⟨hmem, hid⟩
            next => exact hmem
          own := fun {other t} hmem ht => by
            obtain ⟨hcontrol, hframes⟩ := of_task?_goto ht
            rw [hcontrol, hframes]
            have hmem' := hqueue.1 hmem
            split at hmem'
            next heq =>
              rcases hmem' with heq' | ⟨-, hself⟩
              · exact absurd heq'.symm hne
              · exact absurd rfl hself
            next hother =>
              exact hjoin ((haround.own hmem').resolve_left (Ne.symm hother)) }
    next =>
      refine ((hv.leave client).weaken fun other hclaims => ?_).goto
      exact hjoin (hclaims.1.resolve_left hclaims.2)
  next => exact haround.release
  next => exact haround.release

/-! ## Teardowns -/

theorem lands_runStage {t : Teardown} {stage : Teardown.Stage}
    (h : Seated w w task (Claims (.call (.teardown t stage)) frames)) :
    Lands w (w.runStage task t stage frames) task := by
  have haround : Seated w w task (Around t.client frames) := h.called rfl
  unfold World.runStage
  cases stage with
  | shutdown =>
      exact (haround.locks (quiet_contact_shutdown w t.client .shutdown
        (·.shutdownAssociation t.client) (fun v => quiet_shutdownAssociation v t.client)
          .shutdown).lock).enterHeld rfl
  | closeStrategy =>
      dsimp only
      split
      · exact haround.enterHeld rfl
      · refine (haround.locks fun _ => ?_).hold ?_ <;> rfl
  | closeEndpoint =>
      dsimp only
      split
      · exact haround.enterHeld rfl
      · exact (haround.locks (lock?_closeEndpoint w t.client _)).enterHeld rfl
  | shutdownNow =>
      exact (haround.locks (quiet_contact_shutdown w t.client .shutdownNow
        (·.shutdownAssociationNow t.client) (fun v => quiet_shutdownAssociationNow v t.client)
          .shutdownNow).lock).enterHeld rfl
  | drain =>
      dsimp only
      split
      · have hskipped : Seated w (w.contact t.client .completionSkipped) task
            (Around t.client frames) := haround.locks fun _ => rfl
        exact hskipped.enterHeld rfl
      · refine (haround.locks fun _ => ?_).hold ?_ <;> rfl
  | release => exact (haround.locks (lock?_releaseForTeardown w t.client)).enterHeld rfl
  | awaitEndpoint =>
      dsimp only
      split
      next => exact haround.enterHeld rfl
      next endpoint hendpoint =>
        split
        · have hskipped : Seated w (w.contact t.client (.endpointSkipped endpoint)) task
              (Around t.client frames) := haround.locks fun _ => rfl
          exact hskipped.enterHeld rfl
        · refine (haround.locks fun _ => ?_).hold ?_ <;> rfl
  | finish outcome => exact (haround.locks (lock?_recordOutcome w t.client outcome)).release

/-! ## Steps -/

theorem lands_makeCall {call : Call} (h : Seated w w task (Claims (.call call) frames)) :
    Lands w (w.makeCall task call frames) task := by
  cases call with
  | getChannel client => exact h.ask rfl rfl
  | connect => exact lands_connect h
  | openChannel => exact lands_openChannel h
  | supply => exact lands_supply h
  | clientSupply => exact lands_clientSupply h
  | execute => exact lands_execute h
  | operate => exact lands_operate h
  | close client => exact h.ask rfl rfl
  | teardown => exact lands_runStage h
  | behave => exact lands_behave h
  | awaitCompletion => exact lands_awaitCompletion h
  | awaitClosed => exact lands_awaitClosed h
  | awaitLocal => exact h.push rfl fun _ => rfl
  | own => exact lands_runOwned h
  | spawn => exact h.stay rfl (lock?_spawn w _ _ _ _)
  | await => exact h.stay rfl fun _ => rfl
  | awaitDrained => exact h.stay rfl fun _ => rfl

theorem lands_startOperation {handler : HandlerId} {operation : OperationId} {routine : Routine}
    {user : Option ClientId}
    (h : Seated w w task
      (Claims (.reply reply) (.supply handler operation routine user :: frames))) :
    Lands w (w.startOperation task handler operation routine user reply frames) task := by
  unfold World.startOperation
  split
  · exact h.inner rfl (fun _ => rfl) (List.forall_mem_cons.2
      ⟨.inr rfl, fun _ hmem => .inl (List.mem_cons_of_mem _ hmem)⟩)
  · exact h.pop rfl rfl fun _ => rfl

theorem lands_startBody {operation : OperationId} {body : Script} {site : Site}
    (h : Seated w w task (Claims (.reply reply) (.opening operation body site :: frames))) :
    Lands w (w.startBody task operation body site frames) task := by
  unfold World.startBody
  split
  · exact h.pop rfl rfl fun _ => rfl
  · exact h.inner rfl (fun _ => rfl) (List.forall_mem_cons.2
      ⟨.inr rfl, fun _ hmem => .inl (List.mem_cons_of_mem _ hmem)⟩)

/-- A reply is handed to the innermost frame. A close that gets the lock of an open client has
it. -/
theorem lands_resume {frame : Frame}
    (hclose : ∀ {client interrupt}, frame = .closeLock client interrupt →
      Lands w (w.lockedClose task client interrupt frames) task)
    (h : Seated w w task (Claims (.reply reply) (frame :: frames))) :
    Lands w (w.resume task frame reply frames) task := by
  cases frame with
  | getLock => exact lands_lockedChannel h
  | creation => exact lands_created h
  | channel => exact lands_opened h
  | closeLock => exact hclose rfl
  | recordLock => exact lands_recordFailure h
  | background client =>
      refine h.pop rfl rfl fun other => ?_
      cases reply <;> rfl
  | supply => exact lands_startOperation h
  | opening => exact lands_startBody h
  | teardown t pause =>
      have haround : Seated w w task (Around t.client frames) := h.framed rfl rfl
      exact (haround.locks (quiet_pauseEnded w t pause reply).lock).enterHeld rfl
  | localRequest =>
      exact h.inner rfl (fun _ => rfl) (List.forall_mem_cons.2
        ⟨.inr rfl, fun _ hmem => .inl (List.mem_cons_of_mem _ hmem)⟩)
  | localTasks endpoint => exact h.pop rfl rfl (quiet_finishLocal w endpoint).lock
  | closeJoin | keep | supplied | operation | script | nested | behaviour | completion
  | endpointClosed | owned => exact h.pop rfl rfl fun _ => rfl

/-- A panic passes the innermost frame or is caught by it. -/
theorem lands_unwind {frame : Frame} {content : Panic}
    (h : Seated w w task (Claims (.unwind content) (frame :: frames))) :
    Lands w (w.unwind task frame content frames) task := by
  cases frame with
  | creation | channel =>
      have haround : Seated w w task (Around _ frames) := h.framed rfl rfl
      exact haround.release
  | teardown t pause =>
      have haround : Seated w w task (Around t.client frames) := h.framed rfl rfl
      exact (haround.locks (quiet_pausePanicked w t pause content).lock).enterHeld rfl
  | getLock | closeLock | recordLock | supply | opening | operation | closeJoin | background | keep
  | supplied | script | nested | behaviour | completion | endpointClosed | localRequest
  | localTasks | owned => exact h.pop rfl rfl fun _ => rfl

end Remoting.World
