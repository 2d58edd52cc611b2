import Remoting.Proofs.ClosesOnly
import Remoting.Proofs.Moments

/-!
# The loss of handles

A handle of a client is dropped by the user or goes with the task that holds it. This module says
what such a drop changes, and what moves do that come from outside: they pass, or start a call with
a handle of a client, or drop the user's handle.
-/

namespace Remoting

/-- Whether an action starts a call that may close a client without a handle of it. -/
def Action.mayClose (client : ClientId) : Action → Bool
  | .start _ call => call.mayClose client
  | _ => false

/-- Whether an action sets the state of an endpoint by hand. -/
def Action.sets (endpoint : EndpointId) : Action → Bool
  | .advanceState other _ => other = endpoint
  | _ => false

namespace World

variable {may : ClientId → Bool} {shut : EndpointId → Prop} {w v u : World} {task : TaskId}

/-! ## Endpoints -/

theorem endpoints_reportLeak (w : World) (client : ClientId) (trace : AllocationTrace) :
    (w.reportLeak client trace).1.endpoints = w.endpoints := by
  unfold reportLeak
  split <;> rfl

theorem endpoints_spawnBackgroundClose (w : World) (client : ClientId) :
    (w.spawnBackgroundClose client).endpoints = w.endpoints := by
  unfold spawnBackgroundClose
  split <;> rfl

theorem endpoints_dropHandle (w : World) (client : ClientId) :
    (w.dropHandle client).1.endpoints = w.endpoints := by
  unfold dropHandle
  split
  next => rfl
  next c _ =>
    split
    next => rfl
    next =>
      have hreport := w.endpoints_reportLeak client c.trace
      split
      next hresult => rwa [hresult] at hreport
      next hresult =>
        rw [hresult] at hreport
        exact (endpoints_spawnBackgroundClose _ client).trans hreport

theorem endpoints_dropHeld (w : World) (finish : Finish) (handle : Option ClientId) :
    (w.dropHeld finish handle).1.endpoints = w.endpoints := by
  unfold dropHeld
  split
  next => rfl
  next client =>
    have hdrop := w.endpoints_dropHandle client
    split
    next hresult => rwa [hresult] at hdrop
    next hresult => rwa [hresult] at hdrop

theorem shutsOnly_finishTask (w : World) (task : TaskId) (finish : Finish) :
    ShutsOnly shut w (w.finishTask task finish) := by
  unfold finishTask
  split
  next => exact .of_eq rfl
  next t _ =>
    dsimp only
    have hdrop : ShutsOnly shut w ((w.removeTask task).dropHeld finish t.handle).1 :=
      .of_eq ((w.removeTask task).endpoints_dropHeld finish t.handle)
    have hleave : Passes (fun _ => false) shut _ _ :=
      passes_leaveOwner ((w.removeTask task).dropHeld finish t.handle).1 task t.owner
    exact (hdrop.trans hleave.toShutsOnly).trans (.of_eq rfl)

theorem shutsOnly_dropTask (w : World) (t : Task) : ShutsOnly shut w (w.dropTask t) := by
  unfold dropTask
  split
  · exact .of_eq rfl
  · have hdrop : Passes (fun _ => false) shut w _ :=
      (passes_dropControl w t.id t.control).trans (passes_dropFrames _ t.id t.frames)
    exact hdrop.toShutsOnly

theorem shutsOnly_abortTask (w : World) (task : TaskId) : ShutsOnly shut w (w.abortTask task) := by
  unfold abortTask
  split
  · exact .of_eq rfl
  · exact (shutsOnly_dropTask w _).trans (shutsOnly_finishTask _ task .aborted)

theorem shutsOnly_help (w : World) : ShutsOnly shut w w.help := by
  have hspawn : ∀ (clients : List ClientId) (v : World),
      (clients.foldl spawnBackgroundClose v).endpoints = v.endpoints := by
    intro clients
    induction clients with
    | nil => exact fun _ => rfl
    | cons client rest ih =>
        exact fun v => (ih _).trans (endpoints_spawnBackgroundClose v client)
  exact .of_eq (hspawn w.stranded _)

/-! ## Parts of polls -/

theorem passes_leaveCall (w : World) (task : TaskId) (control : Control) (cut : Cut) :
    ∃ v, w.leaveCall task control cut = v.goto task cut.control cut.outer ∧
      Passes may shut w v := by
  have hinner : Passes may shut w ((w.dropControl task control).dropFrames task cut.inner) :=
    (passes_dropControl w task control).trans (passes_dropFrames _ task cut.inner)
  unfold leaveCall
  dsimp only
  split
  · exact ⟨_, rfl, hinner⟩
  · exact ⟨_, rfl, hinner.trans (passes_dropFrame _ task _)⟩

theorem shutsOnly_cutTask (w : World) (task : TaskId) : ShutsOnly shut w (w.cutTask task) := by
  unfold cutTask
  split
  next => exact .of_eq rfl
  next t _ =>
    split
    next cut _ =>
      obtain ⟨v, heq, hpasses⟩ : ∃ v, w.leaveCall task t.control cut = _ ∧
        Passes (fun _ => false) shut w v := passes_leaveCall w task t.control cut
      rw [heq]
      exact hpasses.toShutsOnly.trans (.of_eq rfl)
    next => exact .of_eq rfl

theorem shutsOnly_expireDrain (w : World) (task : TaskId) : ShutsOnly shut w (w.expireDrain task) :=
    by
  unfold expireDrain
  split
  next => exact .of_eq rfl
  next t _ =>
    split
    next => exact .of_eq rfl
    next cut _ =>
      obtain ⟨v, heq, hpasses⟩ : ∃ v, w.leaveCall task t.control cut = _ ∧
        Passes (fun _ => false) shut w v := passes_leaveCall w task t.control cut
      have hleave : ShutsOnly shut w (w.leaveCall task t.control cut) := by
        rw [heq]
        exact hpasses.toShutsOnly.trans (.of_eq rfl)
      dsimp only
      split
      · exact hleave.trans (.of_eq rfl)
      · exact hleave

/-! ## Actions -/

/-- What an action that comes from outside can do. -/
inductive Comes (may : ClientId → Bool) (shut : EndpointId → Prop) (w : World) : World → Prop
  | passes {u : World} (h : Passes may shut w u) : Comes may shut w u
  /-- A call is started with a handle of a client. -/
  | starts {client : ClientId} {c : Client} {call : Call} (hc : w.clients[client]? = some c)
      (held : c.held = true) (closes : ∀ other, call.mayClose other = true → other = client)
      (spawns : ∀ made, call ≠ .spawn made) :
      Comes may shut w (w.spawn (.call call) [] (some client) none).2
  /-- The user drops a client. -/
  | drops {client : ClientId} {c : Client} (hc : w.clients[client]? = some c)
      (held : c.held = true) :
      Comes may shut w
        ((w.modifyClient client fun c => { c with held := false }).dropHandle client).1

theorem Comes.refl (w : World) : Comes may shut w w :=
  .passes (.refl w)

theorem comes_withClient {act : Client → Answer × Session} {client : ClientId}
    (hact : ∀ c, w.clients[client]? = some c → Comes may shut w (act c).2.world) :
    Comes may shut w (((Session.ofWorld w).withClient client act).2.world) := by
  unfold Session.withClient
  split
  next c hc => exact hact c hc
  next => exact .refl w

theorem comes_withHandle {act : Client → Answer × Session} {client : ClientId}
    (hact : ∀ c, w.clients[client]? = some c → c.held = true → Comes may shut w (act c).2.world) :
    Comes may shut w (((Session.ofWorld w).withHandle client act).2.world) := by
  refine comes_withClient fun c hc => ?_
  split
  next held => exact hact c hc held
  next => exact .refl w

theorem comes_withHandler {act : HandlerId → Answer × Session} {client : ClientId}
    (hact : ∀ handler, Comes may shut w (act handler).2.world) :
    Comes may shut w (((Session.ofWorld w).withHandler client act).2.world) := by
  refine comes_withClient fun c _ => ?_
  split
  · exact hact _
  · exact .refl w

/-- An action on the state of an endpoint that does not set it. -/
theorem passes_onState (w : World) (endpoint : EndpointId)
    (act : StateChannel → Answer × StateChannel)
    (hact : ∀ owned, w.local? endpoint = some owned →
      owned.ShutOnlyIf (shut endpoint) { owned with channel := (act owned.channel).2 }) :
    Passes may shut w (((Session.ofWorld w).onState endpoint act).2.world) := by
  unfold Session.onState
  split
  next => exact .refl w
  next owned howned =>
    show Passes may shut w (w.setChannel endpoint owned (act owned.channel).2)
    have hset : Passes may shut w
        (w.setLocal endpoint { owned with channel := (act owned.channel).2 }) :=
      passes_setLocal howned (hact owned howned)
    unfold World.setChannel
    split
    · exact hset
    · exact hset.trans (passes_signal _ _)

theorem passes_register (w : World) (handler : HandlerId) (count : Nat) :
    Passes may shut w (Session.register w handler count).2 := by
  induction count generalizing w with
  | zero => exact .refl w
  | succ count ih => exact (passes_registerOperation w handler).trans (ih _)

/-- What an action does that does not set the state of an endpoint by hand. -/
theorem comes_act (w : World) {action : Action}
    (hmay : ∀ client, action.mayClose client = true → may client = true)
    (hover : ∀ endpoint, action.sets endpoint = true → shut endpoint) :
    Comes may shut w (w.act action) := by
  unfold World.act
  cases action with
  | nothing | isInterrupted | unclosed => exact .refl w
  | start name call =>
      have hcall : ∀ client, Control.mayClose client (.call call) = true → may client = true := hmay
      exact .passes (passes_spawn w hcall none)
  | advanceState endpoint next =>
      refine .passes (passes_onState w endpoint _ fun owned _ => ?_)
      have hset : shut endpoint := hover endpoint (by simp [Action.sets])
      exact ⟨⟨[.advance next], rfl⟩, fun _ => .inr hset, fun _ => .inr hset⟩
  | subscribe endpoint =>
      exact .passes (passes_onState w endpoint _ fun owned _ => ⟨⟨[.receive], rfl⟩, .inl, .inl⟩)
  | look endpoint receiver =>
      refine .passes (passes_onState w endpoint _ fun owned _ => ?_)
      split
      next channel hlook =>
        have huse : channel = owned.channel.use (.look receiver) := by
          simp only [StateChannel.use, hlook]
        obtain ⟨seen, -, heq⟩ := Option.map_eq_some_iff.1 hlook
        cases heq
        exact ⟨⟨[.look receiver], huse⟩, .inl, .inl⟩
      next => exact .refl owned
  | spawnOwned endpoint name script =>
      have hspawn : Passes may shut w (w.spawnOwned endpoint script).2 :=
        passes_spawnOwned w endpoint script
      simp only [Session.act, Session.ofWorld, Session.world]
      split
      next hresult =>
        rw [hresult] at hspawn
        exact .passes hspawn
      next hresult =>
        rw [hresult] at hspawn
        exact .passes hspawn
  | killOwned => exact .refl w
  | closeEndpoint endpoint => exact .passes (passes_closeLocal w endpoint)
  | endpointName endpoint =>
      simp only [Session.act]
      split <;> exact .refl w
  | register handler count => exact .passes (passes_register w handler count)
  | bind | stop => exact .passes (passes_modifyHandler w _ _)
  | cancelAll handler reason =>
      exact .passes (passes_cancelOperations w handler (·.cancelAll reason))
  | cancelChannel handler channel reason =>
      exact .passes (passes_cancelOperations w handler (·.cancelChannel channel reason))
  | dropTicket | dropReceiver =>
      exact .passes ((passes_modifyHandler w _ _).trans (passes_signal _ _))
  | pollReceiver handler operation =>
      simp only [Session.act]
      split
      · exact .passes (passes_modifyHandler w handler _)
      · exact .refl w
  | shutdownNow => exact .passes (passes_shutdownHandlerNow w _)
  | channelClosed => exact .passes (passes_handlerChannelClosed w _ _ _)
  | getChannel client =>
      exact comes_withHandle fun c hc held => .starts hc held (by simp) fun _ heq => by cases heq
  | execute client =>
      exact comes_withHandle fun c hc held => comes_withHandler fun handler =>
        .starts hc held (by simp [eq_comm]) fun _ heq => by cases heq
  | close client =>
      exact comes_withHandle fun c hc held =>
        .starts hc held (by simp [eq_comm]) fun _ heq => by cases heq
  | identify => exact comes_withHandle fun _ _ _ => .refl w
  | drop client =>
      refine comes_withClient fun c hc => ?_
      split
      next held =>
        show Comes may shut w ((Session.ofWorld w).dropClient client).2.world
        rw [world_dropClient]
        exact .drops hc held
      next => exact .refl w
  | interrupt token =>
      simp only [Session.act]
      split
      · exact .refl w
      · exact .passes (.of_eq rfl rfl rfl rfl rfl rfl)
  | closeChannel channel => exact .passes (passes_closeChannel w channel)
  | fire client =>
      refine comes_withClient fun c _ => ?_
      split
      · exact .passes (passes_associationChannelClosed w client _ _)
      · exact .refl w
  | addDisposer => exact comes_withClient fun c _ => .passes (passes_addDisposer w _ _)
  | releaseConfig => exact comes_withClient fun c _ => .passes (passes_releaseConfig w _)
  | supply client =>
      have hspawn : Passes may shut w (w.spawn (.call (.clientSupply client)) [] none none).2 :=
        passes_spawn w (by simp) none
      exact comes_withClient fun c _ => .passes hspawn
  | handlerExecute client name script =>
      refine comes_withHandler fun handler => .passes ?_
      have hspawn : ∀ routine, Passes may shut w
          (w.spawn (.call (.execute handler routine none)) [] none none).2 :=
        fun routine => passes_spawn w (by simp) none
      exact hspawn _
  | handlerShutdown => exact comes_withHandler fun handler => .passes (passes_modifyHandler w _ _)
  | handlerShutdownNow =>
      exact comes_withHandler fun handler => .passes (passes_shutdownHandlerNow w handler)

/-! ## New clients -/

theorem passes_addSource (w : World) (source : ConfigSource) :
    Passes may shut w (w.addSource source).2 := by
  cases source with
  | own config => exact .of_eq rfl rfl rfl rfl rfl rfl
  | shared other => exact .refl w

theorem passes_addAssociation (w : World) (client : ClientId) (recorder : Option RecorderPlan) :
    Passes may shut w (w.addAssociation client recorder).2 := by
  cases recorder with
  | some plan => exact .refl w
  | none => exact .of_eq rfl rfl rfl rfl rfl rfl

/-- A client is made of parts that pass, and then it is placed behind all others. -/
theorem addClient_eq (w : World) (spec : ClientSpec) (trace : AllocationTrace) :
    ∃ v c, w.addClient spec trace = v.placeClient c ∧ Passes may shut w v ∧ c.held = true ∧
      c.trace = trace ∧ c.closed = false := by
  have hsource : Passes may shut w _ := passes_addSource w spec.config
  have hdisposers : Passes may shut (w.addSource spec.config).2
      ((w.addSource spec.config).2.addDisposers (w.addSource spec.config).1 spec.disposers) :=
    .foldl (fun v disposer => passes_addDisposer v (w.addSource spec.config).1 disposer) _
      spec.disposers
  exact ⟨_, _, rfl, (hsource.trans hdisposers).trans (passes_addAssociation _ _ spec.recorder), rfl,
    rfl, rfl⟩

end World

end Remoting
