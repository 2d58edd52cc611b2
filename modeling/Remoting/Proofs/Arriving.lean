import Remoting.Proofs.Tickets

/-!
# What comes from outside

From outside a handler is only told something: to stop, to cancel its operations, or that a channel
has closed. `actDeeds` lists what an action tells a handler, and `Builds` says what a new client
changes. What lasts, lasts under every action, also under one that reaches into a record.
-/

namespace Remoting

namespace World

variable {lines : LogLine → Prop} {handler : HandlerId} {w v u : World} {task : TaskId}

/-! ## From outside -/

/-- The deeds of an action, as one handler sees them. -/
def actDeeds (w : World) (handler : HandlerId) : Action → List Deed
  | .stop own => deedsAt own handler [.stop]
  | .shutdownNow own => deedsAt own handler [.stop, .cancel .closing]
  | .channelClosed own channel cause => deedsAt own handler [.cancel (.channelClosed channel cause)]
  | .fire client strategy channel cause =>
    match w.clients[client]? with
    | some c =>
      if strategy < c.strategies.length then
        w.clientDeeds client handler [.cancel (.channelClosed channel cause)]
      else []
    | none => []
  | .handlerShutdown client => w.clientDeeds client handler [.stop]
  | .handlerShutdownNow client => w.clientDeeds client handler [.stop, .cancel .closing]
  | _ => []

theorem tells_clientDeeds {deeds : List Deed} (h : ∀ deed ∈ deeds, deed.Tells) (w : World)
    (client : ClientId) (handler : HandlerId) :
    ∀ deed ∈ w.clientDeeds client handler deeds, deed.Tells := by
  unfold clientDeeds deedsAt
  split
  · split
    · exact h
    · exact Deed.tells_nil
  · exact Deed.tells_nil

theorem tells_deedsAt {deeds : List Deed} (h : ∀ deed ∈ deeds, deed.Tells)
    (own handler : HandlerId) :
    ∀ deed ∈ deedsAt own handler deeds, deed.Tells := by
  unfold deedsAt
  split
  · exact h
  · exact Deed.tells_nil

theorem tells_closing : ∀ deed ∈ [Deed.stop, .cancel .closing], deed.Tells := by
  intro deed hdeed
  rcases List.mem_pair.1 hdeed with rfl | rfl <;> trivial

theorem tells_stop : ∀ deed ∈ [Deed.stop], deed.Tells := by
  intro deed hdeed
  rw [List.mem_singleton.1 hdeed]
  trivial

theorem tells_cancel (notice : Notice) : ∀ deed ∈ [Deed.cancel notice], deed.Tells := by
  intro deed hdeed
  rw [List.mem_singleton.1 hdeed]
  trivial

/-- From outside a handler is only told something. -/
theorem tells_actDeeds (w : World) (handler : HandlerId) (action : Action) :
    ∀ deed ∈ w.actDeeds handler action, deed.Tells := by
  unfold actDeeds
  split
  · exact tells_deedsAt tells_stop _ _
  · exact tells_deedsAt tells_closing _ _
  · exact tells_deedsAt (tells_cancel _) _ _
  · split
    · split
      · exact tells_clientDeeds (tells_cancel _) w _ _
      · exact Deed.tells_nil
    · exact Deed.tells_nil
  · exact tells_clientDeeds tells_stop w _ _
  · exact tells_clientDeeds tells_closing w _ _
  · exact Deed.tells_nil

/-- A look at a receiver does not make a record admit operations. -/
theorem wanes_pollReceiver (tracker : Tracker) (id : OperationId) :
    tracker.Wanes (tracker.pollReceiver id).2 := by
  unfold Tracker.pollReceiver
  split <;> exact fun hr => ⟨hr, Nat.le_refl _⟩

/-- Nor does the end of an operation. -/
theorem wanes_dropTicket (tracker : Tracker) (id : OperationId) :
    tracker.Wanes (tracker.dropTicket id) := by
  intro hr
  unfold Tracker.dropTicket
  split
  · dsimp only
    split <;> exact ⟨hr, Nat.sub_le _ _⟩
  · exact ⟨hr, Nat.le_refl _⟩

section Actions

variable {s : Session}

/-- What a handler sees of an action on the handler of a client. -/
theorem deals_withHandler {deeds : List Deed} {act : HandlerId → Answer × Session}
    {client : ClientId} (hact : ∀ own,
      Deals lines handler (deedsAt own handler deeds) s.world (act own).2.world) :
    Deals lines handler (s.world.clientDeeds client handler deeds) s.world
      (s.withHandler client act).2.world := by
  unfold Session.withHandler Session.withClient clientDeeds association?
  cases s.world.clients[client]? with
  | none => exact .refl _
  | some c =>
      rw [Option.map_some]
      cases hassociation : c.association with
      | handler own =>
          simp only [hassociation]
          exact hact own
      | recorder plan =>
          simp only [hassociation]
          exact .refl _

theorem deals_onState (s : Session) (endpoint : EndpointId)
    (act : StateChannel → Answer × StateChannel)
    (hact : ∀ channel, channel.state.rank ≤ (act channel).2.state.rank) :
    Deals lines handler [] s.world (s.onState endpoint act).2.world := by
  unfold Session.onState
  split
  next => exact .refl _
  next owned howned =>
    show Deals lines handler [] s.world (s.world.setChannel endpoint owned (act owned.channel).2)
    have hset : Deals lines handler [] s.world
        (s.world.setLocal endpoint { owned with channel := (act owned.channel).2 }) :=
      deals_setLocal howned ⟨hact owned.channel, .inl,
        fun hdrained => ((LocalEndpoint.isDrained_iff owned).1 hdrained).2⟩
    unfold World.setChannel
    split
    · exact hset
    · exact hset.and (deals_signal _ _)

theorem rank_look? {channel channel' : StateChannel} {receiver : Nat} {changed : Bool}
    {state : EndpointState} (h : channel.look? receiver = some (changed, state, channel')) :
    channel'.state = channel.state := by
  obtain ⟨seen, -, heq⟩ := Option.map_eq_some_iff.1 h
  cases heq
  rfl

end Actions

/-- A change of another handler. -/
theorem deals_elsewhere {own : HandlerId} (hne : own ≠ handler) (w : World)
    {change : Handler → Handler} (hwanes : ∀ {h}, w.handlers[own]? = some h →
      h.tracker.Wanes (change h).tracker) :
    Deals lines handler [] w (w.modifyHandler own change) where
  toLasts := lasts_modifyHandler w own hwanes
  tracker := by
    simp only [tracker?, modifyHandler, List.getElem?_modify, if_neg hne]
    cases w.handlers[handler]? <;> rfl
  tasks := ⟨[], (List.append_nil _).symm, List.forall_mem_nil _⟩
  now := rfl
  traces := rfl
  log := .of_eq rfl

theorem deals_cancelElsewhere {own : HandlerId} (hne : own ≠ handler) (w : World)
    (hlost : MayLose lines w) (matching : ActiveOperation → Bool) (reason : Error) :
    Deals lines handler [] w (w.cancelOperations own (·.cancelWhere matching reason)).2 := by
  unfold cancelOperations
  split
  next => exact .refl w
  next h hcell =>
    refine (Deals.and ?_ (deals_undelivered _ fun id hid =>
      hlost (deaf_of_undelivered hcell _ _ hid))).and (.foldl (fun w _ => deals_signal w _) _ _)
    refine deals_elsewhere hne w fun hcell' => ?_
    rw [hcell] at hcell'
    cases hcell'
    exact Tracker.wanes_cancelWhere h.tracker matching reason

theorem deals_register {own : HandlerId} (hne : own ≠ handler) (w : World) (count : Nat) :
    Deals lines handler [] w (Session.register w own count).2 := by
  induction count generalizing w with
  | zero => exact .refl w
  | succ count ih =>
      have hone : Deals lines handler _ _ _ := deals_registerOperation w own
      rw [deedsAt, if_neg hne] at hone
      exact hone.and (ih _)

/-- What a handler sees of an action that leaves its record alone. -/
theorem deals_act (w : World) (hlost : MayLose lines w) (action : Action)
    (hspares : action.reaches? ≠ some handler) :
    Deals lines handler (w.actDeeds handler action) w (w.act action) := by
  have hrefl : Deals lines handler [] w w := .refl w
  unfold World.act
  cases action with
  | nothing | isInterrupted | unclosed => exact hrefl
  | start name call => exact deals_spawn w _ _ _
  | advanceState endpoint next =>
      refine deals_onState (.ofWorld w) endpoint _ fun channel => ?_
      show channel.state.rank ≤ (channel.advance next).2.state.rank
      rw [StateChannel.rank_advance]
      exact Nat.le_max_left _ _
  | subscribe endpoint => exact deals_onState (.ofWorld w) endpoint _ fun channel => Nat.le_refl _
  | look endpoint receiver =>
      refine deals_onState (.ofWorld w) endpoint _ fun channel => ?_
      split
      next hlook => rw [rank_look? hlook]
      next => exact Nat.le_refl _
  | spawnOwned endpoint name script =>
      have hspawn : Deals lines handler _ _ _ := deals_spawnOwned w endpoint script
      simp only [Session.act, Session.ofWorld, Session.world]
      split
      next hresult => rwa [hresult] at hspawn
      next hresult => rwa [hresult] at hspawn
  | killOwned => exact hrefl
  | closeEndpoint endpoint => exact deals_closeLocal w endpoint
  | endpointName endpoint =>
      simp only [Session.act]
      split <;> exact hrefl
  | stop own => exact deals_shutdownHandler w own
  | shutdownNow own => exact deals_shutdownHandlerNow w hlost own
  | channelClosed own channel cause => exact deals_handlerChannelClosed w hlost own channel cause
  | getChannel client => exact world_withHandle hrefl fun _ => deals_spawn w _ _ _
  | execute client =>
      exact world_withHandle hrefl fun _ => world_withHandler hrefl fun _ => deals_spawn w _ _ _
  | close client => exact world_withHandle hrefl fun _ => deals_spawn w _ _ _
  | identify => exact world_withHandle hrefl fun _ => hrefl
  | drop client =>
      refine world_withClient hrefl fun c => ?_
      split
      · show Deals lines handler [] w ((Session.ofWorld w).dropClient client).2.world
        rw [world_dropClient]
        refine Deals.and ?_ (deals_dropHandle _ client)
        exact deals_modifyClient w client _ (fun _ => rfl) (fun _ => rfl) fun _ => rfl
      · exact hrefl
  | interrupt token =>
      simp only [Session.act]
      split
      · exact hrefl
      · exact .of_same rfl rfl rfl rfl rfl rfl rfl rfl rfl rfl (List.subset_cons_self ..)
  | closeChannel channel => exact deals_closeChannel w channel
  | fire client strategy channel cause =>
      simp only [Session.act, Session.withClient, actDeeds]
      cases hc : w.clients[client]? with
      | none =>
          rw [show (Session.ofWorld w).world.clients[client]? = none from hc]
          exact hrefl
      | some c =>
          rw [show (Session.ofWorld w).world.clients[client]? = some c from hc]
          dsimp only
          split
          · exact deals_associationChannelClosed w hlost client channel cause
          · exact hrefl
  | addDisposer => exact world_withClient hrefl fun c => deals_addDisposer w _ _
  | releaseConfig => exact world_withClient hrefl fun c => deals_releaseConfig w _
  | supply => exact world_withClient hrefl fun _ => deals_spawn w _ _ _
  | handlerExecute => exact world_withHandler hrefl fun _ => deals_spawn w _ _ _
  | handlerShutdown client =>
      exact deals_withHandler (s := .ofWorld w) fun own => deals_shutdownHandler w own
  | handlerShutdownNow client =>
      exact deals_withHandler (s := .ofWorld w) fun own => deals_shutdownHandlerNow w hlost own
  | register own count => exact deals_register (fun heq => hspares (congrArg some heq)) w count
  | bind own operation channel =>
      have hbind : Deals lines handler _ _ _ := deals_bindOperation w own operation channel
      rwa [deedsAt, if_neg fun heq => hspares (congrArg some heq)] at hbind
  | cancelAll own reason =>
      exact deals_cancelElsewhere (fun heq => hspares (congrArg some heq)) w hlost
        (fun _ => true) reason
  | cancelChannel own channel reason =>
      exact deals_cancelElsewhere (fun heq => hspares (congrArg some heq)) w hlost
        (·.channel = some channel) reason
  | dropTicket own operation =>
      refine Deals.and ?_ (deals_signal _ _)
      refine deals_elsewhere (fun heq => hspares (congrArg some heq)) w fun _ => ?_
      exact wanes_dropTicket _ operation
  | dropReceiver own operation =>
      refine Deals.and ?_ (deals_signal _ _)
      exact deals_elsewhere (fun heq => hspares (congrArg some heq)) w fun _ hr =>
        ⟨hr, Nat.le_refl _⟩
  | pollReceiver own operation =>
      simp only [Session.act]
      split
      next receiver tracker hpoll =>
        show Deals lines handler [] w (w.modifyHandler own fun h => { h with tracker })
        refine deals_elsewhere (fun heq => hspares (congrArg some heq)) w fun {h} hcell => ?_
        have hown : (Session.ofWorld w).tracker own = h.tracker := by
          simp only [Session.tracker,
            show (Session.ofWorld w).world.handlers[own]? = some h from hcell]
        rw [hown] at hpoll
        have hwanes := wanes_pollReceiver h.tracker operation
        rwa [hpoll] at hwanes
      next => exact hrefl

/-! ## New clients and helpers -/

/-- Handlers that are added keep the others. -/
theorem lasts_addHandler (w : World) (supplier : Supplier) : Lasts w (w.addHandler supplier).2 where
  ended h := h
  association h := h
  config h := ⟨_, h, rfl, fun hr => hr⟩
  endpoint h := ⟨_, h, .refl _⟩
  wanes {handler tracker} h := by
    obtain ⟨cell, hcell, rfl⟩ := Option.map_eq_some_iff.1 h
    refine ⟨cell.tracker, ?_, .refl _⟩
    show ((w.handlers ++ [_])[handler]?).map _ = _
    rw [List.getElem?_append_left (List.getElem?_eq_some_iff.1 hcell).1, hcell]
    rfl
  released := .inl
  registered h := h.of_eq rfl rfl
  tokens := List.Subset.refl _

theorem lasts_addConfig (w : World) (config : Config) : Lasts w (w.addConfig config).2 where
  ended h := h
  association h := h
  config {client cell} h := by
    obtain ⟨c, hc, hcell⟩ := Option.bind_eq_some_iff.1 h
    refine ⟨cell, ?_, rfl, fun hr => hr⟩
    show (w.clients[client]?).bind _ = _
    rw [hc]
    show (w.configs ++ [_])[c.config]? = _
    rw [List.getElem?_append_left (List.getElem?_eq_some_iff.1 hcell).1, hcell]
  endpoint h := ⟨_, h, .refl _⟩
  wanes h := ⟨_, h, .refl _⟩
  released := .inl
  registered h := h.of_eq rfl rfl
  tokens := List.Subset.refl _

theorem lasts_placeClient (w : World) {c : Client} (hopen : c.closed = false) :
    Lasts w (w.placeClient c) where
  ended h := h
  association {client association} h := by
    obtain ⟨c', hc, rfl⟩ := Option.map_eq_some_iff.1 h
    show ((w.clients ++ [c])[client]?).map _ = _
    rw [List.getElem?_append_left (List.getElem?_eq_some_iff.1 hc).1, hc]
    rfl
  config {client cell} h := by
    obtain ⟨c', hc, hcell⟩ := Option.bind_eq_some_iff.1 h
    refine ⟨cell, ?_, rfl, fun hr => hr⟩
    show ((w.clients ++ [c])[client]?).bind _ = _
    rw [List.getElem?_append_left (List.getElem?_eq_some_iff.1 hc).1, hc]
    exact hcell
  endpoint h := ⟨_, h, .refl _⟩
  wanes h := ⟨_, h, .refl _⟩
  released := .inl
  registered h := h.placeClient hopen
  tokens := List.Subset.refl _

/-- What a new client changes: there may be one more handler, without operations. -/
structure Builds (w u : World) : Prop extends Lasts w u where
  tasks : u.tasks = w.tasks
  now : u.now = w.now
  log : u.log = w.log
  tracker : ∀ handler, u.tracker? handler = w.tracker? handler ∨
    w.tracker? handler = none ∧ u.tracker? handler = some .empty

theorem Builds.trans (h : Builds w v) (h' : Builds v u) : Builds w u where
  toLasts := h.toLasts.trans h'.toLasts
  tasks := h'.tasks.trans h.tasks
  now := h'.now.trans h.now
  log := h'.log.trans h.log
  tracker handler := by
    rcases h'.tracker handler with heq | ⟨hnone, hempty⟩
    · rw [heq]
      exact h.tracker handler
    · rcases h.tracker handler with heq | ⟨-, hempty'⟩
      · exact .inr ⟨heq.symm.trans hnone, hempty⟩
      · rw [hempty'] at hnone
        cases hnone

/-- A change that leaves tasks, clock, log and handlers alone. -/
theorem Lasts.builds (h : Lasts w u) (tasks : u.tasks = w.tasks) (now : u.now = w.now)
    (log : u.log = w.log) (handlers : u.handlers = w.handlers) : Builds w u :=
  ⟨h, tasks, now, log, fun handler => .inl (by rw [tracker?, tracker?, handlers])⟩

theorem builds_addSource (w : World) (source : ConfigSource) :
    Builds w (w.addSource source).2 := by
  cases source with
  | own config => exact (lasts_addConfig w config).builds rfl rfl rfl rfl
  | shared other => exact (Lasts.refl w).builds rfl rfl rfl rfl

theorem builds_addDisposers (w : World) (config : Nat) (disposers : List Disposer) :
    Builds w (w.addDisposers config disposers) := by
  induction disposers generalizing w with
  | nil => exact (Lasts.refl w).builds rfl rfl rfl rfl
  | cons disposer disposers ih =>
      refine Builds.trans ?_ (ih (w.addDisposer config disposer).2)
      have hadd : Deals (fun _ => True) 0 [] w (w.addDisposer config disposer).2 :=
        deals_addDisposer w config disposer
      refine hadd.toLasts.builds ?_ ?_ ?_ ?_ <;> unfold addDisposer <;> split <;> rfl

theorem builds_addAssociation (w : World) (client : ClientId) (recorder : Option RecorderPlan) :
    Builds w (w.addAssociation client recorder).2 := by
  cases recorder with
  | some plan => exact (Lasts.refl w).builds rfl rfl rfl rfl
  | none =>
      refine ⟨lasts_addHandler w _, rfl, rfl, rfl, fun handler => ?_⟩
      simp only [addAssociation, addHandler, tracker?]
      rcases Nat.lt_trichotomy handler w.handlers.length with hlt | rfl | hgt
      · rw [List.getElem?_append_left hlt]
        exact .inl rfl
      · exact .inr ⟨by simp, by simp⟩
      · rw [List.getElem?_eq_none (Nat.le_of_lt hgt),
          List.getElem?_eq_none (by simpa using Nat.succ_le_of_lt hgt)]
        exact .inl rfl

theorem builds_addClient (w : World) (spec : ClientSpec) (trace : AllocationTrace) :
    Builds w (w.addClient spec trace) := by
  have hsource := builds_addSource w spec.config
  unfold World.addClient
  generalize w.addSource spec.config = source at hsource ⊢
  obtain ⟨config, v⟩ := source
  have hdisposers := hsource.trans (builds_addDisposers v config spec.disposers)
  have hassociation := hdisposers.trans
    (builds_addAssociation (v.addDisposers config spec.disposers) w.clients.length spec.recorder)
  exact hassociation.trans ((lasts_placeClient _ rfl).builds rfl rfl rfl rfl)

theorem deals_help (w : World) : Deals lines handler [] w w.help := by
  have hrun : Deals lines handler [] w { w with running := true, stranded := [] } :=
    .of_same rfl rfl rfl rfl rfl rfl rfl rfl rfl rfl (List.Subset.refl _)
  exact hrun.and (.foldl deals_spawnBackgroundClose _ _)

end World

end Remoting
