import Remoting.Proofs.Changes
import Remoting.Proofs.Inner
import Remoting.Proofs.Life

/-!
# Steps that connect a client

A call for a channel changes the client only while it has the lock. Each of its steps makes one
call, or stores what a call has yielded together with the entry that says so, so the connection of a
client is at every moment the one that its calls have led to, wherever the step fails or stops.
-/

namespace Remoting.World

variable {w v u : World} {task : TaskId} {client : ClientId} {frames : List Frame} {reply : Reply}

/-! ## Open clients -/

theorem state?_eq_some {state : ClientState} :
    w.state? client = some state ↔ ∃ c, w.clients[client]? = some c ∧ c.state = state := by
  rw [state?, Option.map_eq_some_iff]

/-- What is known of an open client. -/
theorem ClientOk.of_opened {endpoint : Option EndpointId} {strategy : Option StrategyId}
    (h : w.ClientOk client) (hstate : w.state? client = some (.opened endpoint strategy)) :
    w.closed? client = some false ∧ Opened endpoint strategy (w.history client) ∧
      w.Has endpoint strategy := by
  rw [ClientOk, hstate] at h
  exact h

theorem ClientOk.opened {endpoint : Option EndpointId} {strategy : Option StrategyId}
    (hstate : w.state? client = some (.opened endpoint strategy))
    (hclosed : w.closed? client = some false)
    (hopened : Opened endpoint strategy (w.history client))
    (hhas : w.Has endpoint strategy) : w.ClientOk client := by
  rw [ClientOk, hstate]
  exact ⟨hclosed, hopened, hhas⟩

/-- A call for an open client that its connection allows. -/
theorem CallsFit.contact {endpoint : Option EndpointId} {strategy : Option StrategyId}
    {call : Contact}
    (h : w.CallsFit (some task)) (howner : w.owner? client = some task)
    (hstate : w.state? client = some (.opened endpoint strategy))
    (hopened : Opened endpoint strategy (w.history client) →
      Opened endpoint strategy (w.history client ++ [call])) :
    Proceeds task w (w.contact client call) := by
  obtain ⟨hclosed, hhistory, hhas⟩ := (h.clients client).of_opened hstate
  have hnext := hopened hhistory
  refine (work_contact w client call).proceeds h howner (fun other hother => ?_) ?_
  · rw [List.mem_singleton.1 hother]
    exact hnext.not_isTeardown (List.mem_append_right _ (List.mem_singleton_self call))
  · refine .opened hstate hclosed ?_ (hhas.parts (work_contact w client call).toParts)
    rwa [history_contact]

/-! ## Ends of a call for a channel -/

/-- Leaving the lock ends a call for a channel with a reply. -/
theorem Proceeds.endChannel (h : Proceeds task w v) (hstack : v.Stack task (.channel client) frames)
    (hreply : v.Delivers task (.channel client) reply) :
    Advances task w (v.endChannel task client reply frames) := by
  have hlocks := relocks_leaveLock v task client
  have hgrows := hlocks.continues.toGrows
  refine .goto (h.trans (hlocks.proceeds h.fits)) (.free ?_ (hstack.hold?_eq_none rfl) rfl)
  refine ⟨.channel client, hstack.keep hgrows fun hentry => by rwa [hlocks.contacts] at hentry, ?_⟩
  exact fun channel hchannel => (hreply channel hchannel).grow hgrows

/-- A call for a channel that fails. -/
theorem Proceeds.failChannel (h : Proceeds task w v)
    (hstack : v.Stack task (.channel client) frames)
    (error : Error) : Advances task w (v.endChannel task client (.error error) frames) :=
  h.endChannel hstack fun _ => nofun

/-- Leaving the lock ends a call for a channel with a panic. -/
theorem Proceeds.panicChannel (h : Proceeds task w v)
    (hstack : v.Stack task (.channel client) frames) (content : Panic) :
    Advances task w (v.panicChannel task client content frames) := by
  have hlocks := relocks_leaveLock v task client
  refine .goto (h.trans (hlocks.proceeds h.fits)) (.free ?_ (hstack.hold?_eq_none rfl) rfl)
  exact ⟨.channel client, hstack.keep hlocks.continues.toGrows fun hentry => by
    rwa [hlocks.contacts] at hentry, trivial⟩

/-- Going on with the lock to a call that holds it from its start on. -/
theorem Proceeds.enterHeld {call : Call} {hold : Hold} (h : Proceeds task w v)
    (hstack : v.Stack task (.channel client) frames) (hjob : call.job = .channel client)
    (hhold : (Control.call call).hold? = some (client, hold)) (hheld : v.Held task client hold) :
    Advances task w (v.enter task call frames) := by
  refine .goto h (.outer (by rwa [Typed, hjob]) (hstack.hold?_eq_none rfl) (fun hsome => ?_) ?_)
  · rw [hhold] at hsome
    cases hsome
    exact hheld
  · rintro t outcome heq
    cases heq
    cases hjob

/-! ## Getting the lock -/

theorem At.getChannel (h : w.At task (.call (.getChannel client)) frames) :
    Advances task w (w.getChannel task client frames) := by
  have hstack : w.Stack task (.channel client) frames := h.typed
  have hlocks := relocks_requestLock w task client
  refine .goto (hlocks.proceeds h.fits) (.free ⟨rfl, ?_⟩ ?_ rfl)
  · exact hstack.keep hlocks.continues.toGrows fun hentry => by rwa [hlocks.contacts] at hentry
  · exact List.forall_mem_cons.2 ⟨rfl, hstack.hold?_eq_none rfl⟩

/-! ## The endpoint -/

theorem work_addEndpoint (w : World) (client : ClientId) (cell : EndpointCell) :
    Work client [] w (w.addEndpoint cell).2 where
  source hsource := hsource
  strategy hcell := ⟨_, hcell, rfl, Nat.le_refl _⟩
  endpoint {endpoint _} hcell :=
    ⟨_, by
      show (w.endpoints ++ [cell])[endpoint]? = _
      rw [List.getElem?_append_left (List.getElem?_eq_some_iff.1 hcell).1, hcell], rfl, rfl⟩
  same := ⟨rfl, rfl, rfl⟩
  contacts := (List.append_nil _).symm
  owner _ := rfl
  state _ _ := rfl
  closed _ _ := rfl

theorem endpoint_addEndpoint (w : World) (cell : EndpointCell) :
    (w.addEndpoint cell).2.endpoints[(w.addEndpoint cell).1]? = some cell :=
  List.getElem?_concat_length

theorem CallsFit.addEndpoint (h : w.CallsFit (some task)) (howner : w.owner? client = some task)
    (cell : EndpointCell) : Proceeds task w (w.addEndpoint cell).2 := by
  have hwork := work_addEndpoint w client cell
  refine hwork.proceeds h howner (by simp) ?_
  refine (h.clients client).of_eq (hwork.continues (by simp)) rfl rfl ?_
  rw [hwork.history, List.append_nil]

/-- The client keeps the endpoint that was made for it. -/
theorem CallsFit.keepEndpoint (h : w.CallsFit (some task)) (howner : w.owner? client = some task)
    (hstate : w.state? client = some (.opened none none)) {endpoint : EndpointId}
    (hcell : ∃ cell, w.endpoints[endpoint]? = some cell) :
    Proceeds task w (w.keepEndpoint client endpoint) ∧
      (w.keepEndpoint client endpoint).Held task client (.endpoint endpoint) := by
  obtain ⟨c, hc, -⟩ := state?_eq_some.1 hstate
  obtain ⟨hclosed, hhistory, -⟩ := (h.clients client).of_opened hstate
  have hwork : Work client [.endpointCreated endpoint] w (w.keepEndpoint client endpoint) :=
    (work_contact w client _).trans (work_modifyClient _ client fun _ => rfl)
  have hstate' : (w.keepEndpoint client endpoint).state? client =
      some (.opened (some endpoint) none) := by
    rw [World.keepEndpoint, state?_modifyClient]
    show w.clients[client]?.map _ = _
    rw [hc]
    rfl
  have hclosed' : (w.keepEndpoint client endpoint).closed? client = some false := by
    rw [World.keepEndpoint, closed?_modifyClient]
    exact hclosed
  refine ⟨hwork.proceeds h howner (by simp [Contact.isTeardown]) ?_,
    (hwork.owner client).trans howner, hstate'⟩
  refine .opened hstate' hclosed' ?_ ⟨fun he => ?_, fun hs => ?_⟩
  · rw [hwork.history]
    exact .endpointCreated endpoint hhistory
  · cases he
    exact hcell
  · cases hs

/-- The factory makes the endpoint of a client that has none. -/
theorem CallsFit.createEndpoint (h : w.CallsFit (some task)) (hfresh : task < w.nextTask)
    (howner : w.owner? client = some task) (hstate : w.state? client = some (.opened none none))
    (hstack : w.Stack task (.channel client) frames) (c : Client) (name : String) :
    Advances task w (w.createEndpoint task client c name frames) := by
  have hcontact : Proceeds task w (w.contact client .createEndpoint) :=
    h.contact howner hstate .createEndpoint
  unfold World.createEndpoint
  dsimp only
  split
  next =>
    have hadd := hcontact.trans (hcontact.fits.addEndpoint howner
      ⟨LocalEndpoint.fresh name, some client, none⟩)
    obtain ⟨hkeep, hheld⟩ := hadd.fits.keepEndpoint howner hstate
      ⟨_, endpoint_addEndpoint (w.contact client .createEndpoint) _⟩
    exact (hadd.trans hkeep).enterHeld (hstack.grow (hadd.trans hkeep).toGrows hfresh) rfl rfl hheld
  next =>
    have hcount : Quiet (w.contact client .createEndpoint)
        (((w.contact client .createEndpoint).modifyClient client fun c =>
          { c with endpointCalls := c.endpointCalls + 1 }).emit (.createEndpoint name)) := by
      refine .trans ?_ (quiet_emit _ _)
      exact quiet_modifyClient _ client (fun _ => rfl) (fun _ => rfl) (fun _ => rfl)
    have hcalled := hcontact.trans (hcount.proceeds hcontact.fits)
    have howner' := (hcount.owner client).trans howner
    have hstate' := (hcount.state client).trans hstate
    split
    next => exact hcalled.failChannel (hstack.grow hcalled.toGrows hfresh) _
    next => exact hcalled.panicChannel (hstack.grow hcalled.toGrows hfresh) _
    next =>
      generalize (((w.contact client .createEndpoint).modifyClient client fun c =>
        { c with endpointCalls := c.endpointCalls + 1 }).emit (.createEndpoint name)) = v at *
      generalize c.factory.endpoint c.endpointCalls = plan
      have hcell := endpoint_addEndpoint v ⟨LocalEndpoint.fresh name, some client, some plan⟩
      have hadd := hcalled.trans (hcalled.fits.addEndpoint howner'
        ⟨LocalEndpoint.fresh name, some client, some plan⟩)
      -- the tasks of the endpoint start before the client keeps it
      obtain ⟨halike, hstarted⟩ := startOwned_spec hadd.fits v.endpoints.length plan.tasks
      have hstart : Proceeds task w _ := hadd.trans ⟨halike.continues, hstarted⟩
      obtain ⟨hkeep, hheld⟩ := hstart.fits.keepEndpoint ((halike.owner client).trans howner')
        ((halike.state client).trans hstate') (halike.exists_endpoint ⟨_, hcell⟩)
      exact (hstart.trans hkeep).enterHeld (hstack.grow (hstart.trans hkeep).toGrows hfresh) rfl rfl
        hheld

/-- A call for a channel that has got the lock goes on at the first piece that is missing. -/
theorem At.lockedChannel (h : w.At task (.reply reply) (.getLock client :: frames)) :
    Advances task w (w.lockedChannel task client frames) := by
  obtain ⟨job, rfl, hstack, howner⟩ := h.reply
  have hproceeds := (Quiet.refl w).proceeds h.fits
  unfold World.lockedChannel
  split
  next c cell hc _ =>
    have hstate : w.state? client = some c.state := state?_eq_some.2 ⟨c, hc, rfl⟩
    split
    next => exact hproceeds.failChannel hstack _
    next hopened =>
      rw [hopened] at hstate
      exact hproceeds.enterHeld hstack rfl rfl ⟨howner, _, hstate⟩
    next hopened =>
      rw [hopened] at hstate
      exact hproceeds.enterHeld hstack rfl rfl ⟨howner, hstate⟩
    next hopened =>
      rw [hopened] at hstate
      exact h.fits.createEndpoint h.fresh howner hstate hstack c _
  next => exact hproceeds.failChannel hstack _

/-! ## The strategy -/

/-- The lock that a call holds from its start on. -/
theorem At.callHeld {call : Call} {hold : Hold} (h : w.At task (.call call) frames)
    (hhold : (Control.call call).hold? = some (client, hold)) : w.Held task client hold :=
  h.active.callHolds hhold

/-- The lock that the innermost enclosing call holds. -/
theorem At.frameHeld {control : Control} {frame : Frame} {hold : Hold}
    (h : w.At task control (frame :: frames)) (hhold : frame.hold? = some (client, hold)) :
    w.Held task client hold :=
  h.active.frameHolds (List.mem_cons_self ..) hhold

/-- The factory is called for a strategy. -/
theorem At.connect {endpoint : EndpointId}
    (h : w.At task (.call (.connect client endpoint)) frames) :
    Advances task w (w.connect task client endpoint frames) := by
  have hstack : w.Stack task (.channel client) frames := h.typed
  obtain ⟨howner, hstate⟩ := h.callHeld rfl
  have hproceeds := (Quiet.refl w).proceeds h.fits
  unfold World.connect
  split
  next c cell hc _ =>
    split
    next => exact hproceeds.failChannel hstack _
    next settings _ =>
      have hcontact : Proceeds task w (w.contact client (.createStrategy endpoint)) :=
        h.fits.contact howner hstate .createStrategy
      have hcount : Quiet (w.contact client (.createStrategy endpoint))
          ((w.contact client (.createStrategy endpoint)).modifyClient client fun c =>
            { c with strategyCalls := c.strategyCalls + 1 }) :=
        quiet_modifyClient _ client (fun _ => rfl) (fun _ => rfl) (fun _ => rfl)
      have hcalled := hcontact.trans (hcount.proceeds hcontact.fits)
      dsimp only
      split
      next => exact hcalled.panicChannel (hstack.grow hcalled.toGrows h.fresh) _
      next =>
        have hemit := quiet_emit ((w.contact client (.createStrategy endpoint)).modifyClient client
          fun c => { c with strategyCalls := c.strategyCalls + 1 })
          (.createStrategy cell.config settings)
        have hcalled := hcalled.trans (hemit.proceeds hcalled.fits)
        have hstack' := hstack.grow hcalled.toGrows h.fresh
        refine .goto hcalled (.holding ⟨.inr ⟨_, rfl⟩, hstack'⟩ rfl rfl ?_
          (hstack.hold?_eq_none rfl) nofun)
        exact ⟨((hcount.trans hemit).owner client).trans howner,
          ((hcount.trans hemit).state client).trans hstate⟩
  next => exact hproceeds.failChannel hstack _

theorem work_addStrategy (w : World) (client : ClientId) (cell : StrategyCell) :
    Work client [] w { w with strategies := w.strategies ++ [cell] } where
  source hsource := hsource
  strategy {strategy _} hcell :=
    ⟨_, by
      show (w.strategies ++ [cell])[strategy]? = _
      rw [List.getElem?_append_left (List.getElem?_eq_some_iff.1 hcell).1, hcell], rfl,
      Nat.le_refl _⟩
  endpoint hcell := ⟨_, hcell, rfl, rfl⟩
  same := ⟨rfl, rfl, rfl⟩
  contacts := (List.append_nil _).symm
  owner _ := rfl
  state _ _ := rfl
  closed _ _ := rfl

/-- The client keeps the strategy that was made for it over its endpoint. -/
theorem CallsFit.keepStrategy {endpoint : EndpointId} (h : w.CallsFit (some task))
    (hheld : w.Held task client (.endpoint endpoint)) (plan : StrategyPlan) :
    Proceeds task w (w.keepStrategy client endpoint plan).2 ∧
      (w.keepStrategy client endpoint plan).2.Held task client
        (.strategy (w.keepStrategy client endpoint plan).1) := by
  obtain ⟨howner, hstate⟩ := hheld
  obtain ⟨c, hc, -⟩ := state?_eq_some.1 hstate
  obtain ⟨hclosed, hhistory, hhas⟩ := (h.clients client).of_opened hstate
  have hwork : Work client [.strategyCreated w.strategies.length] w
      (w.keepStrategy client endpoint plan).2 := by
    refine Work.trans (work_addStrategy w client ⟨client, plan, 0, none⟩) ?_
    exact (work_contact _ client _).trans (work_modifyClient _ client fun _ => rfl)
  have hstate' : (w.keepStrategy client endpoint plan).2.state? client =
      some (.opened (some endpoint) (some w.strategies.length)) := by
    simp only [World.keepStrategy, state?_modifyClient]
    show w.clients[client]?.map _ = _
    rw [hc]
    rfl
  have hclosed' : (w.keepStrategy client endpoint plan).2.closed? client = some false := by
    simp only [World.keepStrategy, closed?_modifyClient]
    exact hclosed
  refine ⟨hwork.proceeds h howner (by simp [Contact.isTeardown]) ?_,
    (hwork.owner client).trans howner, _, hstate'⟩
  refine .opened hstate' hclosed' ?_ ⟨(hhas.parts hwork.toParts).endpoint, fun hs => ?_⟩
  · rw [hwork.history]
    exact .strategyCreated _ hhistory
  · cases hs
    exact ⟨_, List.getElem?_concat_length⟩

theorem Held.quiet {hold : Hold} (h : w.Held task client hold) (hquiet : Quiet w u) :
    u.Held task client hold :=
  h.alike hquiet.toAlike

/-- The factory has taken its time to make a strategy. -/
theorem At.created {endpoint : EndpointId} {plan : StrategyPlan}
    (h : w.At task (.reply reply) (.creation client endpoint plan :: frames)) :
    Advances task w (w.created task client endpoint plan reply frames) := by
  obtain ⟨job, -, hstack, -⟩ := h.reply
  have hheld : w.Held task client (.endpoint endpoint) := h.frameHeld rfl
  have hcall := quiet_callAssociation w client plan.onCreate
  unfold World.created
  split
  next => exact ((Quiet.refl w).proceeds h.fits).failChannel hstack _
  next =>
    split
    next v content hassociation =>
      rw [hassociation] at hcall
      exact (hcall.proceeds h.fits).panicChannel (hstack.alike hcall.toAlike) content
    next v hassociation =>
      rw [hassociation] at hcall
      have hproceeds := hcall.proceeds h.fits
      split
      next => exact hproceeds.failChannel (hstack.alike hcall.toAlike) _
      next =>
        obtain ⟨hkeep, hheld'⟩ := hproceeds.fits.keepStrategy (hheld.quiet hcall) plan
        exact (hproceeds.trans hkeep).enterHeld
          (hstack.grow (hproceeds.trans hkeep).toGrows h.fresh) rfl rfl hheld'

/-! ## The channel -/

/-- A strategy that is asked for a channel has been asked for it. -/
theorem asked_modifyStrategy {strategy : StrategyId} {cell : StrategyCell}
    (hcell : w.strategies[strategy]? = some cell) :
    (w.modifyStrategy strategy fun s => { s with calls := s.calls + 1 }).Asked strategy
      (cell.plan.channel cell.calls).channel (cell.plan.channel cell.calls).behaviour.ending := by
  refine ⟨{ cell with calls := cell.calls + 1 }, cell.calls, ?_, Nat.lt_succ_self _, rfl, rfl⟩
  simp [modifyStrategy, hcell]

/-- The strategy is asked for a channel. -/
theorem At.openChannel {strategy : StrategyId}
    (h : w.At task (.call (.openChannel client strategy)) frames) :
    Advances task w (w.openChannel task client strategy frames) := by
  have hstack : w.Stack task (.channel client) frames := h.typed
  obtain ⟨howner, endpoint, hstate⟩ := h.callHeld rfl
  unfold World.openChannel
  split
  next => exact ((Quiet.refl w).proceeds h.fits).failChannel hstack _
  next cell hcell =>
    have hcontact : Proceeds task w (w.contact client (.channel strategy)) := by
      refine h.fits.contact howner hstate fun hopened => ?_
      obtain ⟨e, rfl⟩ := hopened.exists_endpoint rfl
      exact .channel hopened
    have hasked := asked_modifyStrategy (w := w.contact client (.channel strategy)) hcell
    have hcount : Quiet (w.contact client (.channel strategy))
        ((w.contact client (.channel strategy)).modifyStrategy strategy fun s =>
          { s with calls := s.calls + 1 }) :=
      quiet_modifyStrategy _ strategy (fun _ => rfl) fun _ => Nat.le_succ _
    have hemit := quiet_emit ((w.contact client (.channel strategy)).modifyStrategy strategy
      fun s => { s with calls := s.calls + 1 }) .strategyChannel
    have hquiet := hcount.trans hemit
    have hcalled := hcontact.trans (hquiet.proceeds hcontact.fits)
    refine .goto hcalled (.holding ⟨⟨_, hasked.grow hemit.toAlike.grows, .inl rfl⟩,
      hstack.grow hcalled.toGrows h.fresh⟩ rfl rfl ?_ (hstack.hold?_eq_none rfl) nofun)
    exact ⟨(hquiet.owner client).trans howner, endpoint, (hquiet.state client).trans hstate⟩

/-- The strategy has taken its time to yield a channel. -/
theorem At.opened {strategy : StrategyId} {channel : ChannelId}
    (h : w.At task (.reply reply) (.channel client strategy channel :: frames)) :
    Advances task w (w.opened task client strategy channel reply frames) := by
  obtain ⟨job, ⟨ending, hasked, hjob⟩, hstack, hdelivers⟩ := h.reply
  obtain ⟨howner, endpoint, hstate⟩ := h.frameHeld rfl
  unfold World.opened
  split
  next => exact ((Quiet.refl w).proceeds h.fits).failChannel hstack _
  next value =>
    have hquiet : Quiet w (w.modifyStrategy strategy fun s => { s with current := some channel }) :=
      quiet_modifyStrategy w strategy (fun _ => rfl) fun _ => Nat.le_refl _
    refine (hquiet.proceeds h.fits).endChannel (hstack.alike hquiet.toAlike) fun other hother => ?_
    cases hother
    -- the strategy was made for the client, and the call for this channel has succeeded
    obtain ⟨-, hopened, -⟩ := (h.fits.clients client).of_opened hstate
    have hcreated := (hopened.strategyCreated_iff strategy).2 rfl
    refine Yielded.grow hquiet.toAlike.grows ⟨strategy, mem_history.1 hcreated, ?_⟩
    rcases hjob with rfl | rfl
    · rcases hdelivers with ⟨_, -, rfl⟩ | ⟨_, hreply, -⟩
      · exact hasked
      · cases hreply
    · cases hdelivers

end Remoting.World
