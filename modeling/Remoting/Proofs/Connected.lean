import Remoting.Proofs.Returning

/-!
# One connection

A client has at most one endpoint and one strategy in its whole life. A call for a channel holds the
lock of its client from the moment when it asks the factory for a strategy on, and what a call has
made stays with the client, whether that call fails, panics or is stopped: the next one goes on from
there.
-/

namespace Remoting

namespace Contact

/-- Whether an entry says that the factory has yielded an endpoint. -/
def yieldsEndpoint : Contact → Bool
  | .endpointCreated _ => true
  | _ => false

/-- Whether an entry says that the factory has yielded a strategy. -/
def yieldsStrategy : Contact → Bool
  | .strategyCreated _ => true
  | _ => false

/-- Whether an entry may come after another one in the history of a client: the factory is not asked
again for what it has yielded. -/
def mayFollow : Contact → Contact → Bool
  | .createEndpoint, .endpointCreated _ | .createEndpoint, .strategyCreated _
  | .createStrategy _, .strategyCreated _ => false
  | _, _ => true

end Contact

/-- Whether a frame is a call of the factory for a strategy of a client. -/
def Frame.creates (client : ClientId) : Frame → Bool
  | .creation creator _ _ => creator = client
  | _ => false

/-- The calls of a client connect it at most once. -/
structure ConnectedOnce (calls : List Contact) : Prop where
  endpoint : calls.countP Contact.yieldsEndpoint ≤ 1
  strategy : calls.countP Contact.yieldsStrategy ≤ 1
  notAgain : calls.Pairwise fun earlier later => later.mayFollow earlier = true
  given : ∀ {e : EndpointId}, .createStrategy e ∈ calls → .endpointCreated e ∈ calls
  asked : ∀ {s : StrategyId}, .channel s ∈ calls → .strategyCreated s ∈ calls

namespace Opened

variable {endpoint : Option EndpointId} {strategy : Option StrategyId} {calls : List Contact}

theorem countP_yieldsEndpoint (h : Opened endpoint strategy calls) :
    calls.countP Contact.yieldsEndpoint = endpoint.toList.length := by
  induction h with
  | fresh => rfl
  | createEndpoint _ ih | endpointCreated _ _ ih | createStrategy _ ih | strategyCreated _ _ ih
  | channel _ ih => rw [List.countP_append, ih]; rfl

theorem countP_yieldsStrategy (h : Opened endpoint strategy calls) :
    calls.countP Contact.yieldsStrategy = strategy.toList.length := by
  induction h with
  | fresh => rfl
  | createEndpoint _ ih | endpointCreated _ _ ih | createStrategy _ ih | strategyCreated _ _ ih
  | channel _ ih => rw [List.countP_append, ih]; rfl

/-- An entry can be added to a history in which it may come after every other one. -/
theorem pairwise_snoc {call : Contact}
    (h : calls.Pairwise fun earlier later => later.mayFollow earlier = true)
    (hcall : ∀ earlier ∈ calls, call.mayFollow earlier = true) :
    (calls ++ [call]).Pairwise fun earlier later => later.mayFollow earlier = true := by
  refine List.pairwise_append.2
    ⟨h, List.pairwise_singleton _ _, fun earlier hearlier later hlater => ?_⟩
  rw [List.mem_singleton.1 hlater]
  exact hcall earlier hearlier

/-- What a factory has yielded it is not asked for again. -/
theorem pairwise_mayFollow (h : Opened endpoint strategy calls) :
    calls.Pairwise fun earlier later => later.mayFollow earlier = true := by
  induction h with
  | fresh => exact .nil
  | endpointCreated _ _ ih | strategyCreated _ _ ih | channel _ ih =>
      exact pairwise_snoc ih fun _ _ => rfl
  | createEndpoint h ih =>
      refine pairwise_snoc ih fun earlier hearlier => ?_
      cases earlier with
      | endpointCreated e => cases (h.endpointCreated_iff e).1 hearlier
      | strategyCreated s => cases (h.strategyCreated_iff s).1 hearlier
      | _ => rfl
  | createStrategy h ih =>
      refine pairwise_snoc ih fun earlier hearlier => ?_
      cases earlier with
      | strategyCreated s => cases (h.strategyCreated_iff s).1 hearlier
      | _ => rfl

theorem connectedOnce (h : Opened endpoint strategy calls) : ConnectedOnce calls where
  endpoint := by
    rw [h.countP_yieldsEndpoint]
    exact Option.length_toList_le
  strategy := by
    rw [h.countP_yieldsStrategy]
    exact Option.length_toList_le
  notAgain := h.pairwise_mayFollow
  given {e} hcall := by
    induction h with
    | fresh => cases hcall
    | createEndpoint _ ih | endpointCreated _ _ ih | strategyCreated _ _ ih | channel _ ih =>
        rcases List.mem_append.1 hcall with hcall | hcall
        · exact List.mem_append_left _ (ih hcall)
        · cases List.mem_singleton.1 hcall
    | createStrategy h ih =>
        rcases List.mem_append.1 hcall with hcall | hcall
        · exact List.mem_append_left _ (ih hcall)
        · cases List.mem_singleton.1 hcall
          exact List.mem_append_left _ ((h.endpointCreated_iff e).2 rfl)
  asked {s} hcall := by
    induction h with
    | fresh => cases hcall
    | createEndpoint _ ih | endpointCreated _ _ ih | createStrategy _ ih | strategyCreated _ _ ih =>
        rcases List.mem_append.1 hcall with hcall | hcall
        · exact List.mem_append_left _ (ih hcall)
        · cases List.mem_singleton.1 hcall
    | channel h ih =>
        rcases List.mem_append.1 hcall with hcall | hcall
        · exact List.mem_append_left _ (ih hcall)
        · cases List.mem_singleton.1 hcall
          exact List.mem_append_left _ ((h.strategyCreated_iff s).2 rfl)

end Opened

/-- Calls that do not connect a client may come later. -/
theorem ConnectedOnce.append {calls later : List Contact} (h : ConnectedOnce calls)
    (hlater : ∀ call ∈ later, call.isConnecting = false) : ConnectedOnce (calls ++ later) where
  endpoint := by
    have hnone : later.countP Contact.yieldsEndpoint = 0 := by
      refine List.countP_eq_zero.2 fun call hcall => ?_
      cases call <;> first | exact Bool.false_ne_true | cases hlater _ hcall
    rw [List.countP_append, hnone]
    exact h.endpoint
  strategy := by
    have hnone : later.countP Contact.yieldsStrategy = 0 := by
      refine List.countP_eq_zero.2 fun call hcall => ?_
      cases call <;> first | exact Bool.false_ne_true | cases hlater _ hcall
    rw [List.countP_append, hnone]
    exact h.strategy
  notAgain := by
    have hfollow : ∀ (earlier : Contact) {call : Contact}, call ∈ later →
        call.mayFollow earlier = true := by
      intro earlier call hcall
      cases call <;> first | rfl | cases hlater _ hcall
    refine List.pairwise_append.2 ⟨h.notAgain, ?_, fun earlier _ call => hfollow earlier⟩
    exact List.pairwise_iff_forall_sublist.2 fun hsub => hfollow _ (hsub.subset (by simp))
  given hcall := by
    rcases List.mem_append.1 hcall with hcall | hcall
    · exact List.mem_append_left _ (h.given hcall)
    · cases hlater _ hcall
  asked hcall := by
    rcases List.mem_append.1 hcall with hcall | hcall
    · exact List.mem_append_left _ (h.asked hcall)
    · cases hlater _ hcall

namespace World

variable {w : World} {task : TaskId} {client : ClientId} {frames : List Frame} {reply : Reply}

/-- The calls of a client are those that have connected it, followed by those that close it. -/
theorem ClientOk.exists_opened (h : w.ClientOk client) :
    ∃ endpoint strategy first later, w.history client = first ++ later ∧
      Opened endpoint strategy first ∧ ∀ call ∈ later, call.isConnecting = false := by
  unfold ClientOk at h
  split at h
  next => exact ⟨none, none, [], [], h, .fresh, nofun⟩
  next endpoint strategy _ =>
    exact ⟨endpoint, strategy, _, [], (List.append_nil _).symm, h.2.1, nofun⟩
  next outcome _ =>
    obtain ⟨-, joined, t, hclosing⟩ := h
    refine ⟨_, _, _, _, hclosing.history, hclosing.opened, fun call hcall => ?_⟩
    rcases List.mem_cons.1 hcall with rfl | hcall
    · rfl
    · obtain ⟨skipDrain, skipWait, hinitial⟩ := hclosing.calls
      exact Teardown.not_isConnecting_of_mem (hinitial.subset hcall)

theorem ClientOk.connectedOnce (h : w.ClientOk client) : ConnectedOnce (w.history client) := by
  obtain ⟨endpoint, strategy, first, later, hhistory, hopened, hlater⟩ := h.exists_opened
  rw [hhistory]
  exact hopened.connectedOnce.append hlater

/-! ## Replies of a call for a channel -/

/-- A call for a channel that has just got the lock does not return a channel yet. -/
theorem lockedChannel_control {t : Task} {value : Value}
    (ht : (w.lockedChannel task client frames).task? task = some t) :
    t.control ≠ .reply (.ok value) := by
  intro hcontrol
  unfold World.lockedChannel at ht
  split at ht
  · split at ht
    · cases (of_task?_goto ht).1.symm.trans hcontrol
    · cases (of_task?_goto ht).1.symm.trans hcontrol
    · cases (of_task?_goto ht).1.symm.trans hcontrol
    · unfold World.createEndpoint at ht
      dsimp only at ht
      split at ht
      · cases (of_task?_goto ht).1.symm.trans hcontrol
      · split at ht <;> cases (of_task?_goto ht).1.symm.trans hcontrol
  · cases (of_task?_goto ht).1.symm.trans hcontrol

/-- Neither does one for which the factory has just made a strategy. -/
theorem created_control {t : Task} {endpoint : EndpointId} {plan : StrategyPlan} {value : Value}
    (ht : (w.created task client endpoint plan reply frames).task? task = some t) :
    t.control ≠ .reply (.ok value) := by
  intro hcontrol
  unfold World.created at ht
  split at ht
  · cases (of_task?_goto ht).1.symm.trans hcontrol
  · split at ht
    · cases (of_task?_goto ht).1.symm.trans hcontrol
    · split at ht <;> cases (of_task?_goto ht).1.symm.trans hcontrol

end World

namespace Moment

variable {m after : Moment} {client : ClientId} {channel : ChannelId}

/-- A call for a channel of a client returns a channel that the client's strategy has yielded. -/
theorem Returns.yielded (h : m.Reachable)
    (hreturns : m.Returns after (.channel client) (.ok (.handle channel))) :
    m.world.Yielded client channel := by
  obtain ⟨t, frame, frames, reply, -, hjob, hat, t', ht', hcontrol⟩ :=
    hreturns.resume h.fits (.inl rfl)
  cases frame with
  | getLock client' => exact absurd hcontrol (World.lockedChannel_control ht')
  | creation client' endpoint plan => exact absurd hcontrol (World.created_control ht')
  | channel client' strategy channel' =>
      cases hjob
      obtain ⟨job, ⟨ending, hasked, hending⟩, -, hdelivers⟩ := hat.reply
      cases reply with
      | error error => cases (World.of_task?_goto ht').1.symm.trans hcontrol
      | ok value =>
          cases (World.of_task?_goto ht').1.symm.trans hcontrol
          obtain ⟨endpoint, hstate⟩ := (hat.frameHeld rfl).2
          have hclient := h.clientOk client
          obtain ⟨-, hopened, -⟩ := hclient.of_opened hstate
          refine ⟨strategy, World.mem_history.1 ((hopened.strategyCreated_iff strategy).2 rfl), ?_⟩
          rcases hending with rfl | rfl
          · rcases hdelivers with ⟨-, -, rfl⟩ | ⟨error, herror, -⟩
            · exact hasked
            · cases herror
          · cases hdelivers
  | _ => cases hjob

/-- An operation is handed a channel from the source of its client's handler. -/
def Supplied (m : Moment) (client : ClientId) (channel : ChannelId) : Prop :=
  ∃ t handler operation routine user frames, m.polled? = some t ∧
    t.control = .reply (.ok (.handle channel)) ∧
    t.frames = .supply handler operation routine user :: frames ∧
    m.world.source? handler = some (some client)

/-- An operation of a client is handed a channel that the client's strategy has yielded. -/
theorem Supplied.yielded (h : m.Reachable) (hsupplied : m.Supplied client channel) :
    m.world.Yielded client channel := by
  obtain ⟨t, handler, operation, routine, user, frames, ht, hcontrol, hframes, hsource⟩ := hsupplied
  have hat := h.fits.polled ht
  rw [hcontrol, hframes] at hat
  obtain ⟨job, hawaits, -, hdelivers⟩ := hat.reply
  rcases hawaits with rfl | ⟨-, hnone⟩ | ⟨client', rfl, hclient⟩
  · exact absurd rfl (hdelivers channel)
  · rw [hsource] at hnone
    cases hnone
  · rw [hsource] at hclient
    cases hclient
    exact hdelivers channel rfl

/-- A call of the factory for a strategy holds the lock of the client. -/
theorem CallsFit.creator (h : m.CallsFit) {t : Task} (ht : t ∈ m.world.tasks) {frame : Frame}
    (hframe : frame ∈ t.frames.filter (Frame.creates client)) :
    frame.hold? ≠ none ∧ m.world.owner? client = some t.id := by
  obtain ⟨hmem, hcreates⟩ := List.mem_filter.1 hframe
  cases frame with
  | creation creator endpoint plan =>
      obtain rfl : creator = client := by simpa [Frame.creates] using hcreates
      exact ⟨nofun, ((h.taskOk ht).frameHolds hmem rfl).1⟩
  | _ => cases hcreates

/-- At every reachable moment at most one call of the factory for a strategy of a client is in
progress. -/
theorem Reachable.creations (h : m.Reachable) (client : ClientId) :
    (m.world.tasks.flatMap fun t => t.frames.filter (Frame.creates client)).length ≤ 1 := by
  obtain ⟨active, hfit⟩ := h.fits.exists_callsFit
  have hnone : (m.world.tasks.flatMap fun t => t.frames.filter (Frame.creates client)).Pairwise
      fun _ _ => False := by
    refine List.pairwise_flatMap.2 ⟨fun t ht => ?_, ?_⟩
    · -- a stack holds at most one lock
      obtain ⟨job, hstack⟩ := (h.fits.taskOk ht).typed.stack
      have hsub := hstack.pairwise.sublist (List.filter_sublist (p := Frame.creates client))
      refine hsub.imp_of_mem fun hinner houter hholds => ?_
      rcases hholds with hhold | hhold
      · exact (h.fits.creator ht hinner).1 hhold
      · exact (h.fits.creator ht houter).1 hhold
    · -- a lock has one owner
      refine (List.pairwise_map.1 hfit.nodup).imp_of_mem fun ht ht' hne => ?_
      intro frame hframe frame' hframe'
      have howner := (h.fits.creator ht hframe).2
      rw [(h.fits.creator ht' hframe').2] at howner
      exact hne (Option.some.inj howner).symm
  cases hlist : m.world.tasks.flatMap fun t => t.frames.filter (Frame.creates client) with
  | nil => exact Nat.zero_le _
  | cons first rest =>
      rw [hlist] at hnone
      cases rest with
      | nil => exact Nat.le_refl _
      | cons second rest =>
          exact ((List.pairwise_cons.1 hnone).1 second (List.mem_cons_self ..)).elim

/-- A client has one connection in its life: one strategy is made at a time, the factory yields at
most one endpoint and one strategy, and every channel that a call or an operation obtains is one
that this strategy has yielded. -/
theorem one_connection (h : m.Reachable) (client : ClientId) :
    (m.world.tasks.flatMap fun t => t.frames.filter (Frame.creates client)).length ≤ 1 ∧
      ConnectedOnce (m.world.history client) ∧
      (∀ {after channel}, m.Returns after (.channel client) (.ok (.handle channel)) →
        m.world.Yielded client channel) ∧
      ∀ {channel}, m.Supplied client channel → m.world.Yielded client channel :=
  ⟨h.creations client, (h.clientOk client).connectedOnce, fun hreturns => hreturns.yielded h,
    fun hsupplied => hsupplied.yielded h⟩

/-- Two calls for a channel of a client are started, and the first runs until its strategy has
answered. -/
def twoCallers : List Move :=
  [.build (.recorded default) default, .act (.getChannel 0 "first"), .act (.getChannel 0 "second"),
    .poll 0] ++ List.replicate 8 .step

/-- The moment after these moves. -/
def answered : Moment := (start.run twoCallers).get (by decide +kernel)

/-- The moment after the first call has returned. -/
def returned : Moment := (answered.next .step).get (by decide +kernel)

theorem one_connection_of_two_callers :
    answered.Reachable ∧ answered.Returns returned (.channel 0) (.ok (.handle 0)) ∧
      ConnectedOnce (answered.world.history 0) ∧ answered.world.Yielded 0 0 := by
  have hreach : answered.Reachable := ⟨twoCallers, (Option.some_get _).symm⟩
  have hreturns : answered.Returns returned (.channel 0) (.ok (.handle 0)) := by
    refine ⟨(Option.some_get _).symm, ⟨0, .reply (.ok .unit), [.channel 0 0 0], some 0, none⟩,
      .channel 0 0 0, [], rfl, rfl, rfl, rfl⟩
  obtain ⟨-, honce, hyielded, -⟩ := one_connection hreach 0
  exact ⟨hreach, hreturns, honce, hyielded hreturns⟩

end Moment

end Remoting
