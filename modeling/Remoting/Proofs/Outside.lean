import Remoting.Proofs.Entries

/-!
# Between polls

What comes from outside keeps the invariant too: a task that is stopped gives back what it holds,
and whatever a user does is quiet, starts a call, drops a handle or cancels a token. A new client
has made no call. None of this makes an entry of the journal, except that a configuration is
released.
-/

namespace Remoting.World

variable {w v u : World} {task : TaskId}

/-- What a change between polls leads to. -/
structure Persists (w u : World) : Prop extends Continues w u where
  fits : u.CallsFit none
  released : Adds (fun _ call => call = .release) w u

theorem Persists.trans (h : Persists w v) (h' : Persists v u) : Persists w u :=
  ⟨h.toContinues.trans h'.toContinues, h'.fits, h.released.trans h'.released⟩

theorem Quiet.persists (hquiet : Quiet w u) (h : w.CallsFit none) : Persists w u :=
  ⟨hquiet.continues, h.quiet hquiet, hquiet.adds⟩

theorem Alike.persists (halike : Alike w u) (h : u.CallsFit none) : Persists w u :=
  ⟨halike.continues, h, .of_eq halike.contacts⟩

/-! ## Stopping a task -/

/-- A task that is gone was the only one left out. -/
theorem CallsFit.gone (h : w.CallsFit (some task)) (hgone : w.task? task = none) : w.CallsFit none
    where
  toOrderly :=
    { h.toOrderly with
      resting := fun {t} ht _ => by
        refine h.resting ht fun heq => ?_
        obtain rfl := Option.some.inj heq
        rw [h.task?_eq ht] at hgone
        cases hgone }
  clients := h.clients

/-- A stack without a teardown, or a teardown with what is inside of it. -/
theorem Stack.teardown_cases {job : Job} {frames : List Frame} (hstack : w.Stack task job frames) :
    (∀ frame ∈ frames, ∀ t pause, frame ≠ .teardown t pause) ∨
      ∃ inner t pause, frames = inner ++ [.teardown t pause] := by
  by_cases h : ∃ t pause, Frame.teardown t pause ∈ frames
  · obtain ⟨t, pause, hmem⟩ := h
    obtain ⟨inner, outer, rfl⟩ := List.append_of_mem hmem
    obtain rfl := hstack.outer_eq_nil
    exact .inr ⟨inner, t, pause, rfl⟩
  · refine .inl ?_
    rintro frame hframe t pause rfl
    exact h ⟨t, pause, hframe⟩

/-- A teardown that is dropped in its wait for operations still releases the configuration. -/
theorem CallsFit.dropTeardown {t : Teardown} {pause : Teardown.Pause} (h : w.CallsFit (some task))
    (hnone : w.finish? task = none) (hheld : w.Held task t.client (.teardown t (.pause pause))) :
    Proceeds task w (w.dropFrame task (.teardown t pause)) := by
  have hleave : ∀ {v : World}, Proceeds task w v → Proceeds task w (v.leaveLock task t.client) :=
    fun hv => hv.trans ((relocks_leaveLock _ task t.client).proceeds hv.fits)
  cases pause with
  | strategy | endpoint => exact hleave ((Quiet.refl w).proceeds h)
  | drain deadline =>
      obtain ⟨outcome, hstate⟩ := hheld.2.1
      obtain ⟨c, hc, -⟩ := state?_eq_some.1 hstate
      have hquiet := quiet_releaseForTeardown hc
      have hcalls : afterTeardown (w.history t.client) = _ := hheld.2.2.2
      have hbefore : t.Before (.stage .awaitEndpoint)
          (afterTeardown (w.history t.client) ++ [.release]) :=
        ⟨false, by rw [hcalls, List.append_assoc]⟩
      exact hleave (h.tear hnone hheld (work_of_contact hquiet) (hquiet.state _) (hquiet.closed _)
        hbefore).1

theorem CallsFit.dropTask (h : w.CallsFit none) {t : Task} (ht : t ∈ w.tasks) :
    Proceeds t.id w (w.dropTask t) := by
  have hfit := h.weaken t.id
  obtain ⟨hrest, hok⟩ := h.resting ht nofun
  unfold World.dropTask
  split
  next => exact (quiet_strand w _).proceeds hfit
  next =>
    obtain ⟨job, hstack⟩ := hok.typed.stack
    rcases hstack.teardown_cases with hnone | ⟨inner, td, pause, hframes⟩
    · exact ((relocks_dropControl w t.id t.control).trans
        (relocks_dropFrames hnone _ t.id)).proceeds hfit
    · have htyped := hok.typed
      have hlast : Frame.teardown td pause ∈ t.frames := by
        rw [hframes]
        simp
      have hheld : w.Held t.id td.client (.teardown td (.pause pause)) := hok.frameHolds hlast rfl
      rw [hframes] at htyped ⊢
      have hquiet := quiet_dropInside hrest htyped
      have hproceeds := hquiet.proceeds hfit
      rw [dropFrames_append]
      refine hproceeds.trans (hproceeds.fits.dropTeardown ?_ (hheld.quiet hquiet))
      rw [hquiet.same.finish?]
      exact h.unfinished ht

/-- A task is stopped wherever it waits. -/
theorem CallsFit.abortTask (h : w.CallsFit none) (task : TaskId) : Persists w (w.abortTask task) :=
    by
  suffices hgoes : Continues w (w.abortTask task) ∧ (w.abortTask task).CallsFit none by
    refine ⟨hgoes.1, hgoes.2, adds_abortTask (fun _ => ?_) w task⟩
    rfl
  unfold World.abortTask
  split
  next => exact ⟨(Quiet.refl w).continues, h⟩
  next t ht =>
    obtain ⟨hmem, rfl⟩ := task?_mem ht
    have hdrop := h.dropTask hmem
    cases ht' : (w.dropTask t).task? t.id with
    | none =>
        have heq : (w.dropTask t).finishTask t.id .aborted = w.dropTask t := by
          rw [finishTask, ht']
        rw [heq]
        exact ⟨hdrop.toContinues, hdrop.fits.gone ht'⟩
    | some t' =>
        have hfinish : Finishes t.id .aborted (w.dropTask t) _ :=
          finishTask_spec hdrop.fits ht' fun _ => .inl rfl
        exact ⟨hdrop.toContinues.trans (hfinish.advances (.inl rfl)).toContinues,
          hfinish.fits.gone hfinish.gone⟩

/-! ## Actions -/

theorem CallsFit.startCall (h : w.CallsFit none) {call : Call} (hpublic : call.isPublic = true)
    (handle : Option ClientId) : Persists w (w.spawn (.call call) [] handle none).2 :=
  (alike_spawn h.toOrderly _ _ _ _).persists (h.spawn hpublic handle none)

theorem CallsFit.dropClient (h : w.CallsFit none) (client : ClientId) :
    Persists w (w.dropHandle client).1 :=
  (backgrounds_dropHandle h.toOrderly client).toAlike.persists (h.dropHandle client)

/-- A token that is cancelled is no concern of a task that rests. -/
theorem CallsFit.interrupt (h : w.CallsFit none) (token : TokenName) :
    Persists w { w with cancelled := token :: w.cancelled } := by
  have hgoes : Continues w { w with cancelled := token :: w.cancelled } :=
    { toParts := .of_eq rfl rfl rfl
      contacts := List.prefix_rfl
      handed := .inl
      finished := fun hfinish => hfinish
      nextTask := Nat.le_refl _
      started := fun hstarted => hstarted
      ended := fun hentry hfinish => .inr ⟨hentry, hfinish⟩ }
  refine ⟨hgoes, ⟨h.toOrderly.of_respects ⟨rfl, rfl, rfl⟩ ⟨hgoes.toGrows, ?_⟩, fun client => ?_⟩,
    .of_eq rfl⟩
  · exact fun howner _ => ⟨howner, rfl, rfl⟩
  · exact (h.clients client).of_eq hgoes rfl rfl rfl

section Actions

variable {s : Session}

/-- An action on a client that exists keeps what holds if it does nothing and if it acts. -/
theorem world_withClient {P : World → Prop} {act : Client → Answer × Session} {client : ClientId}
    (h : P s.world) (hact : ∀ c, P (act c).2.world) : P (s.withClient client act).2.world := by
  unfold Session.withClient
  split
  · exact hact _
  · exact h

theorem world_withHandle {P : World → Prop} {act : Client → Answer × Session} {client : ClientId}
    (h : P s.world) (hact : ∀ c, P (act c).2.world) : P (s.withHandle client act).2.world := by
  refine world_withClient h fun c => ?_
  split
  · exact hact c
  · exact h

theorem world_withHandler {P : World → Prop} {act : HandlerId → Answer × Session}
    {client : ClientId} (h : P s.world) (hact : ∀ handler, P (act handler).2.world) :
    P (s.withHandler client act).2.world := by
  refine world_withClient h fun c => ?_
  split
  · exact hact _
  · exact h

theorem world_dropClient (s : Session) (client : ClientId) : (s.dropClient client).2.world =
    ((s.world.modifyClient client fun c => { c with held := false }).dropHandle client).1 := by
  unfold Session.dropClient
  split
  next hresult => exact (congrArg Prod.fst hresult).symm
  next hresult => exact (congrArg Prod.fst hresult).symm

theorem quiet_onState (s : Session) (endpoint : EndpointId)
    (act : StateChannel → Answer × StateChannel) :
    Quiet s.world (s.onState endpoint act).2.world := by
  unfold Session.onState
  split
  next => exact .refl _
  next owned howned =>
    show Quiet s.world (s.world.setChannel endpoint owned (act owned.channel).2)
    have hset : Quiet s.world
        (s.world.setLocal endpoint { owned with channel := (act owned.channel).2 }) :=
      quiet_setLocal s.world fun hcell => name_of_local? howned hcell
    unfold World.setChannel
    split
    · exact hset
    · exact hset.trans (quiet_signal _ _)

theorem quiet_register (w : World) (handler : HandlerId) (count : Nat) :
    Quiet w (Session.register w handler count).2 := by
  induction count generalizing w with
  | zero => exact .refl w
  | succ count ih => exact (quiet_registerOperation w handler).trans (ih _)

theorem quiet_dropPart (s : Session) (handler : HandlerId) (present : Bool)
    (drop : Tracker → Tracker) : Quiet s.world (s.dropPart handler present drop).2.world := by
  refine .trans ?_ (quiet_signal _ _)
  exact quiet_modifyHandler s.world handler fun _ => rfl

end Actions

/-- Whatever a user does keeps the invariant. -/
theorem CallsFit.act (h : w.CallsFit none) {action : Action} (hpublic : action.isPublic = true) :
    Persists w (w.act action) := by
  have hrefl : Persists w w := (Quiet.refl w).persists h
  unfold World.act
  cases action with
  | nothing | isInterrupted | unclosed => exact hrefl
  | start name call => exact h.startCall hpublic none
  | advanceState | subscribe | look => exact (quiet_onState (.ofWorld w) _ _).persists h
  | spawnOwned endpoint name script =>
      obtain ⟨halike, hfit⟩ := spawnOwned_spec h endpoint script
      have hspawn : Persists w (w.spawnOwned endpoint script).2 := halike.persists hfit
      simp only [Session.act, Session.ofWorld, Session.world]
      split
      next hresult => rwa [hresult] at hspawn
      next hresult => rwa [hresult] at hspawn
  | killOwned => exact hrefl
  | closeEndpoint endpoint => exact (quiet_closeLocal w endpoint).persists h
  | endpointName endpoint =>
      simp only [Session.act]
      split <;> exact hrefl
  | register handler count => exact (quiet_register w handler count).persists h
  | bind => exact (quiet_bindOperation w _ _ _).persists h
  | stop => exact (quiet_shutdownHandler w _).persists h
  | cancelAll handler reason =>
      exact (quiet_cancelOperations w handler (·.cancelAll reason)).persists h
  | cancelChannel handler channel reason =>
      exact (quiet_cancelOperations w handler (·.cancelChannel channel reason)).persists h
  | dropTicket | dropReceiver => exact (quiet_dropPart (.ofWorld w) _ _ _).persists h
  | pollReceiver handler operation =>
      simp only [Session.act]
      split
      next receiver tracker _ =>
        have hquiet : Quiet w (w.modifyHandler handler fun h => { h with tracker }) :=
          quiet_modifyHandler w handler fun _ => rfl
        exact hquiet.persists h
      next => exact hrefl
  | shutdownNow => exact (quiet_shutdownHandlerNow w _).persists h
  | channelClosed => exact (quiet_handlerChannelClosed w _ _ _).persists h
  | getChannel client => exact world_withHandle hrefl fun _ => h.startCall rfl (some client)
  | execute client =>
      exact world_withHandle hrefl fun _ =>
        world_withHandler hrefl fun _ => h.startCall rfl (some client)
  | close client => exact world_withHandle hrefl fun _ => h.startCall rfl (some client)
  | identify => exact world_withHandle hrefl fun _ => hrefl
  | drop client =>
      refine world_withClient hrefl fun c => ?_
      split
      · have hquiet : Quiet w (w.modifyClient client fun c => { c with held := false }) :=
          quiet_modifyClient w client (fun _ => rfl) (fun _ => rfl) fun _ => rfl
        show Persists w ((Session.ofWorld w).dropClient client).2.world
        rw [world_dropClient]
        exact (hquiet.persists h).trans ((h.quiet hquiet).dropClient client)
      · exact hrefl
  | interrupt token =>
      simp only [Session.act]
      split
      · exact hrefl
      · have hinterrupt := h.interrupt token
        exact hinterrupt.trans ((quiet_signal _ _).persists hinterrupt.fits)
  | closeChannel channel => exact (quiet_closeChannel w channel).persists h
  | fire =>
      refine world_withClient hrefl fun c => ?_
      split
      · exact (quiet_associationChannelClosed w _ _ _).persists h
      · exact hrefl
  | addDisposer => exact world_withClient hrefl fun c => (quiet_addDisposer w _ _).persists h
  | releaseConfig => exact world_withClient hrefl fun c => (quiet_releaseConfig w _).persists h
  | supply => exact world_withClient hrefl fun _ => h.startCall rfl none
  | handlerExecute => exact world_withHandler hrefl fun _ => h.startCall rfl none
  | handlerShutdown =>
      exact world_withHandler hrefl fun _ => (quiet_shutdownHandler w _).persists h
  | handlerShutdownNow =>
      exact world_withHandler hrefl fun _ => (quiet_shutdownHandlerNow w _).persists h

/-! ## New clients -/

theorem quiet_addSource (w : World) (source : ConfigSource) : Quiet w (w.addSource source).2 := by
  cases source with
  | own config => exact .of_parts (.of_eq rfl rfl rfl) rfl rfl rfl rfl rfl rfl rfl
  | shared other => exact .refl w

theorem quiet_addAssociation (w : World) (client : ClientId) (recorder : Option RecorderPlan) :
    Quiet w (w.addAssociation client recorder).2 := by
  cases recorder with
  | some plan => exact .refl w
  | none =>
      refine .of_parts ⟨fun {handler source} h => ?_, fun h => ⟨_, h, rfl, Nat.le_refl _⟩,
        fun h => ⟨_, h, rfl, rfl⟩⟩ rfl rfl rfl rfl rfl rfl rfl
      obtain ⟨cell, hcell, hsource⟩ := Option.map_eq_some_iff.1 h
      show ((w.handlers ++ [_])[handler]?).map _ = _
      rw [List.getElem?_append_left (List.getElem?_eq_some_iff.1 hcell).1, hcell, Option.map_some,
        hsource]

theorem clients_placeClient (w : World) (c : Client) :
    (w.placeClient c).clients[w.clients.length]? = some c := by
  simp [placeClient]

theorem clients_placeClient_ne {client : ClientId} (hne : client ≠ w.clients.length) (c : Client) :
    (w.placeClient c).clients[client]? = w.clients[client]? := by
  rcases Nat.lt_or_gt_of_ne hne with hlt | hgt
  · exact List.getElem?_append_left hlt
  · rw [List.getElem?_eq_none (Nat.le_of_lt hgt), List.getElem?_eq_none]
    simpa [placeClient] using Nat.succ_le_of_lt hgt

theorem continues_placeClient (w : World) (c : Client) : Continues w (w.placeClient c) where
  toParts := .of_eq rfl rfl rfl
  contacts := List.prefix_rfl
  handed := .inl
  finished hfinish := hfinish
  nextTask := Nat.le_refl _
  started hstarted := hstarted
  ended hentry hfinish := .inr ⟨hentry, hfinish⟩

/-- A client that is added is open and has made no call. -/
theorem CallsFit.placeClient (h : w.CallsFit none) {c : Client}
    (hopen : c.state = .opened none none) (hclosed : c.closed = false) :
    Persists w (w.placeClient c) := by
  have hgoes := continues_placeClient w c
  have hnone : w.clients[w.clients.length]? = none := List.getElem?_eq_none (Nat.le_refl _)
  refine ⟨hgoes, ⟨h.toOrderly.of_respects ⟨rfl, rfl, rfl⟩ ⟨hgoes.toGrows, ?_⟩, fun client => ?_⟩,
    .of_eq rfl⟩
  · intro client owner howner _
    have hne : client ≠ w.clients.length := by
      rintro rfl
      rw [owner?, hnone] at howner
      cases howner
    have hkept := clients_placeClient_ne hne c
    exact ⟨by rwa [owner?, hkept], by rw [state?, hkept, state?], rfl⟩
  · by_cases hne : client = w.clients.length
    · subst hne
      have hempty := h.clients w.clients.length
      rw [ClientOk, show w.state? _ = none by rw [state?, hnone, Option.map_none]] at hempty
      have hstate : (w.placeClient c).state? w.clients.length = some (.opened none none) := by
        rw [state?, clients_placeClient, Option.map_some, hopen]
      rw [ClientOk, hstate]
      refine ⟨by rw [closed?, clients_placeClient, Option.map_some, hclosed], ?_, .none _⟩
      rw [history_of_contacts (show (w.placeClient c).contacts = w.contacts from rfl), hempty]
      exact .fresh
    · have hkept := clients_placeClient_ne hne c
      exact (h.clients client).of_eq hgoes (by rw [state?, hkept, state?])
        (by rw [closed?, hkept, closed?]) rfl

theorem quiet_addDisposers (w : World) (config : Nat) (disposers : List Disposer) :
    Quiet w (w.addDisposers config disposers) :=
  .foldl (fun w disposer => quiet_addDisposer w config disposer) w disposers

theorem CallsFit.addClient (h : w.CallsFit none) (spec : ClientSpec) (trace : AllocationTrace) :
    Persists w (w.addClient spec trace) := by
  have hsource := quiet_addSource w spec.config
  have hdisposers := quiet_addDisposers (w.addSource spec.config).2 (w.addSource spec.config).1
    spec.disposers
  have hassociation := quiet_addAssociation
    ((w.addSource spec.config).2.addDisposers (w.addSource spec.config).1 spec.disposers)
    w.clients.length spec.recorder
  have hpersists := ((hsource.trans hdisposers).trans hassociation).persists h
  exact hpersists.trans (hpersists.fits.placeClient (c := .fresh _ _ _ _) rfl rfl)

/-! ## Helpers -/

theorem CallsFit.spawnBackgroundClose (h : w.CallsFit none) (client : ClientId) :
    Persists w (w.spawnBackgroundClose client) := by
  have hspawn := backgrounds_spawnBackgroundClose h.toOrderly client
  exact hspawn.toAlike.persists
    ⟨hspawn.orderly, fun other => (h.clients other).alike hspawn.toAlike⟩

theorem CallsFit.help (h : w.CallsFit none) : Persists w w.help := by
  have hclear : Quiet w { w with running := true, stranded := [] } :=
    .of_parts (.of_eq rfl rfl rfl) rfl rfl rfl rfl rfl rfl rfl
  have hspawn : ∀ (clients : List ClientId) {v : World}, v.CallsFit none →
      Persists v (clients.foldl World.spawnBackgroundClose v) := by
    intro clients
    induction clients with
    | nil => exact fun hv => (Quiet.refl _).persists hv
    | cons client rest ih =>
        intro v hv
        have hfirst := hv.spawnBackgroundClose client
        exact hfirst.trans (ih hfirst.fits)
  exact (hclear.persists h).trans (hspawn w.stranded (h.quiet hclear))

end Remoting.World
