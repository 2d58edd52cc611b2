import Remoting.Proofs.Executing
import Remoting.Proofs.Seating

/-!
# The queues of locks along runs

`Seats` is an invariant of all runs: whoever stands in the queue of a client's lock is a task that
waits for the lock, has just got it or holds it. So a lock that somebody waits for is on its way:
its owner is a task that can get on or that acts with the lock. No move takes a task out of a queue
but a move of that task.
-/

namespace Remoting

namespace World

variable {w v u : World} {task : TaskId} {client : ClientId} {control : Control}
  {frames inner outer : List Frame}

/-- Whoever stands in the queue of a lock waits for it, has just got it or holds it. -/
structure Seats (w : World) : Prop where
  singleFile : ∀ {client lock}, w.lock? client = some lock → lock.SingleFile
  member : ∀ {client id}, id ∈ w.queue client →
    ∃ t, w.task? id = some t ∧ Claims t.control t.frames client

theorem Seats.seated {t : Task} (h : w.Seats) (ht : w.task? task = some t) :
    Seated w w task (Claims t.control t.frames) where
  singleFile := h.singleFile
  others _ := Iff.rfl
  own hmem := by
    obtain ⟨t', ht', hclaims⟩ := h.member hmem
    cases ht.symm.trans ht'
    exact hclaims

/-- Whoever has a lock is the first in its queue. -/
theorem mem_queue_of_owner (howner : w.owner? client = some task) : task ∈ w.queue client := by
  rw [owner?_eq] at howner
  obtain ⟨lock, hlock, howner⟩ := Option.bind_eq_some_iff.1 howner
  rw [queue_of_lock? hlock, Lock.queue, howner]
  exact List.mem_append_left _ (List.mem_singleton_self _)

/-- Where somebody waits for a lock there is a task that has it. -/
theorem Seats.exists_owner {id : TaskId} (h : w.Seats) (hmem : id ∈ w.queue client) :
    ∃ owner t, w.owner? client = some owner ∧ w.task? owner = some t ∧
      Claims t.control t.frames client := by
  obtain ⟨lock, hlock, hin⟩ := exists_lock_of_mem hmem
  cases howner : lock.owner with
  | none =>
      rw [Lock.queue, howner, (h.singleFile hlock).idle howner] at hin
      cases hin
  | some owner =>
      have hfirst : w.owner? client = some owner := by
        rw [owner?_eq, hlock]
        exact howner
      obtain ⟨t, ht, hclaims⟩ := h.member (mem_queue_of_owner hfirst)
      exact ⟨owner, t, hfirst, ht, hclaims⟩

/-! ## Giving back -/

/-- What a task that rests waits for or holds apart from its frames it gives back. -/
theorem Seated.dropControl (h : Seated w v task (Claims control frames))
    (hrest : control.resting = true) (htyped : u.Typed task frames control) :
    Seated w (v.dropControl task control) task (Framed frames) := by
  have hleave : ∀ {client}, (∀ other, control.claim? frames = some other → other = client) →
      Seated w (v.leaveLock task client) task (Framed frames) := fun hclaim =>
    (h.leave _).weaken fun other hclaims =>
      hclaims.1.resolve_left fun hother => hclaims.2 (hclaim other hother)
  have hkeep : control.claim? frames = none → Seated w v task (Framed frames) := fun hnone =>
    h.weaken fun other hclaims => hclaims.framed hnone
  cases control with
  | call call =>
      cases call with
      | connect | openChannel | teardown =>
          exact hleave fun other hother => (Option.some.inj hother).symm
      | _ => exact hkeep rfl
  | wait wait =>
      cases wait with
      | lock client =>
          refine hleave fun other hother => ?_
          cases frames with
          | nil => cases hother
          | cons frame frames =>
              have hwaits : u.Stack task (.wait (.lock client)) (frame :: frames) := htyped
              rcases hwaits.1.waiter with rfl | ⟨interrupt, rfl⟩ | ⟨error, rfl⟩ <;>
                exact (Option.some.inj hother).symm
      | _ => exact hkeep rfl
  | _ => cases hrest

/-- What a call holds it gives back when it is dropped. -/
theorem Seated.dropFrame {frame : Frame} (h : Seated w v task (Framed (frame :: frames))) :
    Seated w (v.dropFrame task frame) task (Framed frames) := by
  have hleave : ∀ {u : World} {client : ClientId}, frame.claim? = some client →
      (∀ other, u.lock? other = v.lock? other) →
        Seated w (u.leaveLock task client) task (Framed frames) := by
    intro u client hclaim hlock
    refine ((h.locks hlock).leave client).weaken fun other hclaims => ?_
    obtain ⟨⟨frame', hframe', hother⟩, hne⟩ := hclaims
    rcases List.mem_cons.1 hframe' with rfl | hmem
    · exact absurd (Option.some.inj (hother.symm.trans hclaim)) hne
    · exact ⟨frame', hmem, hother⟩
  have hkeep : ∀ {u : World}, frame.claim? = none → (∀ other, u.lock? other = v.lock? other) →
      Seated w u task (Framed frames) := fun hnone hlock =>
    (h.weaken fun other hframed => hframed.mono
      (List.forall_mem_cons.2 ⟨.inr hnone, fun _ hmem => .inl hmem⟩)).locks hlock
  cases frame with
  | creation | channel => exact hleave rfl fun _ => rfl
  | teardown t pause =>
      cases pause with
      | drain => exact hleave rfl (lock?_releaseForTeardown v t.client)
      | strategy | endpoint => exact hleave rfl fun _ => rfl
  | supply handler operation => exact hkeep rfl (quiet_endOperation v handler operation).lock
  | operation handler operation => exact hkeep rfl (quiet_endOperation v handler operation).lock
  | _ => exact hkeep rfl fun _ => rfl

theorem Seated.dropFrames (h : Seated w v task (Framed (inner ++ outer))) :
    Seated w (v.dropFrames task inner) task (Framed outer) := by
  induction inner generalizing v with
  | nil => exact h
  | cons frame inner ih => exact ih h.dropFrame

/-- A task that leaves a call keeps what the calls around it claim, and a teardown keeps its
lock. -/
theorem Seated.leaveCall {cut : Cut} (h : Seated w v task (Claims control frames))
    (hrest : control.resting = true) (htyped : u.Typed task frames control)
    (hframes : frames = cut.inner ++ cut.frame :: cut.outer)
    (hcut : ∀ t pause, cut.frame = .teardown t pause →
      cut.control.claim? cut.outer = some t.client) :
    Lands w (v.leaveCall task control cut) task := by
  have hcontrol := h.dropControl hrest htyped
  rw [hframes] at hcontrol
  have hinner := hcontrol.dropFrames
  unfold World.leaveCall
  dsimp only
  split
  next t pause hframe =>
    refine (hinner.weaken fun other hframed => ?_).goto
    obtain ⟨frame, hmem, hclaim⟩ := hframed
    rcases List.mem_cons.1 hmem with rfl | hmem
    · rw [hframe] at hclaim
      exact .inl ((hcut t pause hframe).trans hclaim)
    · exact .inr ⟨frame, hmem, hclaim⟩
  next => exact (hinner.dropFrame.weaken fun _ hframed => .inr hframed).goto

/-! ## Ends of tasks -/

theorem lock?_dropHandle (w : World) (client other : ClientId) :
    (w.dropHandle client).1.lock? other = w.lock? other := by
  unfold dropHandle
  split
  next => rfl
  next c _ =>
    have hreport := (quiet_reportLeak w client c.trace).lock other
    split
    next => rfl
    next =>
      split
      next hresult =>
        rw [hresult] at hreport
        exact hreport
      next hresult =>
        rw [hresult] at hreport
        unfold spawnBackgroundClose
        split
        · exact hreport
        · exact hreport

theorem lock?_finishTask (w : World) (task : TaskId) (finish : Finish) (other : ClientId) :
    (w.finishTask task finish).lock? other = w.lock? other := by
  unfold finishTask
  split
  next => rfl
  next t _ =>
    have hheld : ((w.removeTask task).dropHeld finish t.handle).1.lock? other = w.lock? other := by
      unfold dropHeld
      split
      next => rfl
      next client _ =>
        have hdrop := lock?_dropHandle (w.removeTask task) client other
        split
        next hresult =>
          rw [hresult] at hdrop
          exact hdrop
        next hresult =>
          rw [hresult] at hdrop
          exact hdrop
    generalize (w.removeTask task).dropHeld finish t.handle = pair at hheld
    obtain ⟨v, finish'⟩ := pair
    cases t.owner with
    | none => exact hheld
    | some endpoint => exact ((quiet_leaveEndpoint v task endpoint).lock other).trans hheld

/-- A task that stands in no queue. -/
theorem Seated.gone (h : Seated w v task fun _ => False)
    (hlock : ∀ client, u.lock? client = v.lock? client) :
    Lands w u task ∧ ∀ client, task ∉ u.queue client := by
  have hlocks := h.locks hlock
  exact ⟨⟨hlocks.singleFile, fun hne hmem => .inl ((hlocks.others hne).1 hmem),
    fun hne hmem => (hlocks.others hne).2 hmem, fun hmem _ => (hlocks.own hmem).elim⟩,
    fun client hmem => hlocks.own hmem⟩

/-- A task that ends claims no lock any more. -/
theorem Seated.finish (h : Seated w w task (Claims control []))
    (hcontrol : control.claim? [] = none) (finish : Finish) :
    Lands w (w.finishTask task finish) task ∧
      ∀ client, task ∉ (w.finishTask task finish).queue client :=
  (h.weaken fun client hclaims => not_framed_nil client (hclaims.framed hcontrol)).gone
    (lock?_finishTask w task finish)

/-- A task that is stopped gives back every lock. -/
theorem Seats.dropTask {t : Task} (h : w.Seats) (ht : w.task? task = some t)
    (hrest : t.control.resting = true) (htyped : w.Typed task t.frames t.control) :
    Seated w (w.dropTask t) task fun _ => False := by
  have hseated := h.seated ht
  obtain ⟨-, hid⟩ := task?_mem ht
  unfold World.dropTask
  split
  next client interrupt other hcontrol hframes =>
    rw [hcontrol, hframes] at hseated
    refine (hseated.weaken fun other hclaims => ?_).locks fun _ => rfl
    obtain ⟨frame, hmem, hclaim⟩ := hclaims.framed rfl
    obtain rfl := List.mem_singleton.1 hmem
    cases hclaim
  next =>
    have hcontrol := hseated.dropControl hrest htyped
    rw [← List.append_nil t.frames] at hcontrol
    rw [hid]
    exact hcontrol.dropFrames.weaken fun client hframed => not_framed_nil client hframed

/-! ## Steps -/

/-- A wait that is over. -/
theorem Seated.ready {wait : Wait} (h : Seated w w task (Claims (.wait wait) frames))
    (hready : w.ready? task wait = some control) : Lands w (w.goto task control frames) task := by
  refine (h.weaken fun client hclaims => ?_).goto
  cases wait with
  | lock other =>
      simp only [ready?] at hready
      split at hready
      next =>
        cases hready
        cases frames with
        | nil => exact .inr (hclaims.framed rfl)
        | cons frame frames => exact hclaims
      next => cases hready
  | _ => exact .inr (hclaims.framed rfl)

/-- A task that stands in a queue after a move of it is there, with its claims. -/
structure KeepsClaims (w u : World) (task : TaskId) : Prop extends Lands w u task where
  kept : ∀ {client}, task ∈ u.queue client → ∃ t, u.task? task = some t

theorem Runs.keepsClaims {deeds : List Deed} {ids : List OperationId} {t : Task}
    (h : Runs (fun _ => True) 0 deeds ids task frames w u) (ht : w.task? task = some t)
    (hlands : Lands w u task) : KeepsClaims w u task where
  toLands := hlands
  kept _ := by
    obtain ⟨control, inner, -, ht'⟩ := h.task? ht
    exact ⟨_, ht'⟩

/-- A step of a task leaves it in the queues of those locks only that it claims. -/
theorem Seats.step {t : Task} (h : w.Seats) (hacting : w.Acting task)
    (ht : w.task? task = some t) (hstep : w.step? task = some u) : KeepsClaims w u task := by
  have hseated := h.seated ht
  have htyped := (hacting.active ht).typed
  have hfinish : ∀ {control : Control} {finish : Finish}, Seated w w task (Claims control []) →
      control.claim? [] = none → KeepsClaims w (w.finishTask task finish) task := by
    intro control finish hseated hcontrol
    obtain ⟨hlands, hgone⟩ := hseated.finish hcontrol finish
    exact ⟨hlands, fun {client} hmem => absurd hmem (hgone client)⟩
  unfold step? at hstep
  rw [ht] at hstep
  dsimp only at hstep
  split at hstep
  next call hcontrol =>
    cases hstep
    rw [hcontrol] at hseated
    exact Runs.keepsClaims
      (runs_makeCall w (fun _ => trivial) task call t.frames fun _ _ _ => fun _ => trivial) ht
      (lands_makeCall hseated)
  next reply frame frames hcontrol hframes =>
    cases hstep
    rw [hcontrol, hframes] at hseated htyped
    refine Runs.keepsClaims (runs_resume w (fun _ => trivial) task frame reply frames
      (fun _ _ _ => fun _ => trivial) fun _ _ _ _ => trivial) ht (lands_resume ?_ hseated)
    rintro client interrupt rfl
    obtain ⟨job, ⟨rfl, -⟩, howner⟩ := htyped
    refine lands_lockedClose hacting.fits howner (fun hmem => ?_) hseated
    obtain ⟨t', ht', -⟩ := h.member hmem
    obtain ⟨hmem', rfl⟩ := task?_mem ht'
    exact hacting.fits.fresh hmem'
  next reply hcontrol hframes =>
    cases hstep
    rw [hcontrol, hframes] at hseated
    exact hfinish hseated rfl
  next content frame frames hcontrol hframes =>
    cases hstep
    rw [hcontrol, hframes] at hseated
    exact (runs_unwind w task frame content frames (fun _ _ _ => fun _ => trivial)
      fun _ _ _ => trivial).keepsClaims ht (lands_unwind hseated)
  next content hcontrol hframes =>
    cases hstep
    rw [hcontrol, hframes] at hseated
    exact hfinish hseated rfl
  next client frames hcontrol hframes =>
    cases hstep
    rw [hcontrol, hframes] at hseated
    exact (runs_closeLost w task client frames).keepsClaims ht (lands_closeLost hseated)
  next frame frames _ hcontrol hframes =>
    cases hstep
    rw [hcontrol, hframes] at hseated
    have hdrop := (hseated.weaken fun _ hclaims => hclaims.framed rfl).dropFrame
    exact ((deals_dropFrame w task frame fun _ _ _ => fun _ => trivial).runs task _
      frames).keepsClaims ht
      (hdrop.weaken fun _ hframed => .inr hframed).goto
  next hcontrol hframes =>
    cases hstep
    rw [hcontrol, hframes] at hseated
    exact hfinish hseated rfl
  next wait hcontrol =>
    obtain ⟨control, hready, rfl⟩ := Option.map_eq_some_iff.1 hstep
    rw [hcontrol] at hseated
    exact ((Deals.refl w).runs task _ t.frames).keepsClaims ht (hseated.ready hready)

/-! ## Polls -/

theorem Lands.of_eq (h : Lands w v task) (hlock : ∀ client, u.lock? client = v.lock? client)
    (htasks : u.tasks = v.tasks) : Lands w u task where
  singleFile hsome := h.singleFile ((hlock _).symm.trans hsome)
  others hne hmem := by
    rw [queue_congr (hlock _)] at hmem
    rw [World.task?, htasks]
    exact h.others hne hmem
  stays hne hmem := by
    rw [queue_congr (hlock _)]
    exact h.stays hne hmem
  own hmem ht := by
    rw [queue_congr (hlock _)] at hmem
    rw [World.task?, htasks] at ht
    exact h.own hmem ht

/-- A change that leaves locks and tasks alone. -/
theorem Seats.idle {t : Task} (h : w.Seats) (ht : w.task? task = some t) : KeepsClaims w w task
    where
  singleFile := h.singleFile
  others _ hmem := .inl hmem
  stays _ hmem := hmem
  own hmem ht := by
    obtain ⟨t', ht', hclaims⟩ := h.member hmem
    cases ht.symm.trans ht'
    exact hclaims
  kept _ := ⟨t, ht⟩

/-- What a task does in place of a call that is cut short holds the lock that the call held. -/
theorem claim?_of_cutShort? {frame : Frame} (h : w.cutShort? frame = some control)
    (outer : List Frame) {t : Teardown} {pause : Teardown.Pause}
    (hframe : frame = .teardown t pause) :
    control.claim? outer = some t.client := by
  subst hframe
  cases pause with
  | strategy => cases h
  | drain | endpoint =>
      simp only [cutShort?] at h
      split at h
      · cases h
        rfl
      · cases h

theorem Seats.cutTask {t : Task} (h : w.Seats) (ht : w.task? task = some t)
    (hrest : t.control.resting = true) (htyped : w.Typed task t.frames t.control) :
    KeepsClaims w (w.cutTask task) task := by
  simp only [World.cutTask, ht]
  split
  next cut hcut =>
    obtain ⟨hframes, hshort⟩ := cut?_eq_some hcut
    refine ⟨(h.seated ht).leaveCall hrest htyped hframes fun td pause hframe => ?_,
      fun _ => ⟨_, task?_leaveCall ht t.control cut⟩⟩
    exact claim?_of_cutShort? hshort cut.outer hframe
  next => exact h.idle ht

theorem Seats.expireDrain {t : Task} (h : w.Seats) (ht : w.task? task = some t)
    (hrest : t.control.resting = true) (htyped : w.Typed task t.frames t.control) :
    KeepsClaims w (w.expireDrain task) task := by
  simp only [World.expireDrain, ht]
  split
  next => exact h.idle ht
  next cut hcut =>
    obtain ⟨hframes, td, deadline, -, hframe, hcontrol⟩ := overdue?_eq_some hcut
    have hlands := (h.seated ht).leaveCall hrest htyped hframes fun td' pause hframe' => by
      rw [hcontrol]
      cases hframe.symm.trans hframe'
      rfl
    rw [hframe]
    have hquiet := quiet_drainTimeout (w.leaveCall task t.control cut) td.client
    exact ⟨hlands.of_eq hquiet.lock hquiet.same.tasks,
      fun _ => ⟨{ t with control := cut.control, frames := cut.outer },
        task?_leaveCall ht t.control cut⟩⟩

theorem Seats.abortTask {t : Task} (h : w.Seats) (ht : w.task? task = some t)
    (hrest : t.control.resting = true) (htyped : w.Typed task t.frames t.control) :
    KeepsClaims w (w.abortTask task) task := by
  simp only [World.abortTask, ht]
  obtain ⟨hlands, hgone⟩ := (h.dropTask ht hrest htyped).gone
    (lock?_finishTask (w.dropTask t) task .aborted)
  exact ⟨hlands, fun {client} hmem => absurd hmem (hgone client)⟩

/-! ## Changes from outside -/

/-- A change that leaves all locks alone. -/
def SameLocks (w u : World) : Prop :=
  ∀ client, u.lock? client = w.lock? client

theorem SameLocks.trans (h : SameLocks w v) (h' : SameLocks v u) : SameLocks w u :=
  fun client => (h' client).trans (h client)

theorem sameLocks_act (w : World) (action : Action) : SameLocks w (w.act action) := by
  have hrefl : SameLocks w w := fun _ => rfl
  have hcall : ∀ (call : Call) (handle : Option ClientId),
      SameLocks w (w.spawn (.call call) [] handle none).2 :=
    fun call handle => lock?_spawn w (.call call) [] handle none
  unfold World.act
  cases action with
  | nothing | isInterrupted | unclosed | killOwned => exact hrefl
  | start name call => exact hcall call none
  | advanceState | subscribe | look => exact (quiet_onState (.ofWorld w) _ _).lock
  | spawnOwned endpoint name script =>
      have hspawn : SameLocks w (w.spawnOwned endpoint script).2 :=
        lock?_spawnOwned w endpoint script
      simp only [Session.act, Session.ofWorld, Session.world]
      split
      next hresult => rwa [hresult] at hspawn
      next hresult => rwa [hresult] at hspawn
  | closeEndpoint endpoint => exact (quiet_closeLocal w endpoint).lock
  | endpointName endpoint =>
      simp only [Session.act]
      split <;> exact hrefl
  | register handler count => exact (quiet_register w handler count).lock
  | bind => exact (quiet_bindOperation w _ _ _).lock
  | stop => exact (quiet_shutdownHandler w _).lock
  | cancelAll handler reason => exact (quiet_cancelOperations w handler (·.cancelAll reason)).lock
  | cancelChannel handler channel reason =>
      exact (quiet_cancelOperations w handler (·.cancelChannel channel reason)).lock
  | dropTicket | dropReceiver => exact (quiet_dropPart (.ofWorld w) _ _ _).lock
  | pollReceiver handler operation =>
      simp only [Session.act]
      split
      next receiver tracker _ => exact fun _ => rfl
      next => exact hrefl
  | shutdownNow => exact (quiet_shutdownHandlerNow w _).lock
  | channelClosed => exact (quiet_handlerChannelClosed w _ _ _).lock
  | getChannel client => exact world_withHandle (P := SameLocks w) hrefl fun _ => hcall _ _
  | execute client =>
      exact world_withHandle (P := SameLocks w) hrefl fun _ =>
        world_withHandler (P := SameLocks w) hrefl fun _ => hcall _ _
  | close client => exact world_withHandle (P := SameLocks w) hrefl fun _ => hcall _ _
  | identify => exact world_withHandle (P := SameLocks w) hrefl fun _ => hrefl
  | drop client =>
      refine world_withClient (P := SameLocks w) hrefl fun c => ?_
      split
      · show SameLocks w ((Session.ofWorld w).dropClient client).2.world
        rw [world_dropClient]
        have hdrop : SameLocks w (w.modifyClient client fun c => { c with held := false }) :=
          lock?_modifyClient_of_eq w client _ fun _ => rfl
        exact hdrop.trans (lock?_dropHandle _ client)
      · exact hrefl
  | interrupt token =>
      simp only [Session.act]
      split
      · exact hrefl
      · exact fun _ => rfl
  | closeChannel channel => exact (quiet_closeChannel w channel).lock
  | fire =>
      refine world_withClient (P := SameLocks w) hrefl fun c => ?_
      split
      · exact (quiet_associationChannelClosed w _ _ _).lock
      · exact hrefl
  | addDisposer =>
      exact world_withClient (P := SameLocks w) hrefl fun c => (quiet_addDisposer w _ _).lock
  | releaseConfig =>
      exact world_withClient (P := SameLocks w) hrefl fun c => (quiet_releaseConfig w _).lock
  | supply => exact world_withClient (P := SameLocks w) hrefl fun _ => hcall _ _
  | handlerExecute => exact world_withHandler (P := SameLocks w) hrefl fun _ => hcall _ _
  | handlerShutdown =>
      exact world_withHandler (P := SameLocks w) hrefl fun _ => (quiet_shutdownHandler w _).lock
  | handlerShutdownNow =>
      exact world_withHandler (P := SameLocks w) hrefl fun _ => (quiet_shutdownHandlerNow w _).lock

theorem sameLocks_spawnBackgroundClose (w : World) (client : ClientId) :
    SameLocks w (w.spawnBackgroundClose client) := by
  unfold spawnBackgroundClose
  split
  · exact fun _ => rfl
  · exact fun _ => rfl

theorem sameLocks_help (w : World) : SameLocks w w.help := by
  have hspawn : ∀ (clients : List ClientId) (v : World),
      SameLocks v (clients.foldl World.spawnBackgroundClose v) := by
    intro clients
    induction clients with
    | nil => exact fun _ _ => rfl
    | cons client rest ih =>
        exact fun v => (sameLocks_spawnBackgroundClose v client).trans (ih _)
  exact SameLocks.trans (v := { w with running := true, stranded := [] }) (fun _ => rfl)
    (hspawn w.stranded _)

theorem lock?_placeClient (w : World) {c : Client} (hfree : c.lock = .free) (client : ClientId) :
    (w.placeClient c).lock? client = w.lock? client ∨
      w.lock? client = none ∧ (w.placeClient c).lock? client = some .free := by
  by_cases hclient : client = w.clients.length
  · subst hclient
    refine .inr ⟨?_, ?_⟩
    · rw [lock?, List.getElem?_eq_none (Nat.le_refl _), Option.map_none]
    · rw [lock?, clients_placeClient, Option.map_some, hfree]
  · exact .inl (by rw [lock?, clients_placeClient_ne hclient, lock?])

/-- A new client has a lock that nobody has. -/
theorem lock?_addClient (w : World) (spec : ClientSpec) (trace : AllocationTrace)
    (client : ClientId) : (w.addClient spec trace).lock? client = w.lock? client ∨
      w.lock? client = none ∧ (w.addClient spec trace).lock? client = some .free := by
  have hlock := ((quiet_addSource w spec.config).trans
    ((quiet_addDisposers (w.addSource spec.config).2 (w.addSource spec.config).1
      spec.disposers).trans (quiet_addAssociation
        ((w.addSource spec.config).2.addDisposers (w.addSource spec.config).1 spec.disposers)
        w.clients.length spec.recorder))).lock client
  rw [← hlock]
  exact lock?_placeClient _ rfl client

end World

namespace Moment

variable {m after last : Moment} {move : Move} {moves : List Move}

/-- What a move does to the queues: a task goes on or is stopped, or all queues stay. -/
inductive Shifts (m : Moment) (move : Move) (after : Moment) : Prop where
  | acts {task : TaskId} (hactor : m.actor? move = some task)
      (h : World.KeepsClaims m.world after.world task)
  | stays (hidle : ∀ {task}, m.actor? move = some task → m.world.task? task = none)
      (hfile : ∀ {client lock}, after.world.lock? client = some lock → lock.SingleFile)
      (hqueue : ∀ client, after.world.queue client = m.world.queue client)

/-- A change from outside that leaves all locks alone. -/
theorem Shifts.of_sameLocks (h : m.world.Seats)
    (hidle : ∀ {task}, m.actor? move = some task → m.world.task? task = none)
    (hlocks : World.SameLocks m.world after.world) : m.Shifts move after :=
  .stays hidle (fun hsome => h.singleFile ((hlocks _).symm.trans hsome)) fun _ =>
    World.queue_congr (hlocks _)

/-- A task that rests has claims that fit its frames. -/
theorem CallsFit.rests (h : m.CallsFit) (hpolling : m.polling = none) {task : TaskId} {t : Task}
    (ht : m.world.task? task = some t) :
    t.control.resting = true ∧ m.world.Typed task t.frames t.control := by
  obtain ⟨world, polling⟩ := m
  cases hpolling
  obtain ⟨hmem, rfl⟩ := World.task?_mem ht
  obtain ⟨hrest, hok⟩ :=
    World.Orderly.resting (World.CallsFit.toOrderly h) hmem fun heq => by cases heq
  exact ⟨hrest, hok.typed⟩

/-- What a move does to the queues. -/
theorem CallsFit.shifts (h : m.CallsFit) (hseats : m.world.Seats)
    (hnext : m.next move = some after) : m.Shifts move after := by
  have hstays : ∀ {u : World}, m.actor? move = none → World.SameLocks m.world u →
      m.Shifts move ⟨u, none⟩ := fun hactor hlocks =>
    .of_sameLocks hseats (fun heq => by cases hactor.symm.trans heq) hlocks
  cases next_transition hnext with
  | build spec trace idle =>
      have hlock := World.lock?_addClient m.world spec trace
      refine .stays (fun heq => by cases heq) (fun {client lock} hsome => ?_) fun client => ?_
      · rcases hlock client with heq | ⟨-, hfree⟩
        · exact hseats.singleFile (heq.symm.trans hsome)
        · cases hfree.symm.trans hsome
          exact Lock.free_singleFile
      · rcases hlock client with heq | ⟨hnone, hfree⟩
        · exact World.queue_congr heq
        · rw [World.queue_of_lock? hfree, World.queue, hnone]
          rfl
  | act isPublic idle => exact hstays rfl (World.sameLocks_act m.world _)
  | pass ms idle => exact hstays rfl fun _ => rfl
  | halt idle => exact hstays rfl fun _ => rfl
  | help idle => exact hstays rfl (World.sameLocks_help m.world)
  | abort task idle =>
      cases ht : m.world.task? task with
      | none =>
          refine .of_sameLocks hseats (fun heq => by cases heq; exact ht) fun _ => ?_
          simp only [World.abortTask, ht]
      | some t =>
          obtain ⟨hrest, htyped⟩ := h.rests idle ht
          exact .acts rfl (hseats.abortTask ht hrest htyped)
  | poll task idle =>
      cases ht : m.world.task? task with
      | none =>
          refine .of_sameLocks hseats (fun heq => by cases heq; exact ht) fun _ => ?_
          simp only [World.cutTask, ht]
      | some t =>
          obtain ⟨hrest, htyped⟩ := h.rests idle ht
          exact .acts rfl (hseats.cutTask ht hrest htyped)
  | @step polling u polls steps =>
      cases ht : m.world.task? polling.task with
      | none =>
          rw [World.step?, ht] at steps
          cases steps
      | some t =>
          exact .acts (by rw [actor?, polls]; rfl) (hseats.step (h.acting polls) ht steps)
  | @expire task polls waits =>
      have hactor : m.actor? .expire = some task := by rw [actor?, polls]; rfl
      cases ht : m.world.task? task with
      | none =>
          refine .of_sameLocks hseats (fun heq => ?_) fun _ => ?_
          · cases hactor.symm.trans heq
            exact ht
          · simp only [World.expireDrain, ht]
      | some t =>
          obtain ⟨wait, hwait, -⟩ := World.wait_of_step?_eq_none waits ht
          exact .acts hactor
            (hseats.expireDrain ht (by rw [hwait]; rfl) ((h.acting polls).active ht).typed)
  | rest polls waits => exact hstays rfl fun _ => rfl

/-- No move takes a task out of a queue but a move of that task. -/
theorem Shifts.mem_queue (h : m.Shifts move after) {client : ClientId} {task : TaskId}
    (hactor : m.actor? move ≠ some task) (hmem : task ∈ m.world.queue client) :
    task ∈ after.world.queue client := by
  cases h with
  | acts hactor' h => exact h.stays (fun heq => hactor (heq ▸ hactor')) hmem
  | stays hidle hfile hqueue => rwa [hqueue]

/-- Every move keeps the queues in order. -/
theorem Shifts.seats (h : m.Shifts move after) (hseats : m.world.Seats)
    (hnext : m.next move = some after) : after.world.Seats := by
  have hkeep : ∀ {client id}, id ∈ m.world.queue client → m.actor? move ≠ some id →
      ∃ t, after.world.task? id = some t ∧ Claims t.control t.frames client := by
    intro client id hmem hactor
    obtain ⟨t, ht, hclaims⟩ := hseats.member hmem
    exact ⟨t, next_task? hnext ht hactor, hclaims⟩
  cases h with
  | @acts task hactor h =>
      refine ⟨h.singleFile, fun {client id} hmem => ?_⟩
      by_cases hid : id = task
      · subst hid
        obtain ⟨t, ht⟩ := h.kept hmem
        exact ⟨t, ht, h.own hmem ht⟩
      · rcases h.others hid hmem with hmem | hclaims
        · exact hkeep hmem fun heq => hid (Option.some.inj (heq.symm.trans hactor))
        · exact hclaims
  | stays hidle hfile hqueue =>
      refine ⟨hfile, fun {client id} hmem => ?_⟩
      rw [hqueue] at hmem
      refine hkeep hmem fun hactor => ?_
      obtain ⟨t, ht, -⟩ := hseats.member hmem
      cases ht.symm.trans (hidle hactor)

theorem start_seats : start.world.Seats where
  singleFile hsome := by cases hsome
  member hmem := by cases hmem

/-- At every reachable moment the queues are in order. -/
theorem Reachable.seats (h : m.Reachable) : m.world.Seats := by
  have hboth : m.CallsFit ∧ m.world.Seats :=
    h.induction (P := fun m => m.CallsFit ∧ m.world.Seats) ⟨start_callsFit, start_seats⟩
      fun ⟨hfit, hseats⟩ hnext =>
        ⟨(hfit.next hnext).fits, (hfit.shifts hseats hnext).seats hseats hnext⟩
  exact hboth.2

end Moment

end Remoting
