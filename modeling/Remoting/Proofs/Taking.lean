import Remoting.Proofs.Holding

/-!
# Calls that get the lock

What a call for a channel or a close does with its first step after it has got the lock of the
client. A call for a channel keeps the lock or is about to end. A close of an open client hands the
lock to the task of the teardown and waits for it, so that this task is the one with the lock from
then on. The first call for a channel may also start the tasks that the endpoint owns.
-/

namespace Remoting

/-- Where a task is that an endpoint owns from the start. -/
inductive Serial.Minds : Control → List Frame → Prop
  | called (ms : Nat) : Minds (.call (.own 0 [.shutdown, .sleep ms])) []
  | order (ms : Nat) : Minds (.wait (.finishOrder 0)) [.owned 0 [.sleep ms]]
  | ordered (ms : Nat) (reply : Reply) : Minds (.reply reply) [.owned 0 [.sleep ms]]
  | told (ms : Nat) : Minds (.call (.own 0 [.sleep ms])) []
  | sleep (deadline : Nat) : Minds (.wait (.sleep deadline)) [.owned 0 []]
  | slept (reply : Reply) : Minds (.reply reply) [.owned 0 []]
  | done : Minds (.call (.own 0 [])) []
  | ends (reply : Reply) : Minds (.reply reply) []

/-- A task that the endpoint of the client owns. -/
structure Task.IsOwned (t : Task) : Prop where
  handle : t.handle = none
  owner : t.owner = some 0
  minds : Serial.Minds t.control t.frames

namespace World

variable {w v u : World} {s : Serial} {task : TaskId} {c : Client} {new : List Task}

/-! ## Owned tasks -/

/-- Some owned tasks have been started. -/
structure Starts (new : List Task) (w v : World) : Prop where
  tasks : v.tasks = w.tasks ++ new
  finished : v.finished = w.finished
  contacts : v.contacts = w.contacts
  view : v.view = { w.view with owned := w.view.owned ++ new.map Task.id }
  owned : ∀ t ∈ new, t.IsOwned

theorem Starts.refl (w : World) : Starts [] w w :=
  ⟨(List.append_nil _).symm, rfl, rfl, by rw [List.map_nil, List.append_nil], by simp⟩

theorem Starts.trans {new' : List Task} (h : Starts new w v) (h' : Starts new' v u) :
    Starts (new ++ new') w u where
  tasks := by rw [h'.tasks, h.tasks, List.append_assoc]
  finished := h'.finished.trans h.finished
  contacts := h'.contacts.trans h.contacts
  view := by rw [h'.view, h.view, List.map_append, List.append_assoc]
  owned t ht := (List.mem_append.1 ht).elim (h.owned t) (h'.owned t)

/-- An endpoint that is not to close starts a task. -/
theorem starts_spawnOwned {plan : Option EndpointPlan} {cancelled : Bool}
    (hopen : w.view.endpoints = [(plan, false, cancelled)]) (hrunning : w.view.running = true)
    (ms : Nat) : ∃ t, Starts [t] w (w.spawnOwned 0 [.shutdown, .sleep ms]).2 := by
  obtain ⟨cell, hcell, hseen⟩ := List.map_eq_singleton_iff.1 hopen
  have hlocal : w.local? 0 = some cell.endpoint := by rw [local?, hcell]; rfl
  have hstate : cell.endpoint.state.isCloseRequested = false :=
    congrArg (fun seen => seen.2.1) hseen
  refine ⟨⟨w.nextTask, .call (.own 0 [.shutdown, .sleep ms]), [], none, some 0⟩, ?_⟩
  have hspawn : (w.spawnOwned 0 [.shutdown, .sleep ms]).2 = ((w.setLocal 0 { cell.endpoint with
      tasks := cell.endpoint.tasks ++ [w.nextTask]
      listeners := cell.endpoint.listeners ++ [w.nextTask] }).addTask
        (.call (.own 0 [.shutdown, .sleep ms])) [] none (some 0)).2 := by
    have hrunning : w.running = true := hrunning
    simp [spawnOwned, hlocal, LocalEndpoint.spawn, hstate, spawn, setLocal, modifyEndpoint,
      hrunning]
  rw [hspawn]
  refine ⟨rfl, rfl, rfl, ?_, ?_⟩
  · refine (view_setLocal hcell _).trans ?_
    simp [view, hcell, EndpointCell.seen, LocalEndpoint.state]
  · rintro t ht
    rw [List.mem_singleton.1 ht]
    exact ⟨rfl, rfl, .called ms⟩

theorem starts_startOwned {plan : Option EndpointPlan} {cancelled : Bool} (tasks : List Nat)
    (hopen : w.view.endpoints = [(plan, false, cancelled)]) (hrunning : w.view.running = true) :
    ∃ new, Starts new w (w.startOwned 0 tasks) := by
  induction tasks generalizing w with
  | nil => exact ⟨[], .refl w⟩
  | cons ms tasks ih =>
      obtain ⟨t, hstarts⟩ := starts_spawnOwned hopen hrunning ms
      obtain ⟨new, hrest⟩ := @ih (w.spawnOwned 0 [.shutdown, .sleep ms]).2
        (by rw [hstarts.view]; exact hopen) (by rw [hstarts.view]; exact hrunning)
      exact ⟨[t] ++ new, hstarts.trans hrest⟩

/-! ## Calls for a channel -/

/-- A call for a channel goes on after it has started some owned tasks. -/
def Gets (task : TaskId) (turn : Serial.Turn) (w u : World) : Prop :=
  ∃ new, (∀ t ∈ new, t.IsOwned) ∧ Onward task new turn w u

theorem Onward.gets {turn : Serial.Turn} (h : Onward task [] turn w u) : Gets task turn w u :=
  ⟨[], by simp, h⟩

/-- The client keeps a new endpoint that has started its tasks, and goes on with the strategy. -/
theorem Acted.keepEndpoint {made : List Contact} (h : Acted [] made w v s)
    (hopen : s.outcome = none)
    (hendpoint : s.endpoint = none) (hstrategy : s.strategy = none) (name : String)
    (plan : Option EndpointPlan) (tasks : List Nat) (task : TaskId) :
    Gets task (({ s with endpoint := some plan }.connect plan).behind made) w
      ((((v.addEndpoint ⟨.fresh name, some 0, plan⟩).2.startOwned 0 tasks).keepEndpoint 0 0).enter
        task (.connect 0 0) []) := by
  have hnone : v.endpoints = [] := endpoints_eq h.shows hendpoint
  have hview : (v.addEndpoint ⟨.fresh name, some 0, plan⟩).2.view.endpoints =
      [(plan, false, false)] := by
    simp only [addEndpoint, view, hnone]
    rfl
  obtain ⟨new, hstarts⟩ := starts_startOwned tasks hview h.shows.running
  have howned : (new.filter fun t => t.owner.isSome) = new :=
    List.filter_eq_self.2 fun t ht => by rw [(hstarts.owned t ht).owner]; rfl
  have hacted : Acted new made w
      (((v.addEndpoint ⟨.fresh name, some 0, plan⟩).2.startOwned 0 tasks).keepEndpoint 0 0)
      { s with endpoint := some plan } :=
    { tasks := hstarts.tasks.trans (by rw [← List.append_nil w.tasks, ← h.tasks]; rfl)
      finished := hstarts.finished.trans h.finished
      calls := by
        have hcalls : World.calls _ 0 = v.calls 0 := calls_of_contacts hstarts.contacts 0
        refine (calls_contact _ 0 (.endpointCreated 0)).trans ?_
        rw [hcalls, h.calls]
        exact List.append_nil _
      owned := by
        refine (congrArg View.owned hstarts.view).trans ?_
        rw [howned]
        refine congrArg (· ++ new.map Task.id) ?_
        rw [← List.append_nil w.view.owned]
        refine Eq.trans ?_ h.owned
        simp only [addEndpoint, view, hnone]
        rfl
      shows := shows_keepEndpoint h.shows hopen hendpoint hstrategy hstarts.view }
  exact ⟨new, hstarts.owned, hacted.busy (.connect hopen rfl hstrategy) task⟩

/-- The first endpoint. -/
theorem first_addEndpoint (h : v.view.Shows s) (hendpoint : s.endpoint = none)
    (cell : EndpointCell) :
    (v.addEndpoint cell).1 = 0 := by
  rw [addEndpoint, endpoints_eq h hendpoint]
  rfl

/-- The factory is asked for an endpoint. -/
theorem gets_createEndpoint (h : w.view.Shows s) (hopen : s.outcome = none)
    (hendpoint : s.endpoint = none) (hstrategy : s.strategy = none) (hshows : c.Shows s)
    (name : String) (task : TaskId) :
    Gets task s.createEndpoint w (w.createEndpoint task 0 c name []) := by
  have hcontact := acted_contact h .createEndpoint rfl
  unfold World.createEndpoint Serial.createEndpoint
  rw [hshows.factory, hshows.endpointCalls]
  dsimp only
  split
  next hplain =>
    rw [first_addEndpoint hcontact.shows hendpoint]
    exact hcontact.keepEndpoint hopen hendpoint hstrategy name none [] task
  next hplain =>
    have hcount : Acted [] [.createEndpoint] w
      (((w.contact 0 .createEndpoint).modifyClient 0 fun c =>
        { c with endpointCalls := c.endpointCalls + 1 }).emit (.createEndpoint name))
          { s with endpointCalls := s.endpointCalls + 1 } := by
      have hquiet : Quiet (w.contact 0 .createEndpoint)
        ((w.contact 0 .createEndpoint).modifyClient 0
          fun c => { c with endpointCalls := c.endpointCalls + 1 }) :=
        quiet_modifyClient _ 0 (fun _ => rfl) (fun _ => rfl) fun _ => rfl
      exact (hcontact.goes hquiet rfl (shows_countEndpoint hcontact.shows)).quiet (quiet_emit _ _)
        (view_emit _ _)
    cases (s.factory.endpoint s.endpointCalls).create with
    | fail error => exact (hcount.failChannel task error).gets
    | panic content => exact (hcount.panicChannel task content).gets
    | succeed =>
        dsimp only
        rw [first_addEndpoint hcount.shows hendpoint]
        exact hcount.keepEndpoint hopen hendpoint hstrategy name
          (some (s.factory.endpoint s.endpointCalls))
          (s.factory.endpoint s.endpointCalls).tasks task

/-- A call for a channel has got the lock. -/
theorem gets_lockedChannel (h : w.view.Shows s) (task : TaskId) :
    Gets task s.get w (w.lockedChannel task 0 []) := by
  obtain ⟨c, cell, hc, hshows, hcell, hconfig⟩ := exists_configOf? h
  have hrefl := Acted.refl h
  have hstate := hshows.state
  unfold World.lockedChannel Serial.get
  rw [hc, hcell]
  dsimp only
  cases houtcome : s.outcome with
  | some outcome =>
      rw [show c.state = .closed outcome by rw [hstate, Serial.state, houtcome]]
      exact (hrefl.failChannel task _).gets
  | none =>
      cases hstrategy : s.strategy with
      | some plan =>
          rw [show c.state = .opened (s.endpoint.map fun _ => 0) (some 0) by
            rw [hstate, Serial.state, houtcome, hstrategy]; rfl]
          exact (hrefl.busy (.openChannel houtcome hstrategy) task).gets
      | none =>
          cases hendpoint : s.endpoint with
          | some endpoint =>
              rw [show c.state = .opened (some 0) none by
                rw [hstate, Serial.state, houtcome, hstrategy, hendpoint]; rfl]
              have honward := hrefl.busy (.connect houtcome hendpoint hstrategy) task
              rw [Serial.Turn.behind_nil] at honward
              exact honward.gets
          | none =>
              rw [show c.state = .opened none none by
                rw [hstate, Serial.state, houtcome, hstrategy, hendpoint]; rfl]
              exact gets_createEndpoint h houtcome hendpoint hstrategy hshows _ task

/-! ## Closes -/

/-- A close of a closed client has got the lock. -/
theorem onward_lockedClose {outcome : Except Error Unit} (h : w.view.Shows s)
    (hclosed : s.outcome = some outcome) (task : TaskId) (interrupt : Option TokenName) :
    Onward task [] s.close w (w.lockedClose task 0 interrupt []) := by
  obtain ⟨c, hc, hshows, -⟩ := exists_client h
  have hstate : c.state = .closed outcome := by rw [hshows.state, Serial.state, hclosed]
  have hends := ((Acted.refl h).leaveLock task).ends
    (.replies (closeReply (outcome.mapError Error.clone)) (.inl rfl)) task
  have hpresent : ∀ v : World, (closeReply (outcome.mapError Error.clone)).map v.present =
      closeReply (outcome.mapError Error.clone) := fun v => by cases outcome <;> rfl
  rw [hpresent] at hends
  simp only [World.lockedClose, hc, Serial.close, hclosed, List.getElem?_cons_zero, Option.map_some,
    hstate]
  exact hends

/-- The client after a close has handed it to the task of the teardown. -/
theorem acted_handOver (h : w.view.Shows s) (interrupt : Option TokenName) :
    Acted [⟨w.nextTask, .call (.teardown (s.taken interrupt) .shutdown), [], none, none⟩] [] w
      ((w.handOver 0 (s.taken interrupt)).2.giveLock 0 w.nextTask)
      { s with outcome := some (.ok ()) } := by
  have hrunning : (w.markClosed 0).running = true := h.running
  have hhand : (w.handOver 0 (s.taken interrupt)).2 =
      (((w.markClosed 0).addTask
        (.call (.teardown (s.taken interrupt) .shutdown)) [] none none).2).contact 0
        (.teardown w.nextTask (s.taken interrupt)) := by
    simp only [handOver, spawn, hrunning, if_true]
    rfl
  have hview : ((w.handOver 0 (s.taken interrupt)).2.giveLock 0 w.nextTask).view =
      (w.markClosed 0).view := by
    rw [view_giveLock, hhand]
    rfl
  refine ⟨?_, ?_, ?_, ?_, ?_⟩
  · rw [hhand]
    rfl
  · rw [hhand]
    rfl
  · rw [hhand]
    exact calls_contact w 0 (.teardown w.nextTask (s.taken interrupt))
  · rw [hview]
    exact (List.append_nil _).symm
  · rw [hview]
    exact shows_markClosed h

/-- A close of an open client hands the lock to the task of the teardown. -/
theorem lockedClose_eq (h : w.view.Shows s) (hopen : s.outcome = none) (task : TaskId)
    (interrupt : Option TokenName) : w.lockedClose task 0 interrupt [] =
      ((w.handOver 0 (s.taken interrupt)).2.giveLock 0 w.nextTask).goto task
        (.wait (.join w.nextTask)) [.closeJoin 0] := by
  obtain ⟨c, hc, hshows, -⟩ := exists_client h
  have hstate : c.state = .opened (s.endpoint.map fun _ => 0) (s.strategy.map fun _ => 0) := by
    rw [hshows.state, Serial.state, hopen]
  have hrunning : w.running = true := h.running
  have hhanded : (w.handOver 0 (s.taken interrupt)).1 = w.nextTask ∧
      (w.handOver 0 (s.taken interrupt)).2.running = true := by
    simp [handOver, spawn, markClosed, untrack, modifyClient, hrunning, addTask, signal, contact]
  simp only [World.lockedClose, hc, List.getElem?_cons_zero, Option.map_some, hstate]
  show World.await (if (w.handOver 0 (s.taken interrupt)).2.running = true then _ else _) _ _ _ = _
  rw [if_pos hhanded.2]
  show World.await (World.giveLock _ _ (w.handOver 0 (s.taken interrupt)).1) _
    (.join (w.handOver 0 (s.taken interrupt)).1) _ = _
  rw [hhanded.1]
  rfl

/-- The task of the teardown has the lock of a client that is closed. -/
theorem busy_handOver (hopen : s.outcome = none) (hasked : s.asked = false)
    (interrupt : Option TokenName) : Serial.Busy { s with outcome := some (.ok ()) }
      (.call (.teardown (s.taken interrupt) .shutdown)) [] s.close := by
  have hclose : s.close = Serial.stage { s with outcome := some (.ok ()) } .shutdown := by
    simp only [Serial.close, hopen, Serial.stage]
  rw [hclose]
  exact .stage rfl fun _ => hasked

end World

end Remoting
