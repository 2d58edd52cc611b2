import Remoting.Proofs.Acting

/-!
# Calls that leave the clients alone

Collaborators at work, endpoints, owned tasks and operations: their steps change no lock and no
connection of a client, and each hands to the frame around it only what that frame can wait for.
-/

namespace Remoting.World

variable {w : World} {task : TaskId} {frames : List Frame} {reply : Reply}

/-! ## Collaborators at work -/

/-- Every frame that waits for a collaborator can wait forever. -/
theorem Awaits.forever {frame : Frame} {ending : Ending} (h : w.Awaits frame (.behave ending)) :
    w.Awaits frame (.wait .forever) := by
  cases frame with
  | creation | supplied | completion => exact .inl rfl
  | channel =>
      obtain ⟨ending', hasked, -⟩ := h
      exact ⟨ending', hasked, .inr rfl⟩
  | opening | operation => exact .inr rfl
  | teardown t pause =>
      cases pause with
      | strategy => exact ⟨h.1, .inl rfl⟩
      | drain => obtain h | ⟨handler, deadline, h⟩ := h <;> cases h
      | endpoint => obtain ⟨endpoint, cell, -, -, h | ⟨h, -⟩⟩ := h <;> cases h
  | endpointClosed endpoint =>
      obtain ⟨cell, plan, hcell, hplan, hjob⟩ := h
      refine ⟨cell, plan, hcell, hplan, ?_⟩
      split at hjob
      · exact .inr rfl
      · cases hjob
  | owned => obtain h | ⟨deadline, h⟩ := h <;> cases h
  | _ => simp [Awaits] at h

/-- A collaborator takes its time. -/
theorem At.behave {behaviour : Behaviour} (h : w.At task (.call (.behave behaviour)) frames) :
    Advances task w (w.behave task behaviour frames) := by
  have hstack : w.Stack task (.behave behaviour.ending) frames := h.typed
  unfold World.behave
  split
  · exact h.push (.refl w) rfl rfl ⟨⟨_, rfl⟩, hstack⟩
  · split
    · exact h.stay (.refl w) rfl (hstack.become nofun nofun fun _ => Awaits.forever)
    · cases hending : behaviour.ending with
      | succeed =>
          rw [hending] at hstack
          exact h.stay (.refl w) rfl ⟨_, hstack, .inl ⟨_, rfl, rfl⟩⟩
      | fail error =>
          rw [hending] at hstack
          exact h.stay (.refl w) rfl ⟨_, hstack, .inr ⟨_, rfl, rfl⟩⟩
      | panic content =>
          rw [hending] at hstack
          exact h.stay (.refl w) rfl ⟨_, hstack, rfl⟩

/-- A collaborator has taken its time. -/
theorem At.resumeBehaviour {behaviour : Behaviour}
    (h : w.At task (.reply reply) (.behaviour behaviour :: frames)) :
    Advances task w (w.enter task (.behave behaviour) frames) := by
  obtain ⟨job, -, hstack, -⟩ := h.reply
  exact h.pop (.refl w) rfl hstack

/-! ## Endpoints -/

theorem At.awaitLocal {endpoint : EndpointId}
    (h : w.At task (.call (.awaitLocal endpoint)) frames) :
    Advances task w (w.awaitLocal task endpoint frames) :=
  h.push (.refl w) rfl rfl ⟨rfl, h.typed⟩

/-- The close of an endpoint was requested. -/
theorem At.resumeRequest {endpoint : EndpointId}
    (h : w.At task (.reply reply) (.localRequest endpoint :: frames)) :
    Advances task w (w.await task (.tasksGone endpoint) (.localTasks endpoint :: frames)) := by
  obtain ⟨job, -, hstack, -⟩ := h.reply
  refine h.inner (.refl w) rfl (fun frame hframe => ?_) ⟨rfl, hstack⟩
  rcases List.mem_cons.1 hframe with rfl | hframe
  · exact .inr rfl
  · exact .inl (List.mem_cons_of_mem _ hframe)

/-- The tasks of an endpoint are gone. -/
theorem At.finishClosure {endpoint : EndpointId}
    (h : w.At task (.reply reply) (.localTasks endpoint :: frames)) :
    Advances task w (w.finishClosure task endpoint frames) := by
  obtain ⟨job, -, hstack, -⟩ := h.reply
  exact h.pop (quiet_finishLocal w endpoint) rfl ⟨_, hstack, trivial⟩

/-- An endpoint with a behaviour exists and has it. -/
theorem exists_of_endpointPlan? {endpoint : EndpointId} {plan : EndpointPlan}
    (h : w.endpointPlan? endpoint = some plan) :
    ∃ cell, w.endpoints[endpoint]? = some cell ∧ cell.plan = some plan :=
  Option.bind_eq_some_iff.1 h

theorem endpointPlan?_of_cell {endpoint : EndpointId} {cell : EndpointCell}
    (h : w.endpoints[endpoint]? = some cell) : w.endpointPlan? endpoint = cell.plan := by
  rw [endpointPlan?, h, Option.bind_some]

theorem At.awaitClosed {endpoint : EndpointId}
    (h : w.At task (.call (.awaitClosed endpoint)) frames) :
    Advances task w (w.awaitClosed task endpoint frames) := by
  have hstack : w.Stack task (.awaitClosed endpoint) frames := h.typed
  unfold World.awaitClosed
  split
  next hplan =>
      refine h.push (.refl w) rfl rfl ⟨rfl, hstack.become nofun nofun fun frame hawaits => ?_⟩
      obtain ⟨t, rfl⟩ := hawaits.waiter
      obtain ⟨other, cell, hother, hcell, hjob | ⟨hjob, -⟩⟩ := hawaits
      · cases hjob
        rw [endpointPlan?_of_cell hcell] at hplan
        exact ⟨_, cell, hother, hcell, .inr ⟨rfl, hplan⟩⟩
      · cases hjob
  next plan hplan =>
      obtain ⟨cell, hcell, hcellPlan⟩ := exists_of_endpointPlan? hplan
      dsimp only
      split
      next behaviour hawait =>
          refine h.push (quiet_emit w _) rfl rfl ⟨⟨cell, plan, hcell, hcellPlan, ?_⟩, hstack⟩
          rw [hawait]
          exact .inl rfl
      next hawait =>
          refine h.push (quiet_emit w _) rfl rfl ⟨⟨cell, plan, hcell, hcellPlan, ?_⟩, hstack⟩
          rw [hawait]
          rfl

/-- What ends the wait of an endpoint that has a behaviour: the end of that behaviour. -/
theorem awaitPanic?_of_cell {endpoint : EndpointId} {cell : EndpointCell} {plan : EndpointPlan}
    (hcell : w.endpoints[endpoint]? = some cell) (hplan : cell.plan = some plan) :
    w.awaitPanic? endpoint = plan.await.bind fun behaviour =>
      match behaviour.ending with
      | .panic content => some content
      | _ => none := by
  rw [awaitPanic?, endpointPlan?_of_cell hcell, hplan]
  rfl

/-- The wait for the closure of an endpoint with a behaviour ends without a panic. -/
theorem At.resumeClosed {endpoint : EndpointId}
    (h : w.At task (.reply reply) (.endpointClosed endpoint :: frames)) :
    Advances task w ((w.emit .endpointClosed).answer task reply frames) := by
  obtain ⟨job, ⟨cell, plan, hcell, hplan, hjob⟩, hstack, hdelivers⟩ := h.reply
  refine h.pop (quiet_emit w _) rfl ⟨_, hstack, ?_⟩
  show w.awaitPanic? endpoint = none
  rw [awaitPanic?_of_cell hcell hplan]
  split at hjob
  next behaviour hawait =>
      obtain rfl | rfl := hjob
      · rw [hawait]
        rcases hdelivers with ⟨value, -, hending⟩ | ⟨error, -, hending⟩ <;>
          simp only [Option.bind_some, hending]
      · cases hdelivers
  next hawait => rw [hawait, Option.bind_none]

theorem At.runOwned {endpoint : EndpointId} {script : List OwnedStep}
    (h : w.At task (.call (.own endpoint script)) frames) :
    Advances task w (w.runOwned task endpoint script frames) := by
  have hstack : w.Stack task .own frames := h.typed
  unfold World.runOwned
  split
  · exact h.stay (.refl w) rfl ⟨_, hstack, trivial⟩
  · exact h.push (.refl w) rfl rfl ⟨.inl rfl, hstack⟩
  · exact h.push (.refl w) rfl rfl ⟨.inr ⟨_, rfl⟩, hstack⟩
  · exact h.stay (quiet_emit w _) rfl hstack
  · exact h.stay (quiet_emit w _) rfl hstack
  · exact h.stay (.refl w) rfl (hstack.become nofun nofun fun _ hawaits => hawaits.waiter.elim)
  · exact h.stay (.refl w) rfl ⟨_, hstack, trivial⟩

/-- The wait in the script of an owned task is over. -/
theorem At.resumeOwned {endpoint : EndpointId} {rest : List OwnedStep}
    (h : w.At task (.reply reply) (.owned endpoint rest :: frames)) :
    Advances task w (w.enter task (.own endpoint rest) frames) := by
  obtain ⟨job, -, hstack, -⟩ := h.reply
  exact h.pop (.refl w) rfl hstack

/-! ## Waits -/

theorem At.await {wait : Wait} (h : w.At task (.call (.await wait)) frames) :
    Advances task w (w.await task wait frames) :=
  h.stay (.refl w) rfl h.typed

theorem At.awaitDrained {handler : HandlerId} {ms : Nat}
    (h : w.At task (.call (.awaitDrained handler ms)) frames) :
    Advances task w (w.await task (.drained handler (w.after ms)) frames) := by
  have hstack : w.Stack task .awaitDrained frames := h.typed
  exact h.stay (.refl w) rfl (hstack.become nofun nofun fun _ hawaits => hawaits.waiter.elim)

/-- A wait is over. -/
theorem At.ready {wait : Wait} {control : Control} (h : w.At task (.wait wait) frames)
    (hready : w.ready? task wait = some control) :
    Advances task w (w.goto task control frames) := by
  have hstack : w.Stack task (.wait wait) frames := h.typed
  cases wait with
  | forever => cases hready
  | lock client =>
      simp only [World.ready?, Option.ite_none_right_eq_some, Option.some.injEq] at hready
      obtain ⟨hlock, rfl⟩ := hready
      refine h.stay (.refl w) rfl ⟨_, hstack, ?_⟩
      show w.owner? client = some task
      simpa [ownsLock, owner?, Option.any_eq_true, Option.bind_eq_some_iff] using hlock
  | join joined =>
      simp only [World.ready?, Option.map_eq_some_iff] at hready
      obtain ⟨finish, hfinish, rfl⟩ := hready
      cases finish with
      | value => exact h.stay (.refl w) rfl ⟨_, hstack, hfinish⟩
      | panicked => exact h.stay (.refl w) rfl ⟨_, hstack, hfinish⟩
      | aborted => exact h.stay (.refl w) rfl ⟨joined, hstack, hfinish⟩
  | sleep | closeRequested | tasksGone | finishOrder =>
      simp only [World.ready?, Option.ite_none_right_eq_some, Option.some.injEq] at hready
      obtain ⟨-, rfl⟩ := hready
      exact h.stay (.refl w) rfl ⟨_, hstack, trivial⟩
  | drained =>
      simp only [World.ready?, Option.map_eq_some_iff] at hready
      obtain ⟨drained, -, rfl⟩ := hready
      exact h.stay (.refl w) rfl ⟨_, hstack, drained, rfl⟩
  | state =>
      simp only [World.ready?, Option.bind_eq_some_iff, Option.ite_none_right_eq_some,
        Option.some.injEq] at hready
      obtain ⟨state, -, -, rfl⟩ := hready
      exact h.stay (.refl w) rfl ⟨_, hstack, trivial⟩

/-! ## Operations -/

/-- A handler gets a channel from its source. -/
theorem At.supply {handler : HandlerId} (h : w.At task (.call (.supply handler)) frames) :
    Advances task w (w.supply task handler frames) := by
  have hstack : w.Stack task (.supply handler) frames := h.typed
  -- the operation around the call goes on to wait for what its source does
  have hsource : ∀ {client?}, w.source? handler = some client? →
      w.Stack task (client?.elim .supplied .clientSupply) frames := by
    intro client? hclient
    refine hstack.become (fun _ hjob => by cases hjob)
      (by intro hjob; cases client? <;> cases hjob) fun frame hawaits => ?_
    obtain ⟨operation, script, site, rfl⟩ := hawaits.waiter
    cases client? with
    | none => exact .inr (.inl ⟨rfl, hclient⟩)
    | some client => exact .inr (.inr ⟨client, rfl, hclient⟩)
  unfold World.supply
  split
  next channels calls hsupplier =>
      simp only [Option.map_eq_some_iff] at hsupplier
      obtain ⟨cell, hcell, hsupplier⟩ := hsupplier
      have hnone : w.source? handler = some none := by
        simp [source?, hcell, hsupplier, Supplier.client?]
      refine h.push (quiet_modifyHandler w handler fun hcell' => ?_) rfl rfl
        ⟨.inr ⟨_, rfl⟩, hsource hnone⟩
      rw [hcell, Option.some.injEq] at hcell'
      rw [← hcell', hsupplier]
      rfl
  next client hsupplier =>
      simp only [Option.map_eq_some_iff] at hsupplier
      obtain ⟨cell, hcell, hsupplier⟩ := hsupplier
      have hsome : w.source? handler = some (some client) := by
        simp [source?, hcell, hsupplier, Supplier.client?]
      exact h.stay (.refl w) rfl (hsource hsome)
  next => exact h.stay (.refl w) rfl ⟨_, hstack, fun _ heq => by cases heq⟩

/-- A client's source of channels gets one as any call does, as long as the client exists. -/
theorem At.clientSupply {client : ClientId} (h : w.At task (.call (.clientSupply client)) frames) :
    Advances task w (w.clientSupply task client frames) := by
  have hstack : w.Stack task (.clientSupply client) frames := h.typed
  unfold World.clientSupply
  split
  · exact h.push (.refl w) rfl rfl ⟨rfl, hstack⟩
  · exact h.stay (.refl w) rfl ⟨_, hstack, fun _ => nofun⟩

/-- A client's source of channels has got one. -/
theorem At.resumeKeep {client : ClientId} (h : w.At task (.reply reply) (.keep client :: frames)) :
    Advances task w (w.answer task reply frames) := by
  obtain ⟨job, rfl, hstack, hdelivers⟩ := h.reply
  exact h.pop (.refl w) rfl ⟨_, hstack, hdelivers⟩

/-- A stand-alone source has taken its time. -/
theorem At.supplied {channel : ChannelId}
    (h : w.At task (.reply reply) (.supplied channel :: frames)) :
    Advances task w (w.supplied task channel reply frames) := by
  obtain ⟨job, -, hstack, -⟩ := h.reply
  exact h.pop (.refl w) rfl ⟨_, hstack, trivial⟩

theorem At.execute {handler : HandlerId} {routine : Routine} {client : Option ClientId}
    (h : w.At task (.call (.execute handler routine client)) frames) :
    Advances task w (w.execute task handler routine client frames) := by
  have hstack : w.Stack task .execute frames := h.typed
  have hquiet := quiet_registerOperation w handler
  unfold World.execute
  split
  next hregister =>
      rw [hregister] at hquiet
      exact h.stay hquiet rfl ⟨_, hstack, trivial⟩
  next hregister =>
      rw [hregister] at hquiet
      exact h.push hquiet rfl rfl ⟨.inl rfl, hstack⟩

/-- An operation whose source of channels has answered is called, or ends at once. -/
theorem At.startOperation {handler : HandlerId} {operation : OperationId} {routine : Routine}
    {client : Option ClientId}
    (h : w.At task (.reply reply) (.supply handler operation routine client :: frames)) :
    Advances task w (w.startOperation task handler operation routine client reply frames) := by
  obtain ⟨job, -, hstack, -⟩ := h.reply
  unfold World.startOperation
  split
  · refine h.inner (quiet_bindOperation w _ _ _) rfl (fun frame hframe => ?_) ⟨.inl rfl, hstack⟩
    rcases List.mem_cons.1 hframe with rfl | hframe
    · exact .inr rfl
    · exact .inl (List.mem_cons_of_mem _ hframe)
  · exact h.pop (quiet_endOperation w _ _) rfl ⟨_, hstack, trivial⟩

/-- The body of an operation that was called starts, unless the operation was cancelled. -/
theorem At.startBody {operation : OperationId} {body : Script} {site : Site}
    (h : w.At task (.reply reply) (.opening operation body site :: frames)) :
    Advances task w (w.startBody task operation body site frames) := by
  obtain ⟨job, -, hstack, -⟩ := h.reply
  unfold World.startBody
  split
  · exact h.pop (quiet_endOperation w _ _) rfl ⟨_, hstack, trivial⟩
  · refine h.inner (.refl w) rfl (fun frame hframe => ?_) ⟨.inl rfl, hstack⟩
    rcases List.mem_cons.1 hframe with rfl | hframe
    · exact .inr rfl
    · exact .inl (List.mem_cons_of_mem _ hframe)

/-- An operation has run. -/
theorem At.endExecute {handler : HandlerId} {operation : OperationId}
    (h : w.At task (.reply reply) (.operation handler operation :: frames)) :
    Advances task w (w.endExecute task handler operation reply frames) := by
  obtain ⟨job, -, hstack, -⟩ := h.reply
  exact h.pop (quiet_endOperation w _ _) rfl ⟨_, hstack, trivial⟩

/-- A step of an operation's script. -/
theorem At.operate {script : Script} {site : Site}
    (h : w.At task (.call (.operate script site)) frames) :
    Advances task w (w.operate task script site frames) := by
  have hstack : w.Stack task .operate frames := h.typed
  unfold World.operate
  split
  · exact h.stay (.refl w) rfl ⟨_, hstack, trivial⟩
  · exact h.push (.refl w) rfl rfl ⟨⟨_, rfl⟩, hstack⟩
  · exact h.stay (quiet_emit w _) rfl hstack
  · refine h.stay (.refl w) rfl (hstack.become nofun nofun fun frame hawaits => ?_)
    obtain ⟨operation, body, site, rfl⟩ | ⟨handler, operation, rfl⟩ := hawaits.waiter <;>
      exact .inr rfl
  · exact h.stay (.refl w) rfl ⟨_, hstack, trivial⟩
  · exact h.stay (.refl w) rfl ⟨_, hstack, trivial⟩
  · exact h.stay (.refl w) rfl ⟨_, hstack, trivial⟩
  · exact h.stay (.refl w) rfl ⟨_, hstack, trivial⟩
  · exact h.stay (quiet_closeChannel w _) rfl ⟨_, hstack, trivial⟩
  · exact h.stay (quiet_shutdownHandler w _) rfl hstack
  · exact h.stay (quiet_shutdownHandlerNow w _) rfl hstack
  · exact h.stay (quiet_handlerChannelClosed w _ _ _) rfl hstack
  · exact h.stay (quiet_emit w _) rfl hstack
  · exact h.push (.refl w) rfl rfl ⟨.inl rfl, hstack⟩
  · split
    · exact h.push (.refl w) rfl rfl ⟨.inr ⟨_, .inl rfl⟩, hstack⟩
    · exact h.stay (.refl w) rfl hstack
  · split
    · exact h.push (.refl w) rfl rfl ⟨.inr ⟨_, .inr rfl⟩, hstack⟩
    · exact h.stay (.refl w) rfl hstack

/-- The wait in an operation's script is over. -/
theorem At.resumeScript {rest : Script} {site : Site}
    (h : w.At task (.reply reply) (.script rest site :: frames)) :
    Advances task w (w.enter task (.operate rest site) frames) := by
  obtain ⟨job, -, hstack, -⟩ := h.reply
  exact h.pop (.refl w) rfl hstack

/-- A call inside an operation has ended. -/
theorem At.nestedDone {rest : Script} {site : Site}
    (h : w.At task (.reply reply) (.nested rest site :: frames)) :
    Advances task w (w.nestedDone task rest site reply frames) := by
  obtain ⟨job, -, hstack, -⟩ := h.reply
  exact h.pop (quiet_emit w _) rfl hstack

/-! ## Associations -/

theorem At.awaitCompletion {client : ClientId}
    (h : w.At task (.call (.awaitCompletion client)) frames) :
    Advances task w (w.awaitCompletion task client frames) := by
  have hstack : w.Stack task .awaitCompletion frames := h.typed
  unfold World.awaitCompletion
  dsimp only
  split
  · refine h.stay (.refl w) rfl (hstack.become nofun nofun fun frame hawaits => ?_)
    obtain ⟨t, deadline, rfl⟩ := hawaits.waiter
    exact .inr ⟨_, _, rfl⟩
  · exact h.push (quiet_emit w _) rfl rfl ⟨.inr ⟨_, rfl⟩, hstack⟩
  · exact h.stay (.refl w) rfl ⟨_, hstack, true, rfl⟩

/-- A recording association has taken its time. -/
theorem At.resumeCompletion {completed : Bool}
    (h : w.At task (.reply reply) (.completion completed :: frames)) :
    Advances task w ((w.emit .handlerCompletion).answer task (.ok (.flag completed)) frames) := by
  obtain ⟨job, -, hstack, -⟩ := h.reply
  exact h.pop (quiet_emit w _) rfl ⟨_, hstack, completed, rfl⟩

/-! ## Closes -/

/-- The teardown that a close waits for has ended. -/
theorem At.resumeJoin {client : ClientId}
    (h : w.At task (.reply reply) (.closeJoin client :: frames)) :
    Advances task w (w.answer task reply frames) := by
  obtain ⟨job, -, hstack, -⟩ := h.reply
  exact h.pop (.refl w) rfl ⟨_, hstack, trivial⟩

/-- The close of a client that was dropped while open has ended. -/
theorem At.endBackground {client : ClientId}
    (h : w.At task (.reply reply) (.background client :: frames)) :
    Advances task w (w.endBackground task client reply frames) := by
  obtain ⟨job, -, hstack, -⟩ := h.reply
  unfold World.endBackground
  dsimp only
  refine h.pop ?_ rfl ⟨_, hstack, trivial⟩
  split
  · exact .refl w
  · exact quiet_warn w _

end Remoting.World
