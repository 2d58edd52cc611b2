import Remoting.Proofs.Standing

/-!
# Teardowns in runs

What a move of the task of a teardown means: `Moment.Accounts` says where the task is afterwards,
which step has ended with the move, and what the log tells of it. So at every moment of a run the
steps that have ended are those before the one that the task has yet to end, `Moment.Stands`.
-/

namespace Remoting

namespace World

/-- A wait for completion ends with an answer. -/
theorem Awaits.flag {w : World} {task : TaskId} {td : Teardown} {deadline : Nat} {job : Job}
    {reply : Reply} (h : w.Awaits (.teardown td (.drain deadline)) job)
    (hdelivers : w.Delivers task job reply) : ∃ completed, reply = .ok (.flag completed) := by
  obtain rfl | ⟨handler, deadline, rfl⟩ := h <;> exact hdelivers

/-- A wait for completion is overdue just where its time limit has passed. -/
theorem overdue?_drain {w : World} {inner : List Frame}
    (hinner : ∀ frame ∈ inner, frame.hold? = none)
    (td : Teardown) (deadline : Nat) (outer : List Frame) :
    w.overdue? (inner ++ .teardown td (.drain deadline) :: outer) =
      if deadline ≤ w.now then
        some ⟨inner, .teardown td (.drain deadline), .call (.teardown td .release), outer⟩
      else none := by
  induction inner with
  | nil => rfl
  | cons frame inner ih =>
      obtain ⟨hframe, hinner⟩ := List.forall_mem_cons.1 hinner
      have hskip : w.overdue? (frame :: (inner ++ .teardown td (.drain deadline) :: outer)) =
          (w.overdue? (inner ++ .teardown td (.drain deadline) :: outer)).map
            fun cut => { cut with inner := frame :: cut.inner } := by
        cases frame <;> first | rfl | cases hframe
      rw [List.cons_append, hskip, ih hinner]
      split <;> rfl

/-- Where a close hands over a teardown, the new task begins with the first stage. -/
theorem begins_of_lockedClose {w : World} {active : Option TaskId} (h : w.Orderly active)
    {t t' : Task} (ht : t ∈ w.tasks) {client : ClientId} {endpoint : Option EndpointId}
    {strategy : Option StrategyId} (hstate : w.state? client = some (.opened endpoint strategy))
    {interrupt : Option TokenName} {frames : List Frame} {task : TaskId} {td : Teardown}
    (hhanded : (client, .teardown task td) ∈ (w.lockedClose t.id client interrupt frames).contacts)
    (ht' : (w.lockedClose t.id client interrupt frames).task? task = some t') :
    (client, .teardown task td) ∈ w.contacts ∨
      t'.control = .call (.teardown td .shutdown) ∧ t'.frames = [] := by
  obtain ⟨c, hc, -⟩ := state?_eq_some.1 hstate
  obtain ⟨hjoined, hover⟩ := handOver_spec ⟨c, hc⟩ ⟨client, endpoint, strategy, interrupt⟩
  have hfound : (w.clients[client]?.map fun c => c.state) = some (.opened endpoint strategy) :=
    hstate
  simp only [lockedClose, hfound] at hhanded ht'
  generalize w.handOver client ⟨client, endpoint, strategy, interrupt⟩ = pair
    at hjoined hover hhanded ht'
  obtain ⟨joined, u⟩ := pair
  dsimp only at hjoined hover hhanded ht'
  subst hjoined
  -- the lock goes to the new task, or is left, and the close waits
  obtain ⟨v, htasks, hcontacts, hawait⟩ : ∃ v : World, v.tasks = u.tasks ∧ v.contacts = u.contacts ∧
      (if u.running = true then u.giveLock client w.nextTask else u.leaveLock t.id client) = v := by
    refine ⟨_, ?_, ?_, rfl⟩ <;> split
    · rfl
    · exact (relocks_leaveLock u t.id client).same.tasks
    · rfl
    · exact (relocks_leaveLock u t.id client).contacts
  rw [hawait] at hhanded ht'
  have hmem : (client, .teardown task td) ∈ u.contacts := hcontacts ▸ hhanded
  rcases hover.mem_contacts.1 hmem with hbefore | ⟨-, rfl, rfl⟩
  · exact .inl hbefore
  have hne : w.nextTask ≠ t.id := (Nat.ne_of_lt (h.fresh ht)).symm
  have hfind := hover.task?_nextTask h
  rw [World.task?, ← htasks] at hfind
  rw [await, task?_goto_of_ne hne, World.task?, hfind] at ht'
  split at ht'
  · cases ht'
    exact .inr ⟨rfl, rfl⟩
  · cases ht'

end World

namespace Moment

variable {m after : Moment} {move : Move} {moves : List Move} {t t' : Task} {td : Teardown}
  {task : TaskId} {client : ClientId} {step due : TeardownStep} {failure : Option Error}

/-! ## Moves of the task -/

/-- What a move of its task means to a teardown that has yet to end a step: the task is there, and
the log tells the failure of the step if it has ended. -/
inductive Accounts (m after : Moment) (td : Teardown) (move : Move) (due : TeardownStep)
    (t' : Task) : Prop
  /-- No step has ended. -/
  | stays (reaches : t'.Reaches td due)
      (none : ∀ step failure, ¬ m.Concludes td move step failure)
      (same : after.world.tolerated td.client = m.world.tolerated td.client)
  /-- The step is one that the teardown does not have. -/
  | skips {due' : TeardownStep} (reaches : t'.Reaches td due') (place : due'.place = due.place + 1)
      (absent : due ∉ td.steps) (none : ∀ step failure, ¬ m.Concludes td move step failure)
      (same : after.world.tolerated td.client = m.world.tolerated td.client)
  /-- The step has ended. -/
  | ends {due' : TeardownStep} {failure : Option Error} (reaches : t'.Reaches td due')
      (place : due'.place = due.place + 1) (mem : due ∈ td.steps)
      (ends : m.Concludes td move due failure)
      (only : ∀ step failure, m.Concludes td move step failure → step = due)
      (tells : World.Tells td.client due failure m.world after.world)

/-- Where the task is, the steps before its place are those of before and the one that has ended. -/
theorem Accounts.steps (h : m.Accounts after td move due t') :
    ∃ due', t'.Reaches td due' ∧ ∀ step, step ∈ td.steps ∧ step.place < due'.place ↔
      (step ∈ td.steps ∧ step.place < due.place) ∨ ∃ failure, m.Concludes td move step failure := by
  have hnone : ∀ step, (∀ step failure, ¬ m.Concludes td move step failure) →
      ¬ ∃ failure, m.Concludes td move step failure := fun step none ⟨failure, hends⟩ =>
    none step failure hends
  cases h with
  | stays reaches none =>
      exact ⟨due, reaches, fun step => (or_iff_left (hnone step none)).symm⟩
  | skips reaches place absent none =>
      refine ⟨_, reaches, fun step => ?_⟩
      rw [TeardownStep.place_lt_iff place, and_or_left]
      exact or_congr_right ⟨fun ⟨hmem, heq⟩ => absurd (heq ▸ hmem) absent, fun hends =>
        absurd hends (hnone step none)⟩
  | ends reaches place mem ends only =>
      refine ⟨_, reaches, fun step => ?_⟩
      rw [TeardownStep.place_lt_iff place, and_or_left]
      refine or_congr_right ⟨?_, fun ⟨failure, hends⟩ => ?_⟩
      · rintro ⟨-, rfl⟩
        exact ⟨_, ends⟩
      · obtain rfl := only step failure hends
        exact ⟨mem, rfl⟩

/-- At a stage of a teardown no step ends but the one of that stage. -/
theorem Concludes.eq_due (hends : m.Concludes td .step step failure) (h : m.CallsFit)
    (ht : m.polled? = some t) {stage : Teardown.Stage}
    (hcontrol : t.control = .call (.teardown td stage)) : step = stage.due := by
  have hdrives : m.Drives td .step t stage.due := .of_stage h ht rfl hcontrol
  exact hdrives.only h nofun hends

/-- A task at a stage of a teardown is in none of its waits. -/
theorem CallsFit.frames_ne_pause (h : m.CallsFit) (ht : m.polled? = some t) {stage : Teardown.Stage}
    (hcontrol : t.control = .call (.teardown td stage)) {t'' : Task} {pause : Teardown.Pause}
    (found : m.polled? = some t'') : t''.frames ≠ [.teardown td pause] := by
  intro frames
  cases ht.symm.trans found
  have hframes := h.frames_of_stage (World.task?_mem (polled?_task? ht)).1 hcontrol
  cases hframes.symm.trans frames

/-- The stage in which a strategy is closed waits for it, and is passed over without one. -/
theorem accounts_closeStrategy (h : m.CallsFit) (ht : m.polled? = some t)
    (hcontrol : t.control = .call (.teardown td .closeStrategy))
    (hafter : after.world = m.world.runStage t.id td .closeStrategy [])
    (ht' : after.world.task? t.id = some t') : m.Accounts after td .step .closeStrategy t' := by
  have hnone : ∀ step failure, ¬ m.Concludes td .step step failure := by
    intro step failure hends
    obtain rfl := hends.eq_due h ht hcontrol
    cases hends with
    | closeStrategy found frames => exact h.frames_ne_pause ht hcontrol found frames
  rw [hafter] at ht'
  simp only [World.runStage] at ht' hafter
  split at ht'
  next hstrategy =>
    obtain ⟨hcontrol', hframes'⟩ := World.of_task?_goto ht'
    refine .skips (.stage hcontrol' hframes') rfl (fun hmem => ?_) hnone ?_
    · have hsome := td.closeStrategy_mem_steps.1 hmem
      rw [hstrategy] at hsome
      cases hsome
    · rw [hafter, hstrategy]
      rfl
  next strategy hstrategy =>
    obtain ⟨-, hframes'⟩ := World.of_task?_goto ht'
    refine .stays (.alone hframes') hnone ?_
    rw [hafter, hstrategy]
    rfl

/-- The stage in which an endpoint is closed ends at once, and is passed over without one. -/
theorem accounts_closeEndpoint (h : m.CallsFit) (ht : m.polled? = some t)
    (hcontrol : t.control = .call (.teardown td .closeEndpoint))
    (hafter : after.world = m.world.runStage t.id td .closeEndpoint [])
    (ht' : after.world.task? t.id = some t') : m.Accounts after td .step .closeEndpoint t' := by
  rw [hafter] at ht'
  simp only [World.runStage] at ht' hafter
  split at ht'
  next hendpoint =>
    obtain ⟨hcontrol', hframes'⟩ := World.of_task?_goto ht'
    refine .skips (.stage hcontrol' hframes') rfl (fun hmem => ?_) (fun step failure hends => ?_) ?_
    · have hsome := td.closeEndpoint_mem_steps.1 hmem
      rw [hendpoint] at hsome
      cases hsome
    · obtain rfl := hends.eq_due h ht hcontrol
      cases hends with
      | closeEndpoint found control has => cases hendpoint.symm.trans has
    · rw [hafter, hendpoint]
      rfl
  next endpoint hendpoint =>
    obtain ⟨hcontrol', hframes'⟩ := World.of_task?_goto ht'
    refine .ends (.stage hcontrol' hframes') rfl
      (td.closeEndpoint_mem_steps.2 (Option.isSome_iff_exists.2 ⟨_, hendpoint⟩))
      (.closeEndpoint ht hcontrol hendpoint) (fun _ _ hends => hends.eq_due h ht hcontrol) ?_
    rw [hafter, hendpoint]
    exact World.tells_closeEndpoint m.world td.client endpoint

/-- The stage in which operations complete waits for them, unless the close was interrupted. -/
theorem accounts_drain (h : m.CallsFit) (ht : m.polled? = some t)
    (hcontrol : t.control = .call (.teardown td .drain))
    (hafter : after.world = m.world.runStage t.id td .drain [])
    (ht' : after.world.task? t.id = some t') : m.Accounts after td .step .awaitCompletion t' := by
  rw [hafter] at ht'
  simp only [World.runStage] at ht' hafter
  split at ht'
  next hinterrupted =>
    obtain ⟨hcontrol', hframes'⟩ := World.of_task?_goto ht'
    refine .ends (.stage hcontrol' hframes') rfl (td.last_mem_steps (by decide))
      (.awaitCompletion (.skipped ht hcontrol hinterrupted))
      (fun _ _ hends => hends.eq_due h ht hcontrol) (.of_eq ?_)
    rw [hafter, if_pos hinterrupted]
    rfl
  next hinterrupted =>
    obtain ⟨-, hframes'⟩ := World.of_task?_goto ht'
    refine .stays (.alone hframes') (fun step failure hends => ?_) ?_
    · obtain rfl := hends.eq_due h ht hcontrol
      cases hends with
      | awaitCompletion ends =>
          cases ends with
          | skipped found control interrupted => exact hinterrupted interrupted
          | answered found frames | panicked found frames =>
              exact h.frames_ne_pause ht hcontrol found frames
    · rw [hafter, if_neg hinterrupted]
      rfl

/-- The stage in which the endpoint is awaited ends no step. -/
theorem accounts_awaitEndpoint (h : m.CallsFit) (ht : m.polled? = some t)
    (hcontrol : t.control = .call (.teardown td .awaitEndpoint))
    (hafter : after.world = m.world.runStage t.id td .awaitEndpoint [])
    (ht' : after.world.task? t.id = some t') :
    m.Accounts after td .step Teardown.Stage.awaitEndpoint.due t' := by
  -- the wait for the endpoint is no step that could fail
  have hnone : ∀ step failure, ¬ m.Concludes td .step step failure := by
    intro step failure hends
    obtain rfl := hends.eq_due h ht hcontrol
    cases hends
  rw [hafter] at ht'
  simp only [World.runStage] at ht' hafter
  split at ht'
  next hendpoint =>
    obtain ⟨hcontrol', hframes'⟩ := World.of_task?_goto ht'
    refine .stays (Task.Reaches.finish hcontrol' hframes') hnone ?_
    rw [hafter, hendpoint]
    rfl
  next endpoint hendpoint =>
    rw [hendpoint] at hafter
    dsimp only at hafter
    split at ht'
    next hinterrupted =>
      obtain ⟨hcontrol', hframes'⟩ := World.of_task?_goto ht'
      refine .stays (Task.Reaches.finish hcontrol' hframes') hnone ?_
      rw [hafter, if_pos hinterrupted]
      rfl
    next hinterrupted =>
      obtain ⟨-, hframes'⟩ := World.of_task?_goto ht'
      refine .stays (.alone hframes') hnone ?_
      rw [hafter, if_neg hinterrupted]
      rfl

/-- A task at a stage of a teardown makes the calls of that stage. -/
theorem accounts_stage (h : m.CallsFit) (ht : m.polled? = some t) {stage : Teardown.Stage}
    (hcontrol : t.control = .call (.teardown td stage))
    (hafter : after.world = m.world.runStage t.id td stage [])
    (ht' : after.world.task? t.id = some t') : m.Accounts after td .step stage.due t' := by
  have honly : ∀ step failure, m.Concludes td .step step failure → step = stage.due :=
    fun _ _ hends => hends.eq_due h ht hcontrol
  cases stage with
  | shutdown =>
      obtain ⟨hcontrol', hframes'⟩ := World.of_task?_goto (hafter ▸ ht')
      refine .ends (.stage hcontrol' hframes') rfl td.shutdown_mem_steps
        (.shutdown ht hcontrol) honly ?_
      rw [hafter]
      exact World.tells_shutdown _ td.client
  | closeStrategy => exact accounts_closeStrategy h ht hcontrol hafter ht'
  | closeEndpoint => exact accounts_closeEndpoint h ht hcontrol hafter ht'
  | shutdownNow =>
      obtain ⟨hcontrol', hframes'⟩ := World.of_task?_goto (hafter ▸ ht')
      refine .ends (.stage hcontrol' hframes') rfl (td.last_mem_steps (by decide))
        (.shutdownNow ht hcontrol) honly ?_
      rw [hafter]
      exact World.tells_shutdownNow _ td.client
  | drain => exact accounts_drain h ht hcontrol hafter ht'
  | release =>
      obtain ⟨hcontrol', hframes'⟩ := World.of_task?_goto (hafter ▸ ht')
      refine .ends (.stage hcontrol' hframes') rfl (td.last_mem_steps (by decide))
        (.releaseConfiguration ht hcontrol) honly ?_
      rw [hafter]
      exact World.tells_release m.world td.client
  | awaitEndpoint => exact accounts_awaitEndpoint h ht hcontrol hafter ht'
  | finish outcome =>
      obtain ⟨hcontrol', hframes'⟩ := World.of_task?_goto (hafter ▸ ht')
      refine .stays (.done hcontrol' hframes') (fun step failure hends => ?_) ?_
      · obtain rfl := honly step failure hends
        cases hends
      · rw [hafter]
        exact World.tolerated_finish m.world t.id td.client outcome

/-- A step of a task ends a step of a teardown only if it is a step of the teardown itself. -/
theorem Concludes.tears (hends : m.Concludes td .step step failure) (ht : m.polled? = some t) :
    t.Tears td := by
  have htears : ∀ {t' : Task}, m.polled? = some t' → t'.Tears td → t.Tears td := by
    intro t' ht' htears
    cases ht.symm.trans ht'
    exact htears
  cases hends with
  | shutdown found control | shutdownNow found control | releaseConfiguration found control
  | closeEndpoint found control => exact htears found (.stage control)
  | closeStrategy found frames ended =>
      exact htears found (.pause frames (Control.hands_of_ended? ended))
  | awaitCompletion ends =>
      cases ends with
      | skipped found control => exact htears found (.stage control)
      | answered found frames control | panicked found frames control =>
          exact htears found (.pause frames (by rw [control]; rfl))

/-- A task in a wait of a teardown whose step is one of a teardown is inside of nothing else. -/
theorem CallsFit.tears_pause (h : m.CallsFit) (ht : t ∈ m.world.tasks) {inner : List Frame}
    {pause : Teardown.Pause} (hframes : t.frames = inner ++ [.teardown td pause]) {td' : Teardown}
    (htears : t.Tears td') : inner = [] ∧ t.control.hands = true := by
  cases htears with
  | stage control =>
      have hnil := h.frames_of_stage ht control
      exact absurd (hframes.symm.trans hnil)
        (List.append_ne_nil_of_right_ne_nil _ (List.cons_ne_nil _ _))
  | pause frames hands =>
      refine ⟨?_, hands⟩
      obtain ⟨job, hstack⟩ := (h.taskOk ht).typed.stack
      rw [frames, ← List.nil_append (_ :: _)] at hstack
      obtain rfl := hstack.outer_eq_nil
      have hlength := congrArg List.length (hframes.symm.trans frames)
      simpa using hlength

/-- A step of a task inside of a wait of a teardown stays inside. -/
theorem accounts_inside (h : m.CallsFit) (ht : m.polled? = some t) {inner : List Frame}
    {pause : Teardown.Pause} (hframes : t.frames = inner ++ [.teardown td pause])
    (hinside : inner ≠ [] ∨ t.control.hands = false) (hstep : m.world.step? t.id = some after.world)
    (ht' : after.world.task? t.id = some t') : m.Accounts after td .step pause.due t' := by
  have hfind := polled?_task? ht
  have hmem := (World.task?_mem hfind).1
  have htears : ∀ td', ¬ t.Tears td' := by
    intro td' htears
    obtain ⟨hinner, hhands⟩ := h.tears_pause hmem hframes htears
    rcases hinside with hne | hnone
    · exact hne hinner
    · cases hnone.symm.trans hhands
  have hlate : ∀ td' deadline, t.frames.head? = some (.teardown td' (.drain deadline)) →
      (t.control = .reply (.ok (.flag false)) ∨ ∃ content, t.control = .unwind content) →
        World.MayMiss (World.Aside td.client) (td'.client + 1) := by
    intro td' deadline hhead hcontrol
    obtain ⟨outer, hframes'⟩ := List.head?_eq_some_iff.1 hhead
    refine absurd (.pause hframes' ?_) (htears td')
    rcases hcontrol with hcontrol | ⟨content, hcontrol⟩ <;> rw [hcontrol] <;> rfl
  rcases World.runs_step (World.Aside td.client) 0 hfind hstep (fun _ => rfl)
    (fun td' htears' => absurd htears' (htears td')) hlate with ⟨hnil, -⟩ | hruns
  · exact absurd (hframes.symm.trans hnil)
      (List.append_ne_nil_of_right_ne_nil _ (List.cons_ne_nil _ _))
  obtain ⟨control, inner', -, hfind'⟩ := hruns.task? hfind
  obtain rfl := Option.some.inj (hfind'.symm.trans ht')
  -- the step takes away the innermost frame at most, and that is not the teardown
  obtain ⟨rest, hrest⟩ : ∃ rest,
      World.stepFrames t.control t.frames = rest ++ [.teardown td pause] := by
    rw [hframes]
    cases inner with
    | nil =>
        have hnone := hinside.resolve_left fun hne => hne rfl
        refine ⟨[], ?_⟩
        cases hcontrol : t.control <;> rw [hcontrol] at hnone <;> first | rfl | cases hnone
    | cons frame inner =>
        cases t.control with
        | call | wait => exact ⟨frame :: inner, rfl⟩
        | _ => exact ⟨inner, rfl⟩
  have hinside' : inner' ++ World.stepFrames t.control t.frames =
      inner' ++ rest ++ [.teardown td pause] := by
    rw [hrest, List.append_assoc]
  exact .stays (.pause hinside') (fun step failure hends => htears td (hends.tears ht))
    hruns.log.tolerated

/-- A wait of a teardown ends. -/
theorem accounts_ended (h : m.CallsFit) (ht : m.polled? = some t) {pause : Teardown.Pause}
    (hframes : t.frames = [.teardown td pause]) (hhands : t.control.hands = true)
    (hstep : m.world.step? t.id = some after.world) (ht' : after.world.task? t.id = some t') :
    m.Accounts after td .step pause.due t' := by
  have hfind := polled?_task? ht
  have hdrives : m.Drives td .step t pause.due := .of_polled_alone h ht rfl hframes
  have honly : ∀ step failure, m.Concludes td .step step failure → step = pause.due :=
    fun step failure hends => hdrives.only h nofun hends
  have htyped := (h.polled ht).typed
  rw [hframes] at htyped
  cases hcontrol : t.control with
  | call | wait => cases hcontrol ▸ hhands
  | lost =>
      -- only the join of a teardown can be lost
      rw [hcontrol] at htyped
      obtain ⟨joined, hstack, -⟩ := htyped
      obtain ⟨client, heq⟩ := hstack.1.waiter
      cases heq
  | reply reply =>
      rw [hcontrol] at htyped
      obtain ⟨job, hstack, hdelivers⟩ := htyped
      simp only [World.step?, hfind, hcontrol, hframes, Option.some.injEq] at hstep
      rw [← hstep] at ht'
      obtain ⟨hcontrol', hframes'⟩ := World.of_task?_goto ht'
      cases pause with
      | strategy strategy =>
          have hmem : .closeStrategy ∈ td.steps :=
            td.closeStrategy_mem_steps.2 (Option.isSome_iff_exists.2 ⟨_, hstack.1.1⟩)
          have hends : ∀ failure, (Control.reply reply).ended? = some failure →
              m.Concludes td .step .closeStrategy failure := fun failure hended =>
            .closeStrategy ht hframes (hcontrol ▸ hended)
          cases reply with
          | ok value =>
              refine .ends (.stage hcontrol' hframes') rfl hmem (hends _ rfl) honly (.of_eq ?_)
              rw [← hstep]
              exact World.tolerated_strategyClosed m.world td.client strategy
          | error e =>
              refine .ends (.stage hcontrol' hframes') rfl hmem (hends _ rfl) honly ?_
              rw [← hstep]
              exact World.tells_swallow m.world td.client (by decide) e
      | drain deadline =>
          obtain ⟨completed, rfl⟩ := hstack.1.flag hdelivers
          have hmem : .awaitCompletion ∈ td.steps := td.last_mem_steps (by decide)
          have hends := Concludes.awaitCompletion (.answered ht hframes hcontrol)
          cases completed with
          | true =>
              refine .ends (.stage hcontrol' hframes') rfl hmem hends honly (.of_eq ?_)
              rw [← hstep]
              rfl
          | false =>
              refine .ends (.stage hcontrol' hframes') rfl hmem hends honly ?_
              rw [← hstep]
              exact World.tells_drainTimeout m.world td.client
      | endpoint =>
          refine .stays (Task.Reaches.finish hcontrol' hframes') (fun step failure hends => ?_) ?_
          · obtain rfl := honly step failure hends
            cases hends
          · rw [← hstep]
            rfl
  | unwind content =>
      rw [hcontrol] at htyped
      obtain ⟨job, hstack, -⟩ := htyped
      simp only [World.step?, hfind, hcontrol, hframes, Option.some.injEq] at hstep
      rw [← hstep] at ht'
      obtain ⟨hcontrol', hframes'⟩ := World.of_task?_goto ht'
      cases pause with
      | strategy strategy =>
          refine .ends (.stage hcontrol' hframes') rfl
            (td.closeStrategy_mem_steps.2 (Option.isSome_iff_exists.2 ⟨_, hstack.1.1⟩))
            (.closeStrategy ht hframes (by rw [hcontrol]; rfl)) honly ?_
          rw [← hstep]
          exact World.tells_swallowPanic m.world td.client (by decide) (some content)
      | drain deadline =>
          have hmem : .awaitCompletion ∈ td.steps := td.last_mem_steps (by decide)
          refine .ends (.stage hcontrol' hframes') rfl hmem
            (.awaitCompletion (.panicked ht hframes hcontrol)) honly ?_
          rw [← hstep]
          exact World.tells_swallowPanic m.world td.client (by decide) (some content)
      | endpoint =>
          refine .stays (Task.Reaches.finish hcontrol' hframes') (fun step failure hends => ?_) ?_
          · obtain rfl := honly step failure hends
            cases hends
          · rw [← hstep]
            rfl

/-- Where a task is inside of a teardown, no other teardown is inside of that one. -/
theorem CallsFit.inner_unheld (h : m.CallsFit) (ht : t ∈ m.world.tasks) {inner outer : List Frame}
    {pause : Teardown.Pause} (hframes : t.frames = inner ++ .teardown td pause :: outer) :
    outer = [] ∧ ∀ frame ∈ inner, frame.hold? = none := by
  obtain ⟨job, hstack⟩ := (h.taskOk ht).typed.stack
  rw [hframes] at hstack
  exact ⟨hstack.outer_eq_nil, hstack.inner_unheld.2.2.2⟩

/-- A call that is left inside of a teardown, or with it, tells nothing. -/
theorem CallsFit.tolerated_leaveCall (h : m.CallsFit) (ht : t ∈ m.world.tasks) {cut : World.Cut}
    (hframes : t.frames = cut.inner ++ cut.frame :: cut.outer) :
    (m.world.leaveCall t.id t.control cut).tolerated client = m.world.tolerated client := by
  refine World.tolerated_leaveCall m.world t.id t.control cut fun td deadline hmem => ?_
  obtain ⟨first, last, hinner⟩ := List.append_of_mem hmem
  rw [hinner, List.append_assoc, List.cons_append] at hframes
  exact absurd (h.inner_unheld ht hframes).1
    (List.append_ne_nil_of_right_ne_nil _ (List.cons_ne_nil _ _))

/-- A poll of the task of a teardown ends a wait that was interrupted. -/
theorem accounts_poll (h : m.CallsFit) (hdrives : m.Drives td (.poll t.id) t due)
    (hafter : after.world = m.world.cutTask t.id) (ht' : after.world.task? t.id = some t') :
    m.Accounts after td (.poll t.id) due t' := by
  have hfind := hdrives.found
  have hmem := (World.task?_mem hfind).1
  have honly : ∀ step failure, m.Concludes td (.poll t.id) step failure → step = due :=
    fun step failure hends => hdrives.only h nofun hends
  -- only a wait for completion that was interrupted ends with a poll
  have hwaits : ∀ step failure, m.Concludes td (.poll t.id) step failure → ∃ inner deadline,
      t.frames = inner ++ [.teardown td (.drain deadline)] ∧ m.world.interrupted td = true := by
    intro step failure hends
    cases hends with
    | awaitCompletion ends =>
        cases ends with
        | interrupted found frames interrupted =>
            cases hfind.symm.trans found
            exact ⟨_, _, frames, interrupted⟩
  cases hcut : m.world.cut? t.frames with
  | none =>
      rw [World.cutTask_eq_self hfind hcut] at hafter
      rw [hafter, hfind, Option.some.injEq] at ht'
      subst ht'
      refine .stays hdrives.reaches (fun step failure hends => ?_) (hafter ▸ rfl)
      obtain ⟨inner, deadline, hframes, hinterrupted⟩ := hwaits step failure hends
      have hshort := World.cutShort?_of_cut?_eq_none hcut
        (show Frame.teardown td (.drain deadline) ∈ t.frames by simp [hframes])
      rw [World.cutShort?, if_pos hinterrupted] at hshort
      cases hshort
  | some cut =>
      rw [World.cutTask_eq_leaveCall hfind hcut] at hafter
      obtain ⟨hframes', hcontrol⟩ := World.cut?_eq_some hcut
      have hsame : after.world.tolerated td.client = m.world.tolerated td.client :=
        hafter ▸ h.tolerated_leaveCall hmem hframes'
      rw [hafter] at ht'
      obtain rfl := Option.some.inj ((World.task?_leaveCall hfind t.control cut).symm.trans ht')
      cases hdrives.reaches with
      | stage _ hnil | done _ hnil =>
          exact absurd (hframes'.symm.trans hnil)
            (List.append_ne_nil_of_right_ne_nil _ (List.cons_ne_nil _ _))
      | @pause inner pause hframes =>
          rcases split_cases (hframes.symm.trans hframes') with
            ⟨middle, houter⟩ | ⟨hframe, houter⟩ | ⟨middle, houter⟩
          · exact absurd houter.symm (List.append_ne_nil_of_right_ne_nil _ (List.cons_ne_nil _ _))
          · -- the teardown itself is cut short
            rw [← hframe] at hcontrol
            cases pause with
            | strategy => cases hcontrol
            | drain deadline =>
                simp only [World.cutShort?] at hcontrol
                split at hcontrol
                next hinterrupted =>
                  have hmem : .awaitCompletion ∈ td.steps := td.last_mem_steps (by decide)
                  exact .ends (.stage (Option.some.inj hcontrol).symm houter.symm) rfl hmem
                    (.awaitCompletion (.interrupted hfind hframes hinterrupted)) honly
                      (.of_eq hsame)
                next => cases hcontrol
            | endpoint =>
                simp only [World.cutShort?] at hcontrol
                split at hcontrol
                next =>
                  refine .stays (Task.Reaches.finish (Option.some.inj hcontrol).symm houter.symm)
                    (fun step failure hends => ?_) hsame
                  obtain ⟨inner', deadline, hframes', -⟩ := hwaits step failure hends
                  obtain ⟨-, heq⟩ := List.append_inj' (hframes.symm.trans hframes') rfl
                  cases heq
                next => cases hcontrol
          · -- a call inside of it is cut short
            refine .stays (.pause houter) (fun step failure hends => ?_) hsame
            obtain ⟨inner', deadline, hframes', hinterrupted⟩ := hwaits step failure hends
            obtain ⟨-, heq⟩ := List.append_inj' (hframes.symm.trans hframes') rfl
            cases heq
            have hshort := World.cutShort?_of_cut?_eq_none (World.cut?_outer hcut)
              (show Frame.teardown td (.drain deadline) ∈ cut.outer by simp [houter])
            rw [World.cutShort?, if_pos hinterrupted] at hshort
            cases hshort

/-- A look at the time limits ends the wait for completion once its time limit has passed. -/
theorem accounts_expire (h : m.CallsFit) (hdrives : m.Drives td .expire t due)
    (ht : m.polled? = some t) (hafter : after.world = m.world.expireDrain t.id)
    (ht' : after.world.task? t.id = some t') :
    m.Accounts after td .expire due t' := by
  have hfind := hdrives.found
  have hmem := (World.task?_mem hfind).1
  have honly : ∀ step failure, m.Concludes td .expire step failure → step = due :=
    fun step failure hends => hdrives.only h nofun hends
  -- the time limit is noted exactly where a wait is left because of it
  cases hcut : m.world.overdue? t.frames with
  | none =>
      rw [World.expireDrain_eq_self hfind hcut] at hafter
      rw [hafter, hfind, Option.some.injEq] at ht'
      subst ht'
      refine .stays hdrives.reaches (fun step failure hends => ?_) (hafter ▸ rfl)
      cases hends with
      | awaitCompletion ends =>
          cases ends with
          | late found frames due =>
              cases ht.symm.trans found
              rw [frames] at hcut
              rw [World.overdue?_drain (h.inner_unheld hmem frames).2, if_pos due] at hcut
              cases hcut
  | some cut =>
      obtain ⟨hframes, td', deadline, hdue, hframe, hcontrol⟩ := World.overdue?_eq_some hcut
      have hmoved : after.world.task? t.id =
          some { t with control := cut.control, frames := cut.outer } :=
        hafter ▸ World.task?_expireDrain hfind hcut
      obtain rfl := Option.some.inj (hmoved.symm.trans ht')
      rw [hframe] at hframes
      obtain ⟨houter, hinner⟩ := h.inner_unheld hmem hframes
      rw [houter] at hframes
      cases hdrives.reaches with
      | stage _ hnil | done _ hnil =>
          exact absurd (hframes.symm.trans hnil)
            (List.append_ne_nil_of_right_ne_nil _ (List.cons_ne_nil _ _))
      | pause hframes' =>
          obtain ⟨-, heq⟩ := List.append_inj' (hframes.symm.trans hframes') rfl
          cases heq
          have hmem : .awaitCompletion ∈ td.steps := td.last_mem_steps (by decide)
          refine .ends (.stage hcontrol houter) rfl hmem
            (.awaitCompletion (.late ht hframes hdue)) honly ?_
          rw [hafter]
          exact World.tells_expireDrain hfind hcut hframe hinner

/-! ## The beginning of a teardown -/

/-- A task that is handed a teardown begins with its first stage. -/
theorem begins_of_handed (h : m.CallsFit) (hnext : m.next move = some after)
    (hnot : ¬ m.world.Handed td.client)
    (hhanded : .teardown task td ∈ after.world.history td.client)
    (ht' : after.world.task? task = some t') :
    t'.control = .call (.teardown td .shutdown) ∧ t'.frames = [] := by
  obtain ⟨rfl, t, td', ht, ⟨hstate, ⟨reply, hcontrol⟩, frames, hframes⟩, hclient⟩ :=
    takes_of_handed h hnext hnot ⟨task, td, hhanded⟩
  obtain ⟨active, horderly⟩ := h.exists_callsFit
  cases hnext.symm.trans (next_locked ht hframes hcontrol)
  refine (World.begins_of_lockedClose horderly.toOrderly (World.task?_mem (polled?_task? ht)).1
    hstate ?_ ht').resolve_left fun hbefore =>
      hnot ⟨task, td, World.mem_history.2 (hclient ▸ hbefore)⟩
  have hmem := World.mem_history.1 hhanded
  rwa [← hclient] at hmem

/-! ## The steps of a run -/

/-- A step is made by the polled task. -/
theorem step?_of_next (ht : m.world.task? t.id = some t) (hactor : m.actor? .step = some t.id)
    (hnext : m.next .step = some after) :
    m.polled? = some t ∧ m.world.step? t.id = some after.world := by
  obtain ⟨u, hstep, rfl⟩ := step_of_actor? hnext hactor
  exact ⟨polled?_of_actor? hactor ht, hstep⟩

/-- A move of the task of a teardown goes on with it. -/
theorem Drives.accounts (hdrives : m.Drives td move t due) (h : m.CallsFit)
    (hmove : move ≠ .abort t.id) (hnext : m.next move = some after)
    (ht' : after.world.task? t.id = some t') :
    m.Accounts after td move due t' := by
  have hactor := hdrives.actor
  cases move with
  | abort task =>
      cases hactor
      exact absurd rfl hmove
  | poll task =>
      cases hactor
      exact accounts_poll h hdrives (by rw [(next_poll hnext).2]) ht'
  | expire =>
      obtain ⟨hpolling, -, rfl⟩ := expire_of_actor? hnext hactor
      refine accounts_expire h hdrives ?_ rfl ht'
      rw [polled?, hpolling]
      exact hdrives.found
  | step =>
      obtain ⟨ht, hstep⟩ := step?_of_next hdrives.found hactor hnext
      cases hdrives.reaches with
      | @stage stage hcontrol hframes =>
          refine accounts_stage h ht hcontrol ?_ ht'
          simp only [World.step?, hdrives.found, hcontrol, hframes, Option.some.injEq] at hstep
          exact hstep.symm
      | @pause inner pause hframes =>
          by_cases hinside : inner ≠ [] ∨ t.control.hands = false
          · exact accounts_inside h ht hframes hinside hstep ht'
          · obtain ⟨hnil, hhands⟩ := not_or.1 hinside
            obtain rfl := not_not.1 hnil
            exact accounts_ended h ht hframes (Bool.not_eq_false _ ▸ hhands) hstep ht'
      | done hcontrol hframes =>
          simp only [World.step?, hdrives.found, hcontrol, hframes, Option.some.injEq] at hstep
          refine absurd ?_ ((h.next hnext).fits.not_hasEnded ht')
          rw [← hstep]
          exact World.hasEnded_finishTask hdrives.found _
  | _ => cases hactor

/-- The steps that a teardown has ended in the run so far are those before the one that its task has
yet to end. -/
def Stands (m : Moment) (moves : List Move) : Prop :=
  ∀ {task : TaskId} {td : Teardown} {t : Task}, .teardown task td ∈ m.world.history td.client →
    m.world.task? task = some t → ∃ due, t.Reaches td due ∧ ∀ step,
      (∃ failure, StepEnded moves td step failure) ↔ step ∈ td.steps ∧ step.place < due.place

/-- The task of a teardown that goes on has gone on before. -/
theorem CallsFit.exists_task? (h : m.CallsFit) (hnext : m.next move = some after)
    (hhanded : .teardown task td ∈ m.world.history td.client)
    (ht' : after.world.task? task = some t') : ∃ t, m.world.task? task = some t := by
  obtain ⟨active, hfit⟩ := h.exists_callsFit
  obtain ⟨outcome, hclosing⟩ := (hfit.clients td.client).closing hhanded
  rcases hclosing.started with ⟨t, hmem, rfl⟩ | ⟨finish, hfinish⟩
  · exact ⟨t, hfit.task?_eq hmem⟩
  · have hfollows := h.next hnext
    refine absurd ?_ (hfollows.fits.not_hasEnded ht')
    rw [World.HasEnded, hfollows.grows.finished hfinish]
    rfl

/-- The task of a teardown is where the steps that have ended say. -/
theorem stands_run (hrun : start.run moves = some m) : m.Stands moves := by
  refine run_history_induction (P := fun moves m => m.Stands moves)
    (fun hhanded => by cases hhanded) ?_ hrun
  intro moves m move after hrun h hnext task td t' hhanded ht'
  have hfit : m.CallsFit := Reachable.fits ⟨moves, hrun⟩
  have hfit' := (hfit.next hnext).fits
  simp only [stepEnded_snoc hrun, exists_or]
  by_cases hbefore : m.world.Handed td.client
  · obtain ⟨task', td', hhanded₀⟩ := hbefore
    obtain ⟨rfl, rfl⟩ := hfit'.handed_unique hhanded
      (World.mem_history.2 ((hfit.next hnext).grows.mem (World.mem_history.1 hhanded₀)))
    obtain ⟨t, ht⟩ := hfit.exists_task? hnext hhanded₀ ht'
    obtain ⟨due, hreaches, hdone⟩ := h hhanded₀ ht
    by_cases hactor : m.actor? move = some task'
    · obtain ⟨-, rfl⟩ := World.task?_mem ht
      have hdrives : m.Drives td' move t due := ⟨ht, hactor, hhanded₀, hreaches⟩
      have hmove : move ≠ .abort t.id := by
        rintro rfl
        exact hfit'.not_hasEnded ht' (hasEnded_of_abort hnext ht)
      obtain ⟨due', hreaches', hgoes⟩ := (hdrives.accounts hfit hmove hnext ht').steps
      exact ⟨due', hreaches', fun step => (or_congr_left (hdone step)).trans (hgoes step).symm⟩
    · cases ht'.symm.trans (next_task? hnext ht hactor)
      refine ⟨due, hreaches, fun step => (or_iff_left ?_).trans (hdone step)⟩
      rintro ⟨failure, hends⟩
      obtain ⟨task, hhanded₁, hactor₁⟩ := hends.handed hfit
      obtain ⟨rfl, -⟩ := hfit.handed_unique hhanded₀ hhanded₁
      exact hactor hactor₁
  · obtain ⟨hcontrol, hframes⟩ := begins_of_handed hfit hnext hbefore hhanded ht'
    refine ⟨_, .stage hcontrol hframes, fun step =>
      ⟨?_, fun hlt => absurd hlt.2 (Nat.not_lt_zero _)⟩⟩
    rintro (⟨failure, hdone⟩ | ⟨failure, hends⟩)
    · obtain ⟨task', hhanded'⟩ := hdone.handed hrun
      exact absurd ⟨task', td, hhanded'⟩ hbefore
    · obtain ⟨task', hhanded', -⟩ := hends.handed hfit
      exact absurd ⟨task', td, hhanded'⟩ hbefore

end Moment

end Remoting
