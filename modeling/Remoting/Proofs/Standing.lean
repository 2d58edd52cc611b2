import Remoting.Proofs.Tolerated
import Remoting.Proofs.Cancelling

/-!
# The steps of a teardown

The task of a teardown goes through its steps one after the other. `Task.Reaches` says which step it
has yet to end, and `Moment.Concludes` with which move a step ends and with what failure. The wait
for completion is a step with many endings: `Moment.EndsDrain` says how it ends. In a run from the
empty world the steps that have ended are those that are `Moment.StepEnded`.
-/

namespace Remoting

/-! ## The order of the steps -/

/-- The place of a step in the order of a teardown. -/
def TeardownStep.place (step : TeardownStep) : Nat :=
  TeardownStep.all.idxOf step

/-- Steps are told apart by their places. -/
theorem TeardownStep.place_inj {step step' : TeardownStep} (h : step.place = step'.place) :
    step = step' :=
  (List.idxOf_inj (by cases step <;> decide)).1 h

/-- The steps before a step are those before its predecessor and the predecessor. -/
theorem TeardownStep.place_lt_iff {step due due' : TeardownStep} (h : due'.place = due.place + 1) :
    step.place < due'.place ↔ step.place < due.place ∨ step = due := by
  rw [h, Nat.lt_succ_iff_lt_or_eq]
  exact or_congr_right ⟨place_inj, congrArg place⟩

namespace Teardown

/-- The steps of a teardown in order: it closes what its client had. -/
def steps (td : Teardown) : List TeardownStep :=
  .shutdown :: (td.strategy.toList.map fun _ => .closeStrategy) ++
    ((td.endpoint.toList.map fun _ => .closeEndpoint) ++
      [.shutdownNow, .awaitCompletion, .releaseConfiguration])

theorem shutdown_mem_steps (td : Teardown) : .shutdown ∈ td.steps :=
  List.mem_cons_self ..

theorem closeStrategy_mem_steps (td : Teardown) :
    .closeStrategy ∈ td.steps ↔ td.strategy.isSome = true := by
  obtain ⟨client, endpoint, strategy, interrupt⟩ := td
  cases strategy <;> cases endpoint <;> simp [steps]

theorem closeEndpoint_mem_steps (td : Teardown) :
    .closeEndpoint ∈ td.steps ↔ td.endpoint.isSome = true := by
  obtain ⟨client, endpoint, strategy, interrupt⟩ := td
  cases strategy <;> cases endpoint <;> simp [steps]

/-- Whatever a client had, its teardown ends with these steps. -/
theorem last_mem_steps (td : Teardown) {step : TeardownStep}
    (h : step ∈ [TeardownStep.shutdownNow, .awaitCompletion, .releaseConfiguration]) :
    step ∈ td.steps :=
  List.mem_append_right _ (List.mem_append_right _ h)

/-- All steps of a teardown come before its task is joined. -/
theorem place_lt_join {td : Teardown} {step : TeardownStep} (h : step ∈ td.steps) :
    step.place < TeardownStep.join.place := by
  obtain ⟨client, endpoint, strategy, interrupt⟩ := td
  cases step with
  | join => cases strategy <;> cases endpoint <;> simp [steps] at h
  | _ => decide

/-- The step that a teardown at a stage has yet to end. Once it is past all of them, its task is
what is left to be joined. -/
def Stage.due : Stage → TeardownStep
  | .shutdown => .shutdown
  | .closeStrategy => .closeStrategy
  | .closeEndpoint => .closeEndpoint
  | .shutdownNow => .shutdownNow
  | .drain => .awaitCompletion
  | .release => .releaseConfiguration
  | .awaitEndpoint | .finish _ => .join

/-- The step that a teardown in a wait has yet to end. -/
def Pause.due : Pause → TeardownStep
  | .strategy _ => .closeStrategy
  | .drain _ => .awaitCompletion
  | .endpoint => .join

end Teardown

/-- The task of a teardown has yet to end a step, and has ended those before. -/
inductive Task.Reaches (t : Task) (td : Teardown) : TeardownStep → Prop
  | stage {stage : Teardown.Stage} (control : t.control = .call (.teardown td stage))
      (frames : t.frames = []) : Reaches t td stage.due
  | pause {inner : List Frame} {pause : Teardown.Pause}
      (frames : t.frames = inner ++ [.teardown td pause]) : Reaches t td pause.due
  | done {reply : Reply} (control : t.control = .reply reply) (frames : t.frames = []) :
      Reaches t td .join

theorem Task.Reaches.alone {t : Task} {td : Teardown} {pause : Teardown.Pause}
    (frames : t.frames = [.teardown td pause]) : t.Reaches td pause.due :=
  .pause (show t.frames = [] ++ [Frame.teardown td pause] from frames)

theorem Task.Reaches.finish {t : Task} {td : Teardown} {outcome : Except Error Unit}
    (control : t.control = .call (.teardown td (.finish outcome))) (frames : t.frames = []) :
    t.Reaches td .join :=
  .stage control frames

/-- There is one step that a task has yet to end. -/
theorem Task.Reaches.unique {t : Task} {td : Teardown} {due due' : TeardownStep}
    (h : t.Reaches td due) (h' : t.Reaches td due') : due = due' := by
  cases h with
  | stage control frames =>
      cases h' with
      | stage control' =>
          cases control.symm.trans control'
          rfl
      | pause frames' =>
          exact absurd (frames.symm.trans frames').symm
            (List.append_ne_nil_of_right_ne_nil _ (List.cons_ne_nil _ _))
      | done control' => cases control.symm.trans control'
  | pause frames =>
      cases h' with
      | pause frames' =>
          obtain ⟨-, heq⟩ := List.append_inj' (frames.symm.trans frames') rfl
          cases heq
          rfl
      | stage _ frames' | done _ frames' =>
          exact absurd (frames'.symm.trans frames).symm
            (List.append_ne_nil_of_right_ne_nil _ (List.cons_ne_nil _ _))
  | done control frames =>
      cases h' with
      | stage control' => cases control.symm.trans control'
      | pause frames' =>
          exact absurd (frames.symm.trans frames').symm
            (List.append_ne_nil_of_right_ne_nil _ (List.cons_ne_nil _ _))
      | done => rfl

/-- How the wait of a teardown for completion has ended. -/
inductive DrainEnding where
  /-- The teardown was interrupted before the wait. -/
  | skipped
  /-- An interrupt has ended the wait. -/
  | interrupted
  /-- The association has answered whether its operations have ended. -/
  | answered (completed : Bool)
  | panicked (content : Panic)
  /-- The time limit is over. -/
  | late
  deriving DecidableEq

/-- The failure of the wait for completion, which is limited in time. -/
def DrainEnding.failure? (limit : Duration) : DrainEnding → Option Error
  | .answered false | .late => some (.timeout ("operations still active after " ++ limit.describe))
  | .panicked content => some (.ofPanic content)
  | _ => none

namespace Moment

variable {m after : Moment} {move : Move} {moves : List Move} {t t' : Task} {td : Teardown}
  {task : TaskId} {client : ClientId} {step due : TeardownStep} {failure : Option Error}

/-! ## The ends of the steps -/

/-- With a move the wait of a teardown for completion ends. -/
inductive EndsDrain (m : Moment) (td : Teardown) : Move → DrainEnding → Prop
  | skipped {t : Task} (found : m.polled? = some t)
      (control : t.control = .call (.teardown td .drain))
      (interrupted : m.world.interrupted td = true) : EndsDrain m td .step .skipped
  | interrupted {task : TaskId} {t : Task} {inner : List Frame} {deadline : Nat}
      (found : m.world.task? task = some t)
      (frames : t.frames = inner ++ [.teardown td (.drain deadline)])
      (interrupted : m.world.interrupted td = true) : EndsDrain m td (.poll task) .interrupted
  | answered {t : Task} {deadline : Nat} {completed : Bool} (found : m.polled? = some t)
      (frames : t.frames = [.teardown td (.drain deadline)])
      (control : t.control = .reply (.ok (.flag completed))) :
      EndsDrain m td .step (.answered completed)
  | panicked {t : Task} {deadline : Nat} {content : Panic} (found : m.polled? = some t)
      (frames : t.frames = [.teardown td (.drain deadline)])
      (control : t.control = .unwind content) : EndsDrain m td .step (.panicked content)
  | late {t : Task} {inner : List Frame} {deadline : Nat} (found : m.polled? = some t)
      (frames : t.frames = inner ++ [.teardown td (.drain deadline)])
      (due : deadline ≤ m.world.now) : EndsDrain m td .expire .late

/-- With a move a step of a teardown ends, with a failure or without one. A teardown whose task is
stopped in its wait for completion still releases the configuration. -/
inductive Concludes (m : Moment) (td : Teardown) : Move → TeardownStep → Option Error → Prop
  | shutdown {t : Task} (found : m.polled? = some t)
      (control : t.control = .call (.teardown td .shutdown)) :
      Concludes m td .step .shutdown (m.world.associationFailure? td.client RecorderPlan.shutdown)
  | closeStrategy {t : Task} {strategy : StrategyId} {failure : Option Error}
      (found : m.polled? = some t) (frames : t.frames = [.teardown td (.strategy strategy)])
      (ended : t.control.ended? = some failure) : Concludes m td .step .closeStrategy failure
  | closeEndpoint {t : Task} {endpoint : EndpointId} (found : m.polled? = some t)
      (control : t.control = .call (.teardown td .closeEndpoint))
      (has : td.endpoint = some endpoint) :
      Concludes m td .step .closeEndpoint (m.world.closeFailure? endpoint)
  | shutdownNow {t : Task} (found : m.polled? = some t)
      (control : t.control = .call (.teardown td .shutdownNow)) :
      Concludes m td .step .shutdownNow
        (m.world.associationFailure? td.client RecorderPlan.shutdownNow)
  | awaitCompletion {move : Move} {how : DrainEnding} (ends : m.EndsDrain td move how) :
      Concludes m td move .awaitCompletion (how.failure? (m.world.completionTimeout td.client))
  | releaseConfiguration {t : Task} (found : m.polled? = some t)
      (control : t.control = .call (.teardown td .release)) :
      Concludes m td .step .releaseConfiguration (m.world.releaseFailure? td.client)
  | dropped {task : TaskId} {t : Task} {inner : List Frame} {deadline : Nat}
      (found : m.world.task? task = some t)
      (frames : t.frames = inner ++ [.teardown td (.drain deadline)]) :
      Concludes m td (.abort task) .releaseConfiguration (m.world.releaseFailure? td.client)

/-- In a run from the empty world a step of a teardown has ended. -/
def StepEnded (moves : List Move) (td : Teardown) (step : TeardownStep) (failure : Option Error) :
    Prop :=
  ∃ before move later m, moves = before ++ move :: later ∧ start.run before = some m ∧
    m.Concludes td move step failure

theorem not_stepEnded_nil : ¬ StepEnded [] td step failure := by
  rintro ⟨before, move, later, -, heq, -⟩
  exact List.append_ne_nil_of_right_ne_nil _ (List.cons_ne_nil _ _) heq.symm

/-- One more move ends at most those steps that it concludes. -/
theorem stepEnded_snoc (hrun : start.run moves = some m) :
    StepEnded (moves ++ [move]) td step failure ↔
      StepEnded moves td step failure ∨ m.Concludes td move step failure :=
  happens_snoc hrun

/-- What has ended stays so. -/
theorem StepEnded.later (h : StepEnded moves td step failure) (later : List Move) :
    StepEnded (moves ++ later) td step failure := by
  obtain ⟨before, move, rest, m, rfl, hbefore, hends⟩ := h
  exact ⟨before, move, rest ++ later, m, by simp, hbefore, hends⟩

/-! ## Where the task of a teardown is -/

/-- A task at a stage of a teardown is inside of nothing. -/
theorem CallsFit.frames_of_stage (h : m.CallsFit) (ht : t ∈ m.world.tasks) {stage : Teardown.Stage}
    (hcontrol : t.control = .call (.teardown td stage)) : t.frames = [] := by
  have htyped := (h.taskOk ht).typed
  rw [hcontrol] at htyped
  exact World.Stack.eq_nil htyped fun _ hwaiter => hwaiter

/-- A task that is at a stage or in a wait of a teardown was handed that teardown. -/
theorem CallsFit.handed_of_stage (h : m.CallsFit) (ht : t ∈ m.world.tasks) {stage : Teardown.Stage}
    (hcontrol : t.control = .call (.teardown td stage)) :
    .teardown t.id td ∈ m.world.history td.client := by
  have hheld := (h.taskOk ht).callHolds (show t.control.hold? = _ by rw [hcontrol]; rfl)
  exact hheld.2.2.1

theorem CallsFit.handed_of_pause (h : m.CallsFit) (ht : t ∈ m.world.tasks) {pause : Teardown.Pause}
    (hframe : .teardown td pause ∈ t.frames) : .teardown t.id td ∈ m.world.history td.client := by
  have hheld := (h.taskOk ht).frameHolds hframe rfl
  exact hheld.2.2.1

/-- A move is one of the task of a teardown, which has yet to end a step. -/
structure Drives (m : Moment) (td : Teardown) (move : Move) (t : Task)
    (due : TeardownStep) : Prop where
  found : m.world.task? t.id = some t
  actor : m.actor? move = some t.id
  handed : .teardown t.id td ∈ m.world.history td.client
  reaches : t.Reaches td due

theorem Drives.of_stage (h : m.CallsFit) (ht : m.polled? = some t)
    (hactor : m.actor? move = m.polling.map Polling.task) {stage : Teardown.Stage}
    (hcontrol : t.control = .call (.teardown td stage)) : m.Drives td move t stage.due := by
  have hfind := polled?_task? ht
  have hmem := (World.task?_mem hfind).1
  refine ⟨hfind, ?_, h.handed_of_stage hmem hcontrol,
    .stage hcontrol (h.frames_of_stage hmem hcontrol)⟩
  obtain ⟨polling, hpolling, ht⟩ := Option.bind_eq_some_iff.1 ht
  rw [hactor, hpolling, Option.map_some, (World.task?_mem ht).2]

theorem Drives.of_pause (h : m.CallsFit) (ht : m.world.task? task = some t)
    (hactor : m.actor? move = some task) {inner : List Frame} {pause : Teardown.Pause}
    (hframes : t.frames = inner ++ [.teardown td pause]) : m.Drives td move t pause.due := by
  obtain ⟨hmem, rfl⟩ := World.task?_mem ht
  have hframe : Frame.teardown td pause ∈ t.frames := by simp [hframes]
  exact ⟨ht, hactor, h.handed_of_pause hmem hframe, .pause hframes⟩

theorem Drives.of_polled_pause (h : m.CallsFit) (ht : m.polled? = some t)
    (hactor : m.actor? move = m.polling.map Polling.task) {inner : List Frame}
    {pause : Teardown.Pause} (hframes : t.frames = inner ++ [.teardown td pause]) :
    m.Drives td move t pause.due := by
  obtain ⟨polling, hpolling, ht⟩ := Option.bind_eq_some_iff.1 ht
  exact .of_pause h ht (by rw [hactor, hpolling, Option.map_some]) hframes

theorem Drives.of_polled_alone (h : m.CallsFit) (ht : m.polled? = some t)
    (hactor : m.actor? move = m.polling.map Polling.task) {pause : Teardown.Pause}
    (hframes : t.frames = [.teardown td pause]) : m.Drives td move t pause.due :=
  .of_polled_pause h ht hactor (show t.frames = [] ++ [Frame.teardown td pause] from hframes)

/-- The move that ends a step is one of the task that has yet to end it. Only a task that is stopped
ends a later step than that. -/
theorem Concludes.drives (h : m.CallsFit) (hends : m.Concludes td move step failure) :
    ∃ t, m.Drives td move t step ∨
      m.Drives td move t .awaitCompletion ∧ step = .releaseConfiguration ∧ move = .abort t.id := by
  cases hends with
  | shutdown found control | shutdownNow found control | releaseConfiguration found control
  | closeEndpoint found control => exact ⟨_, .inl (.of_stage h found rfl control)⟩
  | closeStrategy found frames => exact ⟨_, .inl (.of_polled_alone h found rfl frames)⟩
  | awaitCompletion ends =>
      cases ends with
      | skipped found control => exact ⟨_, .inl (.of_stage h found rfl control)⟩
      | interrupted found frames => exact ⟨_, .inl (.of_pause h found rfl frames)⟩
      | answered found frames | panicked found frames =>
          exact ⟨_, .inl (.of_polled_alone h found rfl frames)⟩
      | late found frames => exact ⟨_, .inl (.of_polled_pause h found rfl frames)⟩
  | dropped found frames =>
      obtain ⟨-, rfl⟩ := World.task?_mem found
      exact ⟨_, .inr ⟨.of_pause h found rfl frames, rfl, rfl⟩⟩

/-- With a move that does not stop the task only the step can end that it has yet to end. -/
theorem Drives.only (h : m.Drives td move t due) (hfit : m.CallsFit) (hmove : move ≠ .abort t.id)
    (hends : m.Concludes td move step failure) : step = due := by
  obtain ⟨t', hdrives | ⟨hdrives, -, heq⟩⟩ := hends.drives hfit
  · have hid := Option.some.inj (hdrives.actor.symm.trans h.actor)
    obtain rfl := Option.some.inj ((hid ▸ hdrives.found).symm.trans h.found)
    exact hdrives.reaches.unique h.reaches
  · have hid := Option.some.inj (hdrives.actor.symm.trans h.actor)
    exact absurd (heq.trans (congrArg Move.abort hid)) hmove

/-- There is one way in which a move ends the wait for completion. -/
theorem EndsDrain.unique {how how' : DrainEnding} (h : m.EndsDrain td move how)
    (h' : m.EndsDrain td move how') : how = how' := by
  cases h with
  | interrupted | late => cases h'; rfl
  | skipped found control =>
      cases h' with
      | skipped => rfl
      | answered found' _ control' | panicked found' _ control' =>
          cases found.symm.trans found'
          cases control.symm.trans control'
  | answered found frames control =>
      cases h' with
      | skipped found' control' | panicked found' _ control' =>
          cases found.symm.trans found'
          cases control.symm.trans control'
      | answered found' _ control' =>
          cases found.symm.trans found'
          cases control.symm.trans control'
          rfl
  | panicked found frames control =>
      cases h' with
      | skipped found' control' | answered found' _ control' =>
          cases found.symm.trans found'
          cases control.symm.trans control'
      | panicked found' _ control' =>
          cases found.symm.trans found'
          cases control.symm.trans control'
          rfl

/-- There is one failure with which a move ends a step. -/
theorem Concludes.failure_unique {failure' : Option Error} (h : m.Concludes td move step failure)
    (h' : m.Concludes td move step failure') : failure = failure' := by
  cases h with
  | shutdown | shutdownNow | releaseConfiguration | dropped => cases h'; rfl
  | closeStrategy found frames ended =>
      cases h' with
      | closeStrategy found' frames' ended' =>
          cases found.symm.trans found'
          exact Option.some.inj (ended.symm.trans ended')
  | closeEndpoint found control has =>
      cases h' with
      | closeEndpoint found' control' has' =>
          cases has.symm.trans has'
          rfl
  | awaitCompletion ends =>
      cases h' with
      | awaitCompletion ends' => rw [ends.unique ends']

/-- A task that goes on has not ended. -/
theorem CallsFit.not_hasEnded (h : m.CallsFit) (ht : m.world.task? task = some t) :
    ¬ m.world.HasEnded task := by
  obtain ⟨active, horderly⟩ := h.exists_callsFit
  obtain ⟨hmem, rfl⟩ := World.task?_mem ht
  simp [World.HasEnded, horderly.unfinished hmem]

/-- The teardown of a client is handed over once. -/
theorem CallsFit.handed_unique (h : m.CallsFit) {task' : TaskId} {td' : Teardown}
    (hhanded : .teardown task td ∈ m.world.history client)
    (hhanded' : .teardown task' td' ∈ m.world.history client) : task' = task ∧ td' = td := by
  obtain ⟨active, hfit⟩ := h.exists_callsFit
  obtain ⟨outcome, hclosing⟩ := (hfit.clients client).closing hhanded
  exact hclosing.unique hhanded'

/-- A teardown that ends a step was handed over. -/
theorem Concludes.handed (hends : m.Concludes td move step failure) (h : m.CallsFit) :
    ∃ task, .teardown task td ∈ m.world.history td.client ∧ m.actor? move = some task := by
  obtain ⟨t, hdrives | ⟨hdrives, -⟩⟩ := hends.drives h <;> exact ⟨_, hdrives.handed, hdrives.actor⟩

theorem StepEnded.handed (h : StepEnded moves td step failure) (hrun : start.run moves = some m) :
    ∃ task, .teardown task td ∈ m.world.history td.client := by
  obtain ⟨before, move, later, m', rfl, hbefore, hends⟩ := h
  have hreach : m'.Reachable := ⟨before, hbefore⟩
  obtain ⟨task, hhanded, -⟩ := hends.handed hreach.fits
  rw [run_append, hbefore] at hrun
  exact ⟨task, World.mem_history.2 ((hreach.grows hrun).mem (World.mem_history.1 hhanded))⟩

end Moment

end Remoting
