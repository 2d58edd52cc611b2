import Remoting.Proofs.Concluding

/-!
# Every tolerated failure is reported once

What the log tells of the teardown of a client are the failures of the steps that have ended in the
run so far, one entry for each step that has failed, in the order of the steps. A move tells
something only where it ends a step, `Moment.next_told`, and a step ends once, `StepEnded.before`.
-/

namespace Remoting

namespace Moment

variable {m after : Moment} {move : Move} {moves : List Move} {t t' : Task} {td : Teardown}
  {task : TaskId} {client : ClientId} {step due : TeardownStep} {failure : Option Error}

/-! ## What one move tells -/

/-- With a move a step of the teardown of a client ends and the log tells its failure, or no step
ends and the log tells nothing. -/
inductive Told (m after : Moment) (client : ClientId) (move : Move) : Prop
  | some {td : Teardown} {step : TeardownStep} {failure : Option Error} (hand : td.client = client)
      (ends : m.Concludes td move step failure)
      (tells : World.Tells client step failure m.world after.world)
  | none (none : ∀ {td step failure}, td.client = client → ¬ m.Concludes td move step failure)
      (same : after.world.tolerated client = m.world.tolerated client)

theorem Accounts.told (h : m.Accounts after td move due t') (hfit : m.CallsFit)
    (hhanded : .teardown task td ∈ m.world.history td.client) : m.Told after td.client move := by
  have hnone : (∀ step failure, ¬ m.Concludes td move step failure) →
      ∀ {td' step failure}, td'.client = td.client → ¬ m.Concludes td' move step failure := by
    intro none _ step failure hand hends
    obtain ⟨task', hhanded', -⟩ := hends.handed hfit
    obtain ⟨-, rfl⟩ := hfit.handed_unique hhanded (hand ▸ hhanded')
    exact none step failure hends
  cases h with
  | stays _ none same => exact .none (hnone none) same
  | skips _ _ _ none same => exact .none (hnone none) same
  | ends _ _ _ ends _ tells => exact .some rfl ends tells

/-- The task of a teardown is stopped. -/
theorem Drives.told_abort (hdrives : m.Drives td (.abort t.id) t due) (h : m.CallsFit)
    (hafter : after.world = m.world.abortTask t.id) : m.Told after td.client (.abort t.id) := by
  have hmem := (World.task?_mem hdrives.found).1
  by_cases hdrain : ∃ td' deadline inner, t.frames = inner ++ [.teardown td' (.drain deadline)]
  · obtain ⟨td', deadline, inner, hframes⟩ := hdrain
    have heq : td' = td := by
      cases hdrives.reaches with
      | stage _ hnil | done _ hnil =>
          exact absurd (hframes.symm.trans hnil)
            (List.append_ne_nil_of_right_ne_nil _ (List.cons_ne_nil _ _))
      | pause hframes' =>
          obtain ⟨-, heq⟩ := List.append_inj' (hframes.symm.trans hframes') rfl
          cases heq
          rfl
    subst heq
    refine .some rfl (.dropped hdrives.found hframes) ?_
    rw [hafter]
    exact World.tells_abortTask hdrives.found hframes (h.inner_unheld hmem hframes).2
  · refine .none (fun _ hends => ?_) ?_
    · cases hends with
      | awaitCompletion ends => cases ends
      | dropped found frames =>
          cases hdrives.found.symm.trans found
          exact hdrain ⟨_, _, _, frames⟩
    · rw [hafter]
      refine World.tolerated_abortTask hdrives.found fun td' deadline hframe => hdrain ?_
      obtain ⟨inner, outer, hframes⟩ := List.append_of_mem hframe
      obtain rfl := (h.inner_unheld hmem hframes).1
      exact ⟨td', deadline, inner, hframes⟩

/-- The task of a teardown goes on after a move, unless it is stopped or ends with a value. -/
theorem Drives.exists_task? (hdrives : m.Drives td move t due) (hmove : move ≠ .abort t.id)
    (hnext : m.next move = some after) : (∃ t', after.world.task? t.id = some t') ∨
      move = .step ∧ (∃ reply, t.control = .reply reply) ∧ t.frames = [] := by
  have hactor := hdrives.actor
  have hfind := hdrives.found
  cases move with
  | abort task =>
      cases hactor
      exact absurd rfl hmove
  | poll task =>
      cases hactor
      rw [(next_poll hnext).2]
      simp only [World.cutTask, hfind]
      split
      next cut _ => exact .inl ⟨_, World.task?_leaveCall hfind t.control cut⟩
      next => exact .inl ⟨t, hfind⟩
  | expire =>
      obtain ⟨-, -, rfl⟩ := expire_of_actor? hnext hactor
      simp only [World.expireDrain, hfind]
      split
      next => exact .inl ⟨t, hfind⟩
      next cut _ =>
        split <;> exact .inl ⟨_, World.task?_leaveCall hfind t.control cut⟩
  | step =>
      obtain ⟨ht, hstep⟩ := step?_of_next hfind hactor hnext
      cases hdrives.reaches with
      | @stage stage hcontrol hframes =>
          simp only [World.step?, hfind, hcontrol, hframes, Option.some.injEq] at hstep
          have hruns :
            World.Runs (fun _ => True) 0 (m.world.stageDeeds 0 td stage) [] t.id [] m.world
              (m.world.runStage t.id td stage []) :=
            World.runs_runStage m.world (fun _ => trivial) t.id (fun _ => trivial) stage []
          obtain ⟨control, inner, -, hfind'⟩ := hruns.task? hfind
          rw [← hstep]
          exact .inl ⟨_, hfind'⟩
      | pause hframes =>
          rcases World.runs_step (fun _ => True) 0 hfind hstep (fun _ => trivial)
            (fun _ _ => fun _ => trivial) (fun _ _ _ _ => trivial) with ⟨hnil, -⟩ | hruns
          · exact absurd (hframes.symm.trans hnil)
              (List.append_ne_nil_of_right_ne_nil _ (List.cons_ne_nil _ _))
          · obtain ⟨control, inner, -, hfind'⟩ := hruns.task? hfind
            exact .inl ⟨_, hfind'⟩
      | done hcontrol hframes => exact .inr ⟨rfl, ⟨_, hcontrol⟩, hframes⟩
  | _ => cases hactor

theorem Drives.told (hdrives : m.Drives td move t due) (h : m.CallsFit)
    (hnext : m.next move = some after) : m.Told after td.client move := by
  by_cases hmove : move = .abort t.id
  · subst hmove
    exact hdrives.told_abort h (next_abort hnext)
  rcases hdrives.exists_task? hmove hnext with ⟨t', ht'⟩ | ⟨rfl, ⟨reply, hcontrol⟩, hframes⟩
  · exact (hdrives.accounts h hmove hnext ht').told h hdrives.handed
  · obtain ⟨ht, hstep⟩ := step?_of_next hdrives.found hdrives.actor hnext
    simp only [World.step?, hdrives.found, hcontrol, hframes, Option.some.injEq] at hstep
    refine .none (fun _ hends => ?_) ?_
    · cases hends.tears ht with
      | stage control => cases hcontrol.symm.trans control
      | pause frames => cases hframes.symm.trans frames
    · have hfinish : World.Deals (World.Aside td.client) 0 _ _ _ :=
        World.deals_finishTask hdrives.found (.value (reply.map m.world.present))
      rw [← hstep]
      exact hfinish.tolerated

/-- As long as a poll goes on, its task makes the moves. -/
theorem actor?_of_polled? (ht : m.polled? = some t) (hnext : m.next move = some after) :
    m.actor? move = some t.id ∨ after.world = m.world := by
  obtain ⟨polling, polls, hfind⟩ := Option.bind_eq_some_iff.1 ht
  have hid : polling.task = t.id := (World.task?_mem hfind).2.symm
  cases next_transition hnext with
  | step | expire =>
      refine .inl ?_
      rw [actor?, polls, Option.map_some, hid]
  | rest => exact .inr rfl
  | _ =>
      rename_i idle
      cases idle.symm.trans polls

/-- A move of no teardown of a client tells nothing of it. -/
theorem told_of_not_drives (h : m.CallsFit) (hnext : m.next move = some after)
    (hnot : ∀ {td t due}, td.client = client → ¬ m.Drives td move t due) :
    m.Told after client move := by
  refine .none (fun hand hends => ?_) ?_
  · obtain ⟨t, hdrives | ⟨hdrives, -⟩⟩ := hends.drives h <;> exact hnot hand hdrives
  by_cases hsame : after.world = m.world
  · rw [hsame]
  have hpause : ∀ {t td inner outer pause}, m.world.task? t.id = some t →
    m.actor? move = some t.id →
      td.client = client → t.frames ≠ inner ++ .teardown td pause :: outer := by
    intro t td inner outer pause hfind hactor hand hframes
    obtain rfl := (h.inner_unheld (World.task?_mem hfind).1 hframes).1
    exact hnot hand (.of_pause h hfind hactor hframes)
  have hfails : ¬ m.Fails move (client + 1) := by
    intro hfails
    generalize hnumber : client + 1 = number at hfails
    cases hfails with
    | step found tears =>
        have hand := (Nat.succ.inj hnumber).symm
        cases tears with
        | stage control => exact hnot hand (.of_stage h found rfl control)
        | pause frames =>
            exact hpause (polled?_task? found) ((actor?_of_polled? found hnext).resolve_right hsame)
              hand ((List.nil_append _).trans frames.symm).symm
    | drop actor found frame =>
        obtain ⟨-, rfl⟩ := World.task?_mem found
        obtain ⟨inner, outer, hframes⟩ := List.append_of_mem frame
        exact hpause found actor (Nat.succ.inj hnumber).symm hframes
  have hlate : ¬ m.Late (client + 1) := by
    rintro ⟨t, td, deadline, found, hnumber, hframes⟩
    have hactor := (actor?_of_polled? found hnext).resolve_right hsame
    have hand := (Nat.succ.inj hnumber).symm
    rcases hframes with ⟨outer, hframes, -⟩ | ⟨inner, outer, hframes, -⟩
    · exact hpause (polled?_task? found) hactor hand ((List.nil_append _).trans hframes.symm).symm
    · exact hpause (polled?_task? found) hactor hand hframes
  obtain ⟨new, hlog, hlines⟩ := next_writes hnext
  refine World.Writes.tolerated ⟨new, hlog, fun line hline hnotable => ?_⟩
  have hlogs := hlines line hline hnotable
  cases line with
  | swallowed number step error =>
      refine if_neg fun hnumber => ?_
      rw [hnumber.1] at hlogs
      cases step with
      | awaitCompletion => exact hlate hlogs
      | _ => exact hfails hlogs
  | _ => rfl

theorem next_told (h : m.CallsFit) (hnext : m.next move = some after) (client : ClientId) :
    m.Told after client move := by
  by_cases hdrives : ∃ td t due, td.client = client ∧ m.Drives td move t due
  · obtain ⟨td, t, due, rfl, hdrives⟩ := hdrives
    exact hdrives.told h hnext
  · refine told_of_not_drives h hnext fun {td t due} hand hdrives' =>
      hdrives ⟨td, t, due, hand, hdrives'⟩

/-! ## Steps end once -/

/-- A step that ends comes after those that have ended. -/
theorem StepEnded.before {step' : TeardownStep} {failure' : Option Error}
    (h : StepEnded moves td step failure) (hrun : start.run moves = some m)
    (hends : m.Concludes td move step' failure') : step.place < step'.place := by
  have hfit : m.CallsFit := Reachable.fits ⟨moves, hrun⟩
  have hplace : ∀ {t due}, m.Drives td move t due → step.place < due.place := by
    intro t due hdrives
    obtain ⟨due', hreaches, hdone⟩ := stands_run hrun hdrives.handed hdrives.found
    obtain rfl := hreaches.unique hdrives.reaches
    exact ((hdone step).1 ⟨failure, h⟩).2
  obtain ⟨t, hdrives | ⟨hdrives, rfl, -⟩⟩ := hends.drives hfit
  · exact hplace hdrives
  · exact Nat.lt_trans (hplace hdrives) (by decide)

/-- A move ends one step at most, with one failure. -/
theorem Concludes.unique {step' : TeardownStep} {failure' : Option Error}
    (h : m.Concludes td move step failure) (h' : m.Concludes td move step' failure')
    (hfit : m.CallsFit) : step = step' ∧ failure = failure' := by
  have hstep : step = step' := by
    obtain ⟨t, hdrives | ⟨-, rfl, rfl⟩⟩ := h.drives hfit
    · by_cases hmove : move = .abort t.id
      · subst hmove
        cases h with
        | awaitCompletion ends => cases ends
        | dropped =>
            cases h' with
            | awaitCompletion ends => cases ends
            | dropped => rfl
      · exact (hdrives.only hfit hmove h').symm
    · cases h' with
      | awaitCompletion ends => cases ends
      | dropped => rfl
  subst hstep
  exact ⟨rfl, h.failure_unique h'⟩

/-- The steps that end are steps of the teardown. -/
theorem Concludes.mem_steps (h : m.Concludes td move step failure) (hfit : m.CallsFit) :
    step ∈ td.steps := by
  cases h with
  | shutdown => exact td.shutdown_mem_steps
  | closeStrategy found frames ended =>
      obtain ⟨job, hstack⟩ := (hfit.taskOk (World.task?_mem (polled?_task? found)).1).typed.stack
      rw [frames] at hstack
      exact td.closeStrategy_mem_steps.2 (Option.isSome_iff_exists.2 ⟨_, hstack.1.1⟩)
  | closeEndpoint found control has =>
      exact td.closeEndpoint_mem_steps.2 (Option.isSome_iff_exists.2 ⟨_, has⟩)
  | shutdownNow | awaitCompletion | releaseConfiguration | dropped =>
      exact td.last_mem_steps (by decide)

/-! ## Runs -/

/-- What the log tells of the teardowns after some moves. -/
structure Reports (m : Moment) (moves : List Move) : Prop where
  told : ∀ {client step error}, (step, error) ∈ m.world.tolerated client ↔
    ∃ td, td.client = client ∧ StepEnded moves td step (some error)
  ordered : ∀ client, (m.world.tolerated client).Pairwise fun first second =>
    first.1.place < second.1.place
  once : ∀ {td step failure failure'}, StepEnded moves td step failure →
    StepEnded moves td step failure' → failure = failure'

/-- Only one teardown of a client ends steps. -/
theorem StepEnded.teardown_eq {td' : Teardown} {step' : TeardownStep} {failure' : Option Error}
    (h : StepEnded moves td step failure) (hrun : start.run moves = some m)
    (hends : m.Concludes td' move step' failure') (hand : td.client = td'.client) : td = td' := by
  have hfit : m.CallsFit := Reachable.fits ⟨moves, hrun⟩
  obtain ⟨task, hhanded⟩ := h.handed hrun
  obtain ⟨task', hhanded', -⟩ := hends.handed hfit
  rw [hand] at hhanded
  exact (hfit.handed_unique hhanded' hhanded).2

theorem Reports.next (h : m.Reports moves) (hrun : start.run moves = some m)
    (hnext : m.next move = some after) : after.Reports (moves ++ [move]) := by
  have hfit : m.CallsFit := Reachable.fits ⟨moves, hrun⟩
  refine ⟨fun {client step error} => ?_, fun client => ?_,
    fun {td step failure failure'} h₁ h₂ => ?_⟩
  · simp only [stepEnded_snoc hrun, and_or_left, exists_or, ← h.told]
    cases next_told hfit hnext client with
    | none none same =>
        rw [same]
        exact (or_iff_left fun ⟨td, hand, hends⟩ => none hand hends).symm
    | some hand ends tells =>
        rw [tells, List.mem_append]
        refine or_congr_right ⟨fun hmem => ?_, fun ⟨td', hand', hends⟩ => ?_⟩
        · obtain ⟨error', rfl, heq⟩ := Option.map_eq_some_iff.1 (Option.mem_toList.1 hmem)
          cases heq
          exact ⟨_, hand, ends⟩
        · -- at most one step ends in this move, because a client has one teardown
          obtain ⟨task, hhanded, -⟩ := ends.handed hfit
          obtain ⟨task', hhanded', -⟩ := hends.handed hfit
          rw [hand] at hhanded
          rw [hand'] at hhanded'
          obtain ⟨-, rfl⟩ := hfit.handed_unique hhanded hhanded'
          obtain ⟨rfl, rfl⟩ := hends.unique ends hfit
          exact Option.mem_toList.2 rfl
  · cases next_told hfit hnext client with
    | none none same =>
        rw [same]
        exact h.ordered client
    | some hand ends tells =>
        rw [tells, List.pairwise_append]
        refine ⟨h.ordered client, ?_, fun first hfirst second hsecond => ?_⟩
        · cases Option.map _ _ with
          | none => exact .nil
          | some entry => exact List.pairwise_singleton _ _
        · obtain ⟨error', -, rfl⟩ := Option.map_eq_some_iff.1 (Option.mem_toList.1 hsecond)
          obtain ⟨td', hand', hended⟩ := h.told.1 hfirst
          obtain rfl := hended.teardown_eq hrun ends (hand'.trans hand.symm)
          exact hended.before hrun ends
  · rcases (stepEnded_snoc hrun).1 h₁ with h₁ | h₁ <;>
      rcases (stepEnded_snoc hrun).1 h₂ with h₂ | h₂
    · exact h.once h₁ h₂
    · -- one of the two steps has ended before this move and the other one in it
      exact absurd (h₁.before hrun h₂) (Nat.lt_irrefl _)
    · exact absurd (h₂.before hrun h₁) (Nat.lt_irrefl _)
    · exact (h₁.unique h₂ hfit).2

theorem reports_start : start.Reports [] where
  told := ⟨nofun, fun ⟨_, _, hended⟩ => absurd hended not_stepEnded_nil⟩
  ordered _ := .nil
  once hended := absurd hended not_stepEnded_nil

theorem reports_run (hrun : start.run moves = some m) : m.Reports moves :=
  run_history_induction (P := fun moves m => m.Reports moves) reports_start
    (fun hrun h hnext => h.next hrun hnext) hrun

/-- A teardown that has ended with a value has ended all its steps. -/
theorem stepEnded_of_finish (hrun : start.run moves = some m) {reply : Reply}
    (hhanded : .teardown task td ∈ m.world.history td.client)
    (hfinish : m.world.finish? task = some (.value reply)) (hstep : step ∈ td.steps) :
    ∃ failure, StepEnded moves td step failure := by
  obtain ⟨m', t, ⟨before, later, rfl, hbefore⟩, hhanded', rfl, ht, hcontrol, hframes⟩ :=
    exists_ends hrun hhanded hfinish
  obtain ⟨due, hreaches, hdone⟩ := stands_run hbefore hhanded' (polled?_task? ht)
  obtain rfl := hreaches.unique (.done hcontrol hframes)
  obtain ⟨failure, hended⟩ := (hdone step).2 ⟨hstep, Teardown.place_lt_join hstep⟩
  exact ⟨failure, hended.later later⟩

/-- What the log tells of the teardown of a client are the failures of those of its steps that have
failed, each once and in the order of the steps. A step ends once, with one failure or with none:
the association fails where it panics, the close of a strategy and of an endpoint where it fails or
panics, apart from an endpoint that cannot be closed, the wait for completion where it panics,
answers that operations are left or misses its time limit, and the release of the configuration with
the earliest failure of the cleanup actions that it runs. A teardown that ends with a value has
ended all its steps. The wait for the endpoint is none of them. -/
theorem failures_reported_once (hrun : start.run moves = some m) :
    (∀ {client step error}, (step, error) ∈ m.world.tolerated client ↔
      ∃ td, td.client = client ∧ StepEnded moves td step (some error)) ∧
    (∀ client, (m.world.tolerated client).Pairwise fun first second =>
      first.1.place < second.1.place) ∧
    (∀ {td step failure failure'}, StepEnded moves td step failure →
      StepEnded moves td step failure' → failure = failure') ∧
    (∀ {td step failure}, StepEnded moves td step failure → step ∈ td.steps) ∧
    ∀ {task td reply}, .teardown task td ∈ m.world.history td.client →
      m.world.finish? task = some (.value reply) → ∀ step ∈ td.steps,
        ∃ failure, StepEnded moves td step failure := by
  have hreports := reports_run hrun
  refine ⟨hreports.told, hreports.ordered, hreports.once, fun hended => ?_,
    fun hhanded hfinish step hstep =>
    stepEnded_of_finish hrun hhanded hfinish hstep⟩
  obtain ⟨before, move, later, m', rfl, hbefore, hends⟩ := hended
  exact hends.mem_steps (Reachable.fits ⟨before, hbefore⟩)

/-- A client whose collaborators fail when it is closed: its association panics and leaves
operations behind, its strategy panics, its endpoint cannot be closed, and two of its cleanup
actions fail. -/
def frailClient : ClientSpec where
  config := .own { (default : Config) with
    host := "localhost", endpointName := "management", completionTimeout := .ofMillis 2000 }
  disposers := [.mk "first" [] .succeed, .mk "second" [] (.fail (.other "busy")),
    .mk "third" [] (.panic (.text "gone"))]
  recorder := some
    { (default : RecorderPlan) with shutdown := some (.text "boom"), completed := false }
  factory := { (default : FactoryPlan) with
    endpoints := [{ (default : EndpointPlan) with
      close := .fail (.unsupportedOperation "close"), await := some .immediate }]
    strategies :=
      [{ (default : StrategyPlan) with close := ⟨none, false, .panic (.text "bang")⟩ }] }

/-- The client is connected and closed, and its teardown runs to its end. -/
def frailClose : List Move :=
  [.build frailClient default, .act (.getChannel 0 "first")] ++
    Move.pollAll 0 10 0 ++ .act (.close 0 "close" none) ::
      (Move.pollAll 1 3 0 ++ .poll 2 :: List.replicate 19 .step)

/-- The moment after these moves. -/
def frail : Moment := (start.run frailClose).get (by decide +kernel)

theorem failures_reported_once_of_frail_client :
    start.run frailClose = some frail ∧ frail.world.tolerated 0 =
      [(.shutdown, .other "panicked: boom"), (.closeStrategy, .other "panicked: bang"),
        (.awaitCompletion, .timeout "operations still active after 2s"),
        (.releaseConfiguration, .other "busy")] ∧
      (∃ td, td.client = 0 ∧ StepEnded frailClose td .closeStrategy
        (some (.other "panicked: bang"))) ∧
      ∃ failure, StepEnded frailClose ⟨0, some 0, some 0, none⟩ .closeEndpoint failure := by
  have hrun : start.run frailClose = some frail := (Option.some_get _).symm
  have htolerated : frail.world.tolerated 0 =
      [(.shutdown, .other "panicked: boom"), (.closeStrategy, .other "panicked: bang"),
        (.awaitCompletion, .timeout "operations still active after 2s"),
        (.releaseConfiguration, .other "busy")] := by decide +kernel
  have hhanded : .teardown 2 ⟨0, some 0, some 0, none⟩ ∈ frail.world.history 0 := by decide +kernel
  have hfinish : frail.world.finish? 2 = some (.value (.ok .closed)) := rfl
  obtain ⟨htold, -, -, -, hends⟩ := failures_reported_once hrun
  refine ⟨hrun, htolerated, htold.1 ?_, hends hhanded hfinish .closeEndpoint (by decide)⟩
  rw [htolerated]
  simp

end Moment

end Remoting
