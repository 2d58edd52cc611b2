import Remoting.Proofs.Moments

/-!
# The order of a teardown

Whatever its collaborators do, a teardown makes its calls in one order, and none of them a second
time. Of the two waits that an interrupt can cut short each is left out if the token is cancelled
when the teardown gets to it. A teardown that stays unfinished when nothing can happen any more is
waiting for a strategy or for an endpoint that never answers.
-/

namespace Remoting

/-- A frame is never a part of a mere wait. -/
theorem Frame.job_ne_wait (frame : Frame) (wait : Wait) : frame.job ≠ .wait wait := by
  cases frame <;> nofun

namespace World

variable {w : World} {task : TaskId} {job : Job} {frame : Frame} {frames outer : List Frame}
  {t : Teardown}

/-- What a frame in the middle of a stack waits for. -/
theorem Stack.awaits {inner : List Frame} (hstack : w.Stack task job (inner ++ frame :: outer)) :
    (inner = [] ∧ w.Awaits frame job) ∨
      ∃ first last, inner = first ++ [last] ∧ w.Awaits frame last.job := by
  rcases List.eq_nil_or_concat inner with rfl | ⟨first, last, rfl⟩
  · exact .inl ⟨rfl, hstack.1⟩
  · rw [List.concat_eq_append, List.append_assoc, List.singleton_append] at hstack
    obtain ⟨job', -, hawaits, -⟩ := hstack.outer
    exact .inr ⟨first, last, List.concat_eq_append, hawaits⟩

/-- A task that waits for its strategy waits forever or for a time to come. -/
theorem Stack.strategy_wait {inner : List Frame} {wait : Wait} {strategy : StrategyId}
    (hstack : w.Stack task (.wait wait) (inner ++ .teardown t (.strategy strategy) :: outer)) :
    (inner = [] ∧ wait = .forever) ∨ ∃ deadline, wait = .sleep deadline := by
  rcases hstack.awaits with ⟨rfl, -, hjob | ⟨ending, hjob⟩⟩ | ⟨first, last, rfl, -, hjob⟩
  · cases hjob
    exact .inl ⟨rfl, rfl⟩
  · cases hjob
  · refine .inr ?_
    obtain ⟨ending, hending⟩ : ∃ ending, last.job = .behave ending := by
      rcases hjob with hjob | hjob
      · exact absurd hjob (Frame.job_ne_wait last _)
      · exact hjob
    cases last with
    | behaviour behaviour =>
        rw [List.append_assoc, List.singleton_append] at hstack
        rcases hstack.awaits with ⟨-, deadline, hwait⟩ | ⟨first', last', -, deadline, hwait⟩
        · cases hwait
          exact ⟨deadline, rfl⟩
        · exact absurd hwait (Frame.job_ne_wait last' _)
    | _ => cases hending

end World

namespace Moment

variable {m : Moment} {moves : List Move} {client : ClientId} {task : TaskId} {t : Teardown}

/-- No task is being polled, and none would get on if it were. -/
def Idle (m : Moment) : Prop :=
  m.polling = none ∧ ∀ t ∈ m.world.tasks, m.world.canProceed t.id = false

/-- No task gets on any more, and none waits for a time to come. -/
def Settled (m : Moment) : Prop :=
  m.polling = none ∧ ∀ t ∈ m.world.tasks, m.world.canProceed t.id = false ∧
    ∀ deadline, .time deadline ∉ Schedule.watched t

/-- A task waits for the strategy or for the endpoint of its teardown, which do not answer. -/
def Hangs (m : Moment) (t' : Task) (t : Teardown) : Prop :=
  ∃ wait, t'.control = .wait wait ∧ m.world.ready? t'.id wait = none ∧
    ((∃ strategy, wait = .forever ∧ t.strategy = some strategy ∧
        t'.frames = [.teardown t (.strategy strategy)]) ∨
      ∃ inner endpoint, t.endpoint = some endpoint ∧ m.world.interrupted t = false ∧
        t'.frames = inner ++ [.teardown t .endpoint])

/-- A teardown has what the factory has yielded for its client. -/
theorem Reachable.parts (h : m.Reachable) (hhanded : .teardown task t ∈ m.world.history client) :
    (∀ strategy, t.strategy = some strategy ↔
      .strategyCreated strategy ∈ m.world.history client) ∧
    ∀ endpoint, t.endpoint = some endpoint ↔
      .endpointCreated endpoint ∈ m.world.history client := by
  obtain ⟨outcome, hclosing⟩ := (h.clientOk client).closing hhanded
  exact ⟨fun strategy => (hclosing.opened.strategyCreated_iff strategy).symm.trans
      (hclosing.connecting_iff rfl).symm,
    fun endpoint => (hclosing.opened.endpointCreated_iff endpoint).symm.trans
      (hclosing.connecting_iff rfl).symm⟩

/-- The calls of a teardown are the first ones of its sequence, and all of them once it has come to
its end. -/
theorem Reachable.sequence (h : m.Reachable)
    (hhanded : .teardown task t ∈ m.world.history client) :
    ∃ skipDrain skipWait,
      afterTeardown (m.world.history client) <+: t.sequence skipDrain skipWait ∧
      ∀ finish, m.world.finish? task = some finish → finish ≠ .aborted →
        afterTeardown (m.world.history client) = t.sequence skipDrain skipWait := by
  obtain ⟨outcome, hclosing⟩ := (h.clientOk client).closing hhanded
  obtain ⟨skipDrain, skipWait, hcalls⟩ := hclosing.calls
  cases hfinish : m.world.finish? task with
  | none => exact ⟨skipDrain, skipWait, hcalls, fun _ heq => by cases heq⟩
  | some finish =>
      rcases hclosing.ended hfinish with rfl | ⟨result, -, -, skipDrain', skipWait', hall⟩
      · refine ⟨skipDrain, skipWait, hcalls, fun finish hfinish hvalue => ?_⟩
        cases hfinish
        exact absurd rfl hvalue
      · exact ⟨skipDrain', skipWait', hall ▸ List.prefix_rfl, fun _ _ _ => hall⟩

/-- The task of a teardown is at a stage that makes a certain entry. -/
def AtStage (m : Moment) (task : TaskId) (t : Teardown) (call : Contact) : Prop :=
  ∃ t' stage, m.polled? = some t' ∧ t'.id = task ∧ t'.control = .call (.teardown t stage) ∧
    t.call? (m.world.interrupted t) stage = some call

/-- Every call of a teardown is made by its task at the stage for it. -/
theorem Visits.atStage (hrun : start.run moves = some m)
    (hhanded : .teardown task t ∈ m.world.history client) {call : Contact}
    (hcall : call ∈ afterTeardown (m.world.history client)) (hrelease : call ≠ .release) :
    ∃ before, Visits moves before ∧ before.AtStage task t call := by
  obtain ⟨outcome, hclosing⟩ := (Reachable.clientOk ⟨moves, hrun⟩ client).closing hhanded
  obtain ⟨skipDrain, skipWait, hinitial⟩ := hclosing.calls
  have hconnecting := Teardown.not_isConnecting_of_mem (hinitial.subset hcall)
  have hclosed := Teardown.isClosing_of_mem (hinitial.subset hcall)
  have hmem : call ∈ m.world.history client := by
    rw [hclosing.history]
    exact List.mem_append_right _ (List.mem_cons_of_mem _ hcall)
  obtain ⟨before, hvisits, hmakes⟩ := exists_makes hrun hmem
  rcases hmakes with hmakes | ⟨t', ht', hmakes⟩
  · exact absurd hmakes hrelease
  rcases hmakes with ⟨hmakes, -⟩ | hmakes | ⟨td, stage, hclient, hcontrol, hmade⟩ |
    ⟨joined, td, -, rfl, -⟩
  · cases hconnecting.symm.trans hmakes
  · exact absurd hmakes hrelease
  · -- the task at this stage is the one that was handed the teardown
    have hat := hvisits.reachable.fits.polled ht'
    rw [hcontrol] at hat
    have hheld : before.world.Held t'.id td.client (.teardown td (.stage stage)) :=
      hat.callHeld rfl
    rw [hclient] at hheld
    have hthere := (hvisits.grows hrun).mem (World.mem_history.1 hheld.2.2.1)
    obtain ⟨hid, rfl⟩ := hclosing.unique (World.mem_history.2 hthere)
    exact ⟨before, hvisits, t', stage, ht', hid, hcontrol, hmade⟩
  · cases hclosed

theorem Settled.idle (h : m.Settled) : m.Idle :=
  ⟨h.1, fun t ht => (h.2 t ht).1⟩

/-- Where no task gets on every task waits in vain, and is not to leave a call. -/
theorem Idle.waits (hidle : m.Idle) (h : m.CallsFit) {t' : Task} (ht' : t' ∈ m.world.tasks) :
    ∃ wait, t'.control = .wait wait ∧ m.world.ready? t'.id wait = none ∧
      m.world.cut? t'.frames = none ∧ m.world.overdue? t'.frames = none := by
  obtain ⟨active, hfit⟩ := h.exists_callsFit
  have hstays := hidle.2 t' ht'
  rw [World.canProceed, hfit.task?_eq ht'] at hstays
  simp only [Bool.or_eq_false_iff, Option.isSome_eq_false_iff, Option.isNone_iff_eq_none] at hstays
  obtain ⟨⟨hcut, hdue⟩, hwaits⟩ := hstays
  split at hwaits
  next wait hcontrol => exact ⟨wait, hcontrol, by simpa using hwaits, hcut, hdue⟩
  next => cases hwaits

/-- Where nothing can happen any more an unfinished teardown hangs. -/
theorem Reachable.hangs (h : m.Reachable) (hsettled : m.Settled)
    (hhanded : .teardown task t ∈ m.world.history client) (hnone : m.world.finish? task = none) :
    ∃ t' ∈ m.world.tasks, t'.id = task ∧ m.Hangs t' t := by
  obtain ⟨outcome, hclosing⟩ := (h.clientOk client).closing hhanded
  obtain ⟨t', ht', rfl⟩ : ∃ t' ∈ m.world.tasks, t'.id = task := by
    rcases hclosing.started with hthere | ⟨finish, hfinish⟩
    · exact hthere
    · rw [hnone] at hfinish
      cases hfinish
  refine ⟨t', ht', rfl, ?_⟩
  obtain ⟨wait, hcontrol, hready, hcut, -⟩ := hsettled.idle.waits h.fits ht'
  obtain ⟨-, htimes⟩ := hsettled.2 t' ht'
  have hstack : m.world.Stack t'.id (.wait wait) t'.frames := by
    have htyped := (h.fits.taskOk ht').typed
    rwa [hcontrol] at htyped
  rcases hstack.duty (World.mem_history.1 hhanded) with ⟨-, hjob⟩ | ⟨inner, pause, hframes⟩
  · cases hjob
  have hmem : Frame.teardown t pause ∈ t'.frames := by simp [hframes]
  have hwatch : ∀ {signal}, signal ∈ Schedule.watchedByFrame (.teardown t pause) →
      signal ∈ Schedule.watched t' := by
    intro signal hsignal
    exact List.mem_append_right _ (List.mem_flatMap_of_mem hmem hsignal)
  rw [hframes] at hstack
  refine ⟨wait, hcontrol, hready, ?_⟩
  -- whatever has a time limit would go on by the clock, so no such wait is left
  cases pause with
  | drain deadline => exact absurd (hwatch (List.mem_cons_self ..)) (htimes deadline)
  | strategy strategy =>
      refine .inl ?_
      rcases hstack.strategy_wait with ⟨rfl, rfl⟩ | ⟨deadline, rfl⟩
      · exact ⟨strategy, rfl, hstack.1.1, hframes⟩
      · refine absurd ?_ (htimes deadline)
        rw [Schedule.watched, hcontrol]
        exact List.mem_append_left _ (List.mem_singleton.2 rfl)
  | endpoint =>
      refine .inr ?_
      obtain ⟨endpoint, hendpoint⟩ : ∃ endpoint, t.endpoint = some endpoint := by
        rcases hstack.awaits with ⟨-, endpoint, -, he, -⟩ | ⟨-, -, -, endpoint, -, he, -⟩
        · exact ⟨endpoint, he⟩
        · exact ⟨endpoint, he⟩
      refine ⟨inner, endpoint, hendpoint, ?_, hframes⟩
      have hshort := World.cutShort?_of_cut?_eq_none hcut hmem
      simpa [World.cutShort?] using hshort

/-- Every teardown closes what its client had, and makes its calls in the order of its sequence:
each at the stage for it, with a wait left out just where the teardown finds itself interrupted, and
all of them before it ends. If nothing can happen any more before that, it hangs. -/
theorem teardown_in_order (hrun : start.run moves = some m)
    (hhanded : .teardown task t ∈ m.world.history client) :
    ((∀ strategy, t.strategy = some strategy ↔ .strategyCreated strategy ∈ m.world.history client) ∧
      ∀ endpoint, t.endpoint = some endpoint ↔ .endpointCreated endpoint ∈ m.world.history client) ∧
    (∃ skipDrain skipWait,
      afterTeardown (m.world.history client) <+: t.sequence skipDrain skipWait ∧
      ∀ finish, m.world.finish? task = some finish → finish ≠ .aborted →
        afterTeardown (m.world.history client) = t.sequence skipDrain skipWait) ∧
    (∀ call ∈ afterTeardown (m.world.history client), call ≠ .release →
      ∃ before, Visits moves before ∧ before.AtStage task t call) ∧
    (m.Settled → m.world.finish? task = none →
      ∃ t' ∈ m.world.tasks, t'.id = task ∧ m.Hangs t' t) := by
  have hreach : m.Reachable := ⟨moves, hrun⟩
  exact ⟨hreach.parts hhanded, hreach.sequence hhanded,
    fun _ hcall hrelease => Visits.atStage hrun hhanded hcall hrelease,
    fun hsettled hnone => hreach.hangs hsettled hhanded hnone⟩

/-- A factory whose strategies never answer when they are to be closed. -/
def silentFactory : FactoryPlan :=
  { (default : FactoryPlan) with
    strategies := [{ (default : StrategyPlan) with close := ⟨none, true, .succeed⟩ }] }

/-- A client is connected and closed, and its teardown gets as far as the strategy. -/
def hangingClose : List Move :=
  [.build (.recorded silentFactory) default, .act (.getChannel 0 "first")] ++
    Move.pollAll 0 10 0 ++ .act (.close 0 "close" none) ::
      (Move.pollAll 1 3 0 ++ Move.pollAll 2 3 0)

/-- The moment after these moves. -/
def hanging : Moment := (start.run hangingClose).get (by decide +kernel)

theorem teardown_in_order_of_silent_strategy :
    start.run hangingClose = some hanging ∧
      .teardown 2 ⟨0, some 0, some 0, none⟩ ∈ hanging.world.history 0 ∧ hanging.Settled ∧
      (∃ before, Visits hangingClose before ∧
        before.AtStage 2 ⟨0, some 0, some 0, none⟩ (.closeStrategy 0)) ∧
      ∃ t' ∈ hanging.world.tasks, t'.id = 2 ∧ hanging.Hangs t' ⟨0, some 0, some 0, none⟩ := by
  have hrun : start.run hangingClose = some hanging := (Option.some_get _).symm
  have hhanded : .teardown 2 ⟨0, some 0, some 0, none⟩ ∈ hanging.world.history 0 := by
    decide +kernel
  have htasks : hanging.world.tasks =
      [⟨1, .wait (.join 2), [.closeJoin 0], some 0, none⟩,
        ⟨2, .wait .forever, [.teardown ⟨0, some 0, some 0, none⟩ (.strategy 0)], none, none⟩] := rfl
  have hsettled : hanging.Settled := by
    refine ⟨rfl, fun t ht => ?_⟩
    rw [htasks] at ht
    rcases List.mem_pair.1 ht with rfl | rfl
    · exact ⟨rfl, fun deadline => by simp [Schedule.watched, Schedule.watchedByWait,
        Schedule.watchedByFrame]⟩
    · exact ⟨rfl, fun deadline => by simp [Schedule.watched, Schedule.watchedByWait,
        Schedule.watchedByFrame]⟩
  obtain ⟨-, -, hstages, hhangs⟩ := teardown_in_order hrun hhanded
  exact ⟨hrun, hhanded, hsettled, hstages (.closeStrategy 0) (by decide +kernel) nofun,
    hhangs hsettled rfl⟩

end Moment

end Remoting
