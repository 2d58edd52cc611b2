import Remoting.Proofs.Creating

/-!
# Waits

A task that waits looks at what it waits for whenever it is polled, and at no other time. So a wait
is over at the first poll at which it finds what it waits for, however often that has come and gone
before: `StandsAt.returns` is about such a poll and `StandsAt.resists` about the others. Unless it
is over, a wait goes on until its task is stopped or a call around it is cut short, and
`StandsAt.run` carries that through any run.
-/

namespace Remoting.Moment

variable {m after last : Moment} {move : Move} {moves : List Move} {t : Task} {task : TaskId}
  {wait : Wait} {control : Control} {frames : List Frame}

/-- A task is at a certain point of its calls. -/
def StandsAt (m : Moment) (task : TaskId) (control : Control) (frames : List Frame) : Prop :=
  ∃ t, m.world.task? task = some t ∧ t.control = control ∧ t.frames = frames

/-- With a move a task is made to leave its wait: it is stopped, or a call around the wait is cut
short or has no time left. -/
def BreaksOff (m : Moment) (task : TaskId) (frames : List Frame) (move : Move) : Prop :=
  move = .abort task ∨ move = .poll task ∧ m.world.cut? frames ≠ none ∨
    move = .expire ∧ m.actor? .expire = some task ∧ m.world.overdue? frames ≠ none

/-- With its step a task finds what it waits for, and goes on with it. -/
def Notices (m : Moment) (task : TaskId) (wait : Wait) (move : Move) (control : Control) : Prop :=
  move = .step ∧ m.actor? .step = some task ∧ m.world.ready? task wait = some control

/-- What a polled task does that waits and has, or has not, got an outcome: it goes on with the
outcome and does nothing else before, or it cannot go on. So a poll in which nothing is cut short
begins with the outcome. -/
structure Heeds (m : Moment) (task : TaskId) (frames : List Frame) (outcome? : Option Control) :
    Prop where
  returns : ∀ {control}, outcome? = some control → m.actor? .step = some task →
    ∃ after, m.next .step = some after ∧ after.StandsAt task control frames ∧
      after.polling = m.polling ∧ ∀ move other, m.next move = some other → move = .step
  resists : outcome? = none → m.actor? .step = some task → m.next .step = none
  polls : ∀ {control}, outcome? = some control → m.polling = none → m.world.cut? frames = none →
    ∃ polled after, m.next (.poll task) = some polled ∧ polled.next .step = some after ∧
      after.StandsAt task control frames

/-- Nothing breaks off a wait that is no part of another call, except that its task is stopped. -/
theorem BreaksOff.abort (h : m.BreaksOff task [] move) : move = .abort task := by
  rcases h with rfl | ⟨-, hcut⟩ | ⟨-, -, hdue⟩
  · rfl
  · exact absurd rfl hcut
  · exact absurd rfl hdue

namespace StandsAt

/-- A polled task that finds what it waits for goes on with it, and does nothing else before. -/
theorem returns (h : m.StandsAt task (.wait wait) frames) (hactor : m.actor? .step = some task)
    (hready : m.world.ready? task wait = some control) :
    ∃ after, m.next .step = some after ∧ after.StandsAt task control frames ∧
      after.polling = m.polling ∧ ∀ move other, m.next move = some other → move = .step := by
  obtain ⟨t, ht, hcontrol, rfl⟩ := h
  have hstep : m.world.step? task = some (m.world.goto task control t.frames) := by
    rw [World.step?_wait ht hcontrol, hready, Option.map_some]
  obtain ⟨-, rfl⟩ := World.task?_mem ht
  have hpolled := polled?_of_actor? hactor ht
  refine ⟨_, next_of_polled hpolled hstep, ⟨_, World.task?_goto_self ht control t.frames, rfl, rfl⟩,
    rfl, fun move other hnext => ?_⟩
  refine next_eq_step_of_step? hnext hpolled ?_
  rw [hstep]
  exact Option.some_ne_none _

/-- A polled task that does not find what it waits for cannot go on. -/
theorem resists (h : m.StandsAt task (.wait wait) frames) (hactor : m.actor? .step = some task)
    (hready : m.world.ready? task wait = none) : m.next .step = none := by
  obtain ⟨t, ht, hcontrol, rfl⟩ := h
  cases hnext : m.next .step with
  | none => rfl
  | some after =>
      obtain ⟨u, hstep, rfl⟩ := step_of_actor? hnext hactor
      rw [World.step?_wait ht hcontrol, hready] at hstep
      cases hstep

/-- The poll of a task that waits begins with its look at what it waits for. -/
theorem poll (h : m.StandsAt task control frames) (hpolling : m.polling = none)
    (hcut : m.world.cut? frames = none) : ∃ polled, m.next (.poll task) = some polled ∧
      polled.world = m.world ∧ polled.StandsAt task control frames ∧
        polled.actor? .step = some task := by
  obtain ⟨t, ht, hcontrol, rfl⟩ := h
  refine ⟨⟨m.world, some ⟨task, false⟩⟩, ?_, rfl, ⟨t, ht, hcontrol, rfl⟩, rfl⟩
  simp only [next, hpolling, World.cutTask_eq_self ht hcut]

/-- What a task that waits does depends on what it waits for as it is. -/
theorem heeds (h : m.StandsAt task (.wait wait) frames) :
    m.Heeds task frames (m.world.ready? task wait) where
  returns hready hactor := h.returns hactor hready
  resists hready hactor := h.resists hactor hready
  polls hready hpolling hcut := by
    obtain ⟨polled, hpoll, hworld, hstands, hactor⟩ := h.poll hpolling hcut
    obtain ⟨after, hnext, hafter, -⟩ := hstands.returns hactor (hworld ▸ hready)
    exact ⟨polled, after, hpoll, hnext, hafter⟩

/-- With a move a wait goes on, is broken off, or is over because the task finds what it waits
for. -/
theorem next (h : m.StandsAt task (.wait wait) frames) (hnext : m.next move = some after) :
    after.StandsAt task (.wait wait) frames ∨ m.BreaksOff task frames move ∨
      ∃ control, m.Notices task wait move control ∧ after.StandsAt task control frames := by
  obtain ⟨t, ht, hcontrol, rfl⟩ := h
  by_cases hactor : m.actor? move = some task
  swap
  · exact .inl ⟨t, next_task? hnext ht hactor, hcontrol, rfl⟩
  -- a poll and a look at time limits break the wait off only through a call around it
  cases move with
  | abort other =>
      cases hactor
      exact .inr (.inl (.inl rfl))
  | poll other =>
      cases hactor
      by_cases hcut : m.world.cut? t.frames = none
      · obtain ⟨-, rfl⟩ := next_poll hnext
        refine .inl ⟨t, ?_, hcontrol, rfl⟩
        rw [World.cutTask_eq_self ht hcut]
        exact ht
      · exact .inr (.inl (.inr (.inl ⟨rfl, hcut⟩)))
  | step =>
      obtain ⟨u, hstep, rfl⟩ := step_of_actor? hnext hactor
      rw [World.step?_wait ht hcontrol] at hstep
      obtain ⟨control, hready, rfl⟩ := Option.map_eq_some_iff.1 hstep
      exact .inr (.inr ⟨control, ⟨rfl, hactor, hready⟩, _,
        World.task?_goto_self ht control t.frames, rfl, rfl⟩)
  | expire =>
      by_cases hdue : m.world.overdue? t.frames = none
      · obtain ⟨-, -, rfl⟩ := expire_of_actor? hnext hactor
        refine .inl ⟨t, ?_, hcontrol, rfl⟩
        rw [World.expireDrain_eq_self ht hdue]
        exact ht
      · exact .inr (.inl (.inr (.inr ⟨rfl, hactor, hdue⟩)))
  | _ => cases hactor

/-- In a run a wait goes on to the end, unless it is broken off or its task finds what it waits
for. -/
theorem run (h : m.StandsAt task (.wait wait) frames) (hrun : m.run moves = some last) :
    last.StandsAt task (.wait wait) frames ∨ m.Happens (fun n move =>
      n.StandsAt task (.wait wait) frames ∧
        (n.BreaksOff task frames move ∨ ∃ control, n.Notices task wait move control)) moves := by
  -- the run so far: the task still waits, or one of the moves has ended its wait
  refine run_history_induction (P := fun moves last => last.StandsAt task (.wait wait) frames ∨
    m.Happens _ moves) (.inl h) ?_ hrun
  rintro moves middle move after hmiddle (hstands | hhappens) hnext
  · rcases hstands.next hnext with hgoes | hbreaks | ⟨control, hnotices, -⟩
    · exact .inl hgoes
    · exact .inr ((happens_snoc hmiddle).2 (.inr ⟨hstands, .inl hbreaks⟩))
    · exact .inr ((happens_snoc hmiddle).2 (.inr ⟨hstands, .inr ⟨control, hnotices⟩⟩))
  · exact .inr ((happens_snoc hmiddle).2 (.inl hhappens))

end StandsAt

end Remoting.Moment
