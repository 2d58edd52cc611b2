import Remoting.Session

/-!
# Runs

A run is a list of moves from the empty world. Between polls anything may come from outside: clients
are made, calls are started, handles are dropped, tokens are cancelled, tasks are stopped wherever
they wait, time passes, everything halts. A poll is taken apart into its steps, so that every world
that a task passes through is a moment of some run. Any task may be polled at any time, whether or
not something has woken it, so runs cover every order in which an executor can poll. `run_poll` says
that a poll that goes on until its task waits is a part of a run.
-/

namespace Remoting

/-- Whether a call can be started from outside. The other calls are parts of such a call. -/
def Call.isPublic : Call → Bool
  | .connect .. | .openChannel .. | .operate .. | .teardown .. => false
  | .await (.lock _) => false
  | .spawn call => call.isPublic
  | _ => true

/-- Whether an action starts nothing but calls that can be started from outside. -/
def Action.isPublic : Action → Bool
  | .start _ call => call.isPublic
  | _ => true

namespace World

/-- The world after an action. -/
def act (w : World) (action : Action) : World :=
  ((Session.ofWorld w).act action).2.world

/-- The world after helpers have taken over the closes that were left to them. -/
def help (w : World) : World :=
  w.stranded.foldl spawnBackgroundClose { w with running := true, stranded := [] }

end World

/-- A poll that is going on. -/
structure Polling where
  task : TaskId
  /-- Whether time limits have been looked at. -/
  expired : Bool

/-- A moment of a run: a world, and the poll that is going on in it, if there is one. -/
structure Moment where
  world : World
  polling : Option Polling

/-- What can happen next. -/
inductive Move where
  /-- A client is made. -/
  | build (spec : ClientSpec) (trace : AllocationTrace)
  /-- Somebody does something from outside. -/
  | act (action : Action)
  /-- A task is stopped. -/
  | abort (task : TaskId)
  /-- Time passes. -/
  | pass (ms : Nat)
  /-- No new task can run any more. -/
  | halt
  /-- Helpers take over what was left to them. -/
  | help
  /-- The poll of a task begins. -/
  | poll (task : TaskId)
  /-- The polled task makes a step. -/
  | step
  /-- The polled task waits, and its time limits are looked at. -/
  | expire
  /-- The polled task waits again, and the poll ends. -/
  | rest

namespace Moment

/-- The moment before everything. -/
def start : Moment := ⟨.empty, none⟩

/-- Something from outside happens, which it does only between polls. -/
def outside (m : Moment) (change : World → World) : Option Moment :=
  match m.polling with
  | none => some ⟨change m.world, none⟩
  | some _ => none

/-- The moment after a move, if the move is possible. -/
def next (m : Moment) : Move → Option Moment
  | .build spec trace => m.outside (·.addClient spec trace)
  | .act action => if action.isPublic then m.outside (·.act action) else none
  | .abort task => m.outside (·.abortTask task)
  | .pass ms => m.outside fun w => { w with now := w.now + ms }
  | .halt => m.outside fun w => { w with running := false }
  | .help => m.outside (·.help)
  | .poll task =>
    match m.polling with
    | none => some ⟨m.world.cutTask task, some ⟨task, false⟩⟩
    | some _ => none
  | .step =>
    match m.polling with
    | some polling => (m.world.step? polling.task).map fun w => ⟨w, some polling⟩
    | none => none
  | .expire =>
    match m.polling with
    | some ⟨task, false⟩ =>
      match m.world.step? task with
      | none => some ⟨m.world.expireDrain task, some ⟨task, true⟩⟩
      | some _ => none
    | _ => none
  | .rest =>
    match m.polling with
    | some ⟨task, true⟩ =>
      match m.world.step? task with
      | none => some ⟨m.world, none⟩
      | some _ => none
    | _ => none

/-- What moves do: what comes from outside comes between polls, and the rest is a part of a poll. -/
inductive Transition (m : Moment) : Move → Moment → Prop
  | build (spec : ClientSpec) (trace : AllocationTrace) (idle : m.polling = none) :
      Transition m (.build spec trace) ⟨m.world.addClient spec trace, none⟩
  | act {action : Action} (isPublic : action.isPublic = true) (idle : m.polling = none) :
      Transition m (.act action) ⟨m.world.act action, none⟩
  | abort (task : TaskId) (idle : m.polling = none) :
      Transition m (.abort task) ⟨m.world.abortTask task, none⟩
  | pass (ms : Nat) (idle : m.polling = none) :
      Transition m (.pass ms) ⟨{ m.world with now := m.world.now + ms }, none⟩
  | halt (idle : m.polling = none) : Transition m .halt ⟨{ m.world with running := false }, none⟩
  | help (idle : m.polling = none) : Transition m .help ⟨m.world.help, none⟩
  | poll (task : TaskId) (idle : m.polling = none) :
      Transition m (.poll task) ⟨m.world.cutTask task, some ⟨task, false⟩⟩
  | step {polling : Polling} {w : World} (polls : m.polling = some polling)
      (steps : m.world.step? polling.task = some w) : Transition m .step ⟨w, some polling⟩
  | expire {task : TaskId} (polls : m.polling = some ⟨task, false⟩)
      (waits : m.world.step? task = none) :
      Transition m .expire ⟨m.world.expireDrain task, some ⟨task, true⟩⟩
  | rest {task : TaskId} (polls : m.polling = some ⟨task, true⟩)
      (waits : m.world.step? task = none) : Transition m .rest ⟨m.world, none⟩

/-- The moment after a list of moves, if all of them are possible. -/
def run (m : Moment) : List Move → Option Moment
  | [] => some m
  | move :: moves => m.next move >>= fun m => m.run moves

/-- A moment that some run from the empty world reaches. -/
def Reachable (m : Moment) : Prop :=
  ∃ moves, start.run moves = some m

/-! ## Moves -/

theorem outside_eq_some {m after : Moment} {change : World → World}
    (h : m.outside change = some after) : m.polling = none ∧ after = ⟨change m.world, none⟩ := by
  obtain ⟨world, polling⟩ := m
  cases polling <;> cases h
  exact ⟨rfl, rfl⟩

/-- A move that is possible is a transition of its kind. -/
theorem next_transition {m after : Moment} {move : Move} (h : m.next move = some after) :
    m.Transition move after := by
  cases move with
  | build spec trace =>
      simp only [next] at h
      obtain ⟨idle, rfl⟩ := outside_eq_some h
      exact .build spec trace idle
  | act action =>
      simp only [next] at h
      split at h
      next isPublic =>
        obtain ⟨idle, rfl⟩ := outside_eq_some h
        exact .act isPublic idle
      next => cases h
  | abort task =>
      simp only [next] at h
      obtain ⟨idle, rfl⟩ := outside_eq_some h
      exact .abort task idle
  | pass ms =>
      simp only [next] at h
      obtain ⟨idle, rfl⟩ := outside_eq_some h
      exact .pass ms idle
  | halt =>
      simp only [next] at h
      obtain ⟨idle, rfl⟩ := outside_eq_some h
      exact .halt idle
  | help =>
      simp only [next] at h
      obtain ⟨idle, rfl⟩ := outside_eq_some h
      exact .help idle
  | poll task =>
      simp only [next] at h
      split at h
      next idle =>
        cases h
        exact .poll task idle
      next => cases h
  | step =>
      simp only [next] at h
      split at h
      next polling polls =>
        obtain ⟨w, steps, rfl⟩ := Option.map_eq_some_iff.1 h
        exact .step polls steps
      next => cases h
  | expire =>
      simp only [next] at h
      split at h
      next task polls =>
        split at h
        next waits =>
          cases h
          exact .expire polls waits
        next => cases h
      next => cases h
  | rest =>
      simp only [next] at h
      split at h
      next task polls =>
        split at h
        next waits =>
          cases h
          exact .rest polls waits
        next => cases h
      next => cases h

section Kinds

variable {m after : Moment} {task : TaskId}

/-- A task is stopped between polls. -/
theorem next_abort (hnext : m.next (.abort task) = some after) :
    after.world = m.world.abortTask task := by
  cases next_transition hnext
  rfl

/-- The poll of a task begins with a look at what is cut short. -/
theorem next_poll (hnext : m.next (.poll task) = some after) :
    m.polling = none ∧ after = ⟨m.world.cutTask task, some ⟨task, false⟩⟩ := by
  cases next_transition hnext with
  | poll task idle => exact ⟨idle, rfl⟩

/-- A step leads from one moment of a poll to another. -/
theorem next_step (hnext : m.next .step = some after) : ∃ polling u, m.polling = some polling ∧
    m.world.step? polling.task = some u ∧ after = ⟨u, some polling⟩ := by
  cases next_transition hnext with
  | step polls steps => exact ⟨_, _, polls, steps, rfl⟩

/-- Time limits are looked at when the polled task waits. -/
theorem next_expire (hnext : m.next .expire = some after) : ∃ task, m.polling = some ⟨task, false⟩ ∧
    m.world.step? task = none ∧ after = ⟨m.world.expireDrain task, some ⟨task, true⟩⟩ := by
  cases next_transition hnext with
  | expire polls waits => exact ⟨_, polls, waits, rfl⟩

/-- The poll of a task that waits ends. -/
theorem next_rest (hnext : m.next .rest = some after) : ∃ task, m.polling = some ⟨task, true⟩ ∧
    m.world.step? task = none ∧ after = ⟨m.world, none⟩ := by
  cases next_transition hnext with
  | rest polls waits => exact ⟨_, polls, waits, rfl⟩

end Kinds

/-! ## Runs -/

/-- A run of two lists of moves is a run of the first and then one of the second. -/
theorem run_append (m : Moment) (first second : List Move) :
    m.run (first ++ second) = (m.run first >>= fun m => m.run second) := by
  induction first generalizing m with
  | nil => rfl
  | cons move moves ih =>
      simp only [List.cons_append, run]
      cases m.next move with
      | none => rfl
      | some after => exact ih after

/-- A run is continued by one move. -/
theorem run_snoc {m middle : Moment} {moves : List Move} (h : m.run moves = some middle)
    (move : Move) : m.run (moves ++ [move]) = middle.next move := by
  rw [run_append, h]
  show (middle.next move >>= fun m => some m) = middle.next move
  cases middle.next move <;> rfl

/-- Two runs of which the second begins where the first ends make one run. -/
theorem run_trans {m middle last : Moment} {first second : List Move}
    (h : m.run first = some middle) (h' : middle.run second = some last) :
    m.run (first ++ second) = some last := by
  rw [run_append, h]
  exact h'

/-- The moment at the end of a run that goes on from a reachable moment is reachable. -/
theorem Reachable.run {m last : Moment} (h : m.Reachable) {moves : List Move}
    (h' : m.run moves = some last) : last.Reachable := by
  obtain ⟨before, h⟩ := h
  exact ⟨before ++ moves, run_trans h h'⟩

/-- The moment after a move from a reachable moment is reachable. -/
theorem Reachable.next {m after : Moment} (h : m.Reachable) {move : Move}
    (h' : m.next move = some after) : after.Reachable := by
  obtain ⟨moves, h⟩ := h
  exact ⟨moves ++ [move], (run_snoc h move).trans h'⟩

/-- What holds of a moment and is kept by every move of a kind holds at the end of every run of such
moves from there. -/
theorem run_induction_of_forall {P : Moment → Prop} {kind : Move → Prop}
    (step : ∀ {m after move}, P m → m.next move = some after → kind move → P after)
    {m last : Moment} {moves : List Move} (h : P m) (hrun : m.run moves = some last)
    (hkind : ∀ move ∈ moves, kind move) : P last := by
  induction moves generalizing m with
  | nil =>
      cases hrun
      exact h
  | cons move moves ih =>
      obtain ⟨after, hnext, hrest⟩ := Option.bind_eq_some_iff.1 hrun
      obtain ⟨hmove, hmoves⟩ := List.forall_mem_cons.1 hkind
      exact ih (step h hnext hmove) hrest hmoves

/-- What holds of a moment and is kept by every move holds at the end of every run from there. -/
theorem run_induction {P : Moment → Prop} (step : ∀ {m after move}, P m → m.next move = some after →
    P after) {m last : Moment} {moves : List Move} (h : P m) (hrun : m.run moves = some last) :
    P last :=
  run_induction_of_forall (fun h hnext _ => step h hnext) h hrun fun _ _ => trivial

/-- What holds of a moment without moves, and is kept by every move added to a run, holds of every
run from there and its end. -/
theorem run_history_induction {P : List Move → Moment → Prop} {m last : Moment} {moves : List Move}
    (init : P [] m)
    (step : ∀ {moves middle move after}, m.run moves = some middle → P moves middle →
      middle.next move = some after → P (moves ++ [move]) after) (hrun : m.run moves = some last) :
    P moves last := by
  have hgoes : ∀ (later : List Move) {before : List Move} {middle : Moment},
      m.run before = some middle → P before middle → middle.run later = some last →
        P (before ++ later) last := by
    intro later
    induction later with
    | nil =>
        intro before middle _ h hlater
        cases hlater
        rwa [List.append_nil]
    | cons move later ih =>
        intro before middle hbefore h hlater
        obtain ⟨after, hnext, hrest⟩ := Option.bind_eq_some_iff.1 hlater
        have hafter := ih ((run_snoc hbefore move).trans hnext) (step hbefore h hnext) hrest
        rwa [List.append_assoc] at hafter
  exact hgoes moves rfl init hrun

/-- What holds of the empty world and is kept by every move holds at every reachable moment. -/
theorem Reachable.induction {P : Moment → Prop} (init : P start)
    (step : ∀ {m after move}, P m → m.next move = some after → P after) {m : Moment}
    (h : m.Reachable) : P m := by
  obtain ⟨moves, h⟩ := h
  exact run_induction step init h

/-- What does not hold at the beginning of a run but holds at its end comes about in one of its
moves. -/
theorem exists_change {P : Moment → Prop} {m last : Moment} {moves : List Move}
    (hrun : m.run moves = some last) (hnot : ¬ P m) (hlast : P last) :
    ∃ before move later first second, moves = before ++ move :: later ∧
      m.run before = some first ∧ first.next move = some second ∧ second.run later = some last ∧
      ¬ P first ∧ P second := by
  induction moves generalizing m with
  | nil =>
      cases hrun
      exact absurd hlast hnot
  | cons move moves ih =>
      obtain ⟨after, hnext, hrest⟩ := Option.bind_eq_some_iff.1 hrun
      by_cases hafter : P after
      · exact ⟨[], move, moves, m, after, rfl, rfl, hnext, hrest, hnot, hafter⟩
      · obtain ⟨before, move', later, first, second, rfl, hfirst, hchange⟩ := ih hrest hafter
        refine ⟨move :: before, move', later, first, second, rfl, ?_, hchange⟩
        show m.next move >>= _ = _
        rw [hnext]
        exact hfirst

/-- In a run there is a move of a certain kind. -/
def Happens (first : Moment) (P : Moment → Move → Prop) (moves : List Move) : Prop :=
  ∃ before move later m, moves = before ++ move :: later ∧ first.run before = some m ∧ P m move

/-- What happens in a run that is continued by one move happens before, or with that move. -/
theorem happens_snoc {P : Moment → Move → Prop} {first m : Moment} {moves : List Move} {move : Move}
    (hrun : first.run moves = some m) :
    first.Happens P (moves ++ [move]) ↔ first.Happens P moves ∨ P m move := by
  constructor
  · rintro ⟨before, move', later, n, heq, hbefore, hmove⟩
    rcases List.eq_nil_or_concat later with rfl | ⟨later, last, rfl⟩
    · obtain ⟨rfl, hlast⟩ := List.append_inj' heq rfl
      cases hlast
      cases hrun.symm.trans hbefore
      exact .inr hmove
    · rw [List.concat_eq_append, ← List.cons_append, ← List.append_assoc] at heq
      obtain ⟨rfl, -⟩ := List.append_inj' heq rfl
      exact .inl ⟨before, move', later, n, rfl, hbefore, hmove⟩
  · rintro (⟨before, move', later, n, rfl, hbefore, hmove⟩ | hmove)
    · exact ⟨before, move', later ++ [move], n, by simp, hbefore, hmove⟩
    · exact ⟨moves, move, [], m, rfl, hrun, hmove⟩

/-! ## Polls -/

/-- Running a task for a number of steps is a run. -/
theorem run_steps (w : World) (polling : Polling) (fuel : Nat) :
    ∃ moves, run ⟨w, some polling⟩ moves = some ⟨w.run polling.task fuel, some polling⟩ := by
  induction fuel generalizing w with
  | zero => exact ⟨[], rfl⟩
  | succ fuel ih =>
      cases hstep : w.step? polling.task with
      | none =>
          refine ⟨[], ?_⟩
          simp only [run, World.run, hstep]
      | some after =>
          obtain ⟨moves, hmoves⟩ := ih after
          refine ⟨.step :: moves, ?_⟩
          have hnext : next ⟨w, some polling⟩ .step = some ⟨after, some polling⟩ := by
            simp only [next, hstep, Option.map_some]
          simp only [run, hnext, World.run, hstep]
          exact hmoves

/-- A poll that goes on until its task waits is a run. -/
theorem run_poll {w : World} {fuel : Nat} {task : TaskId}
    (hfirst : ((w.cutTask task).run task fuel).step? task = none)
    (hlast : (w.poll fuel task).step? task = none) :
    ∃ moves, run ⟨w, none⟩ moves = some ⟨w.poll fuel task, none⟩ := by
  obtain ⟨first, h₁⟩ := run_steps (w.cutTask task) ⟨task, false⟩ fuel
  obtain ⟨second, h₂⟩ :=
    run_steps (((w.cutTask task).run task fuel).expireDrain task) ⟨task, true⟩ fuel
  have hexpire : next ⟨(w.cutTask task).run task fuel, some ⟨task, false⟩⟩ .expire =
      some ⟨((w.cutTask task).run task fuel).expireDrain task, some ⟨task, true⟩⟩ := by
    simp only [next, hfirst]
  have hrest : next ⟨w.poll fuel task, some ⟨task, true⟩⟩ .rest =
      some ⟨w.poll fuel task, none⟩ := by
    simp only [next, hlast]
  refine ⟨.poll task :: (first ++ .expire :: (second ++ [.rest])), ?_⟩
  show run ⟨w.cutTask task, some ⟨task, false⟩⟩ (first ++ .expire :: (second ++ [.rest])) = _
  refine run_trans h₁ ?_
  show (next _ .expire >>= fun m => m.run (second ++ [.rest])) = _
  rw [hexpire]
  exact (run_snoc h₂ .rest).trans hrest

end Moment

/-! ## Concrete runs -/

/-- A client with a recording association whose factory acts as given; its other collaborators
succeed. -/
def ClientSpec.recorded (factory : FactoryPlan) : ClientSpec where
  config := .own { (default : Config) with host := "localhost", endpointName := "management" }
  disposers := []
  recorder := some default
  factory := factory

/-- A poll in which a task makes a number of steps before its time limits are looked at, and a
number of steps afterwards. -/
def Move.pollAll (task : TaskId) (first second : Nat) : List Move :=
  .poll task :: (List.replicate first .step ++ .expire :: (List.replicate second .step ++ [.rest]))

end Remoting
