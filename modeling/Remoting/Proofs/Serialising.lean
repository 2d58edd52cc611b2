import Remoting.Proofs.Settling

/-!
# Calls that use one client at the same time

A run serves if, once the client is made, nothing comes from outside but calls for a channel and
closes, while time passes and the tasks are polled in any order. `order` lists its calls in the
order in which they got the lock. Whatever the order of polls, the calls to collaborators and the
ends of the calls are those of a client that is used by one call at a time in this order.
-/

namespace Remoting

/-- What a move uses the client for. -/
def Move.use? : Move → Option Use
  | .act (.getChannel 0 _) => some .get
  | .act (.close 0 _ _) => some .close
  | _ => none

/-- Whether a move starts a call for a channel or a close, or comes from no outside but the
clock. -/
def Move.serves (move : Move) : Bool :=
  match move with
  | .pass _ | .poll _ | .step | .expire | .rest => true
  | _ => move.use?.isSome

namespace World

variable {w : World} {s : Serial} {use : Use}

/-- A call is started. -/
theorem act_eq_addTask (hshows : w.view.Shows s) {action : Action}
    (huse : (Move.act action).use? = some use) :
    ∃ call, w.act action = (w.addTask (.call call) [] (some 0) none).2 ∧
      Serial.Queued use (.call call) [] := by
  obtain ⟨c, hc, hclient, -⟩ := exists_client hshows
  have hlookup : w.clients[0]? = some c := by
    rw [hc]
    rfl
  have hrunning : w.running = true := hshows.running
  have hstart : ∀ (name : String) (call : Call),
      (((Session.ofWorld w).withHandle 0 fun _ =>
        (Session.ofWorld w).start name (some 0) call).2).world =
      (w.addTask (.call call) [] (some 0) none).2 := by
    intro name call
    simp only [Session.withHandle, Session.withClient, Session.world, Session.ofWorld, hlookup,
      hclient.held, if_true, Session.start, Session.setWorld, spawn, hrunning]
  cases action with
  | getChannel client name =>
      cases client with
      | zero =>
          cases huse
          exact ⟨_, hstart name _, .get⟩
      | succ client => cases huse
  | close client name interrupt =>
      cases client with
      | zero =>
          cases huse
          exact ⟨_, hstart name _, .close interrupt⟩
      | succ client => cases huse
  | _ => cases huse

/-- Cleanup actions change nothing but the record of them. -/
theorem exists_addDisposers (w : World) (config : Nat) (disposers : List Disposer) :
    ∃ configs, w.addDisposers config disposers = { w with configs } ∧
      configs.map (fun cell => cell.config) = w.configs.map fun cell => cell.config := by
  induction disposers generalizing w with
  | nil => exact ⟨w.configs, rfl, rfl⟩
  | cons disposer disposers ih =>
      obtain ⟨configs, hrest, hsame⟩ := ih (w.addDisposer config disposer).2
      rw [addDisposers, List.foldl_cons, ← addDisposers, hrest]
      refine ⟨configs, ?_, hsame.trans ?_⟩
      · unfold addDisposer
        split <;> rfl
      · unfold addDisposer
        split
        · rfl
        · next cell _ =>
          exact congrArg View.configs
            (view_modifyConfig w config fun _ => (cell.release.add disposer).after)

/-- Nobody has used a new client. -/
theorem shows_addClient (config : Config) (disposers : List Disposer)
    (recorder : Option RecorderPlan) (factory : FactoryPlan) (trace : AllocationTrace) :
    (World.empty.addClient ⟨.own config, disposers, recorder, factory⟩ trace).view.Shows
      (.fresh config recorder factory) ∧
    (World.empty.addClient ⟨.own config, disposers, recorder, factory⟩ trace).tasks = [] ∧
    (World.empty.addClient ⟨.own config, disposers, recorder, factory⟩ trace).contacts = [] ∧
    (World.empty.addClient ⟨.own config, disposers, recorder, factory⟩ trace).endpoints = [] := by
  obtain ⟨configs, hdisposers, hsame⟩ :=
    exists_addDisposers (World.empty.addConfig config).2 0 disposers
  have hsame' : configs.map (fun cell => cell.config) = [config] := hsame
  have hclient : World.empty.addClient ⟨.own config, disposers, recorder, factory⟩ trace =
      (({ (World.empty.addConfig config).2 with configs }.addAssociation 0 recorder).2).placeClient
        (.fresh 0 (recorder.elim (.handler 0) .recorder) factory trace) := by
    rw [← hdisposers]
    cases recorder with
    | some plan => rfl
    | none =>
        have hhandlers : ((World.empty.addConfig config).2.addDisposers 0 disposers).handlers =
            [] := by
          rw [hdisposers]
          rfl
        simp only [addClient, addSource, addAssociation, addHandler, Option.elim_none]
        rw [show (World.empty.addConfig config).1 = 0 from rfl, hhandlers]
        rfl
  rw [hclient]
  cases recorder <;>
  · refine ⟨⟨⟨_, rfl, ⟨rfl, rfl, rfl, rfl, rfl, rfl⟩, ?_⟩, rfl, rfl, fun _ => rfl, rfl,
      fun _ => rfl, rfl⟩, rfl, rfl, rfl⟩
    show (configs.map fun cell => cell.config)[0]? = some config
    rw [hsame']
    rfl

end World

namespace Moment

/-- The calls that a move starts. -/
def starts (m : Moment) (move : Move) : List (TaskId × Use) :=
  (move.use?.map fun use => (m.world.nextTask, use)).toList

/-- The calls that go on with the lock in a move. -/
def takes (m : Moment) : Move → List (TaskId × Use)
  | .step => (m.polled?.bind Task.takes?).toList
  | _ => []

/-- What is seen of the moves of a run, one after the other. -/
def gather {α : Type} (look : Moment → Move → List α) (m : Moment) : List Move → List α
  | [] => []
  | move :: moves => look m move ++ (m.next move).elim [] fun m => m.gather look moves

/-- The calls that are started in a run. -/
def started (m : Moment) (moves : List Move) : List (TaskId × Use) :=
  m.gather starts moves

/-- The calls that get the lock in a run, in the order in which they do. -/
def order (m : Moment) (moves : List Move) : List (TaskId × Use) :=
  m.gather takes moves

variable {m after last made : Moment} {move : Move} {moves : List Move} {first : Serial}
  {started order : List (TaskId × Use)} {use : Use} {task : TaskId}

theorem gather_cons {α : Type} {look : Moment → Move → List α} (hnext : m.next move = some after)
    (moves : List Move) :
    m.gather look (move :: moves) = look m move ++ after.gather look moves := by
  rw [gather, hnext, Option.elim_some]

/-! ## Moves -/

/-- What is known of a moment at which some calls have been started and some of them have had the
lock. -/
def Serves (m : Moment) (first : Serial) (started order : List (TaskId × Use)) : Prop :=
  ∃ charge, m.world.Serves first started order (m.polling.map fun polling => polling.task) charge

theorem CallsFit.orderly (h : m.CallsFit) :
    m.world.Orderly (m.polling.map fun polling => polling.task) := by
  obtain ⟨world, polling⟩ := m
  cases polling with
  | none => exact World.CallsFit.toOrderly h
  | some polling => exact (World.Acting.fits h).toOrderly

/-- A call is started. -/
theorem Serves.next_act (h : m.Serves first started order) {action : Action}
    (huse : (Move.act action).use? = some use) (hnext : m.next (.act action) = some after) :
    ∃ call, m.polling = none ∧ after = ⟨(m.world.addTask (.call call) [] (some 0) none).2, none⟩ ∧
      Serial.Queued use (.call call) [] := by
  obtain ⟨charge, h⟩ := h
  obtain ⟨s, hshows⟩ := h.phase.exists_shows
  obtain ⟨call, hact, hqueued⟩ := World.act_eq_addTask hshows huse
  cases next_transition hnext with
  | act isPublic idle => exact ⟨call, idle, congrArg (Moment.mk · none) hact, hqueued⟩

/-- A call that is started is noted. -/
theorem Serves.start (h : m.Serves first started order) (hafter : after.CallsFit) {action : Action}
    (huse : (Move.act action).use? = some use) (hnext : m.next (.act action) = some after) :
    after.Serves first (started ++ m.starts (.act action)) order := by
  obtain ⟨call, hpolling, rfl, hqueued⟩ := h.next_act huse hnext
  obtain ⟨charge, h⟩ := h
  rw [hpolling] at h
  rw [starts, huse]
  refine ⟨charge, World.Serves.apart h rfl rfl rfl rfl (fun t ht => ?_) fun hextra => ?_⟩
  · rw [List.mem_singleton.1 ht]
    exact ⟨rfl, use, List.mem_singleton_self _, hqueued⟩
  · cases List.mem_singleton.1 hextra
    have hmem := List.mem_append_right m.world.tasks (List.mem_singleton_self
      (⟨m.world.nextTask, .call call, [], some 0, none⟩ : Task))
    exact ⟨_, hafter.orderly.task?_eq hmem, hqueued⟩

/-- Every move of a run that serves keeps the invariant. -/
theorem Serves.next (h : m.Serves first started order) (hfit : m.CallsFit)
    (hserves : move.serves = true) (hnext : m.next move = some after) :
    after.Serves first (started ++ m.starts move) (order ++ m.takes move) := by
  have hafter := (hfit.next hnext).fits
  have hquiet : m.starts move = [] → m.takes move = [] → after.Serves first started order →
      after.Serves first (started ++ m.starts move) (order ++ m.takes move) := by
    intro hstarts htakes hserves
    rwa [hstarts, htakes, List.append_nil, List.append_nil]
  have horderly := hfit.orderly
  cases move with
  | build | abort | halt | help => cases hserves
  | act action =>
      obtain ⟨use, huse⟩ := Option.isSome_iff_exists.1 hserves
      rw [show m.takes (.act action) = [] from rfl, List.append_nil]
      exact h.start hafter huse hnext
  | pass ms =>
      obtain ⟨charge, h⟩ := h
      cases next_transition hnext with
      | pass ms idle =>
          rw [idle] at h
          have hserves : World.Serves { m.world with now := m.world.now + ms } first (started ++ [])
              order none charge :=
            h.apart (List.append_nil _).symm rfl rfl rfl (by simp) (by simp)
          rw [List.append_nil] at hserves
          exact hquiet rfl rfl ⟨charge, hserves⟩
  | poll task =>
      obtain ⟨charge, h⟩ := h
      obtain ⟨hnone, rfl⟩ := next_poll hnext
      rw [hnone] at h horderly
      refine hquiet rfl rfl ⟨charge, ?_⟩
      show (m.world.cutTask task).Serves first started order (some task) charge
      rw [h.cutTask_eq]
      exact h.poll (fun heq => by cases heq) horderly
  | step =>
      obtain ⟨charge, h⟩ := h
      obtain ⟨polling, u, hpolling, hstep, rfl⟩ := next_step hnext
      rw [hpolling] at h
      rw [show m.starts .step = [] from rfl, List.append_nil, takes, polled?, hpolling,
        Option.bind_some]
      obtain ⟨world, polling'⟩ := m
      cases hpolling
      cases ht : world.task? polling.task with
      | none =>
          rw [World.step?, ht] at hstep
          cases hstep
      | some t =>
          rw [Option.bind_some]
          exact World.Serves.step h hfit hafter ht hstep
  | expire =>
      obtain ⟨charge, h⟩ := h
      obtain ⟨task, hpolling, hstep, rfl⟩ := next_expire hnext
      rw [hpolling] at h
      obtain ⟨world, polling⟩ := m
      cases hpolling
      exact hquiet rfl rfl (h.expires (World.Acting.fits hfit) hafter.orderly hstep)
  | rest =>
      obtain ⟨charge, h⟩ := h
      obtain ⟨task, hpolling, hstep, rfl⟩ := next_rest hnext
      rw [hpolling] at h horderly
      refine hquiet rfl rfl ⟨charge, h.poll (fun heq ht hends => ?_) horderly⟩
      cases heq
      obtain ⟨wait, hwait, -⟩ := World.wait_of_step?_eq_none hstep ht
      rw [hwait] at hends
      cases hends

/-! ## The queue of the lock -/

/-- The polled task goes on, and whoever waits for the lock after that stands in its queue. -/
theorem Serves.lines_up (h : m.Serves first started order) (hm : m.Reachable)
    (hlined : m.world.LinedUp) (hmove : move = .step ∨ move = .expire)
    (hafter : after.Serves first started (order ++ m.takes move))
    (hnext : m.next move = some after) : after.world.LinedUp := by
  intro t' ht' hcontrol
  have horderly := (hm.next hnext).fits.orderly
  obtain ⟨charge, h⟩ := h
  obtain ⟨charge', hafter⟩ := hafter
  obtain ⟨use, hstarted, hqueued'⟩ := hafter.exists_queued horderly ht' hcontrol
  have hthere := horderly.task?_eq ht'
  have hnot : (t'.id, use) ∉ order ++ m.takes move := fun hmem =>
    hafter.not_queued horderly hthere hmem hqueued'
  -- the task has waited for the lock or been about to
  obtain ⟨t, ht, hqueued⟩ := (h.waits hstarted).resolve_left fun hmem =>
    hnot (List.mem_append_left _ hmem)
  by_cases hactor : m.actor? move = some t'.id
  · rcases hmove with rfl | rfl
    · rw [takes, polled?_of_actor? hactor ht, Option.bind_some] at hnot
      obtain ⟨u, hstep, rfl⟩ := step_of_actor? hnext hactor
      obtain ⟨s, hshows⟩ := h.phase.exists_shows
      rcases hm.seats.queued_step hshows ht hqueued hstep hthere hcontrol with htakes | hin
      · rw [htakes] at hnot
        exact absurd (List.mem_append_right _ (List.mem_singleton_self _)) hnot
      · exact hin
    · obtain ⟨-, -, rfl⟩ := expire_of_actor? hnext hactor
      dsimp only at ht' ⊢
      rw [World.expireDrain_eq ht hqueued] at ht' ⊢
      exact hlined t' ht' hcontrol
  · have hkept := next_task? hnext ht hactor
    cases hthere.symm.trans hkept
    exact (hm.fits.shifts hm.seats hnext).mem_queue hactor
      (hlined _ (World.task?_mem ht).1 hcontrol)

/-- Every move of a run that serves leaves whoever waits for the lock in its queue. -/
theorem Serves.linedUp (h : m.Serves first started order) (hm : m.Reachable)
    (hlined : m.world.LinedUp) (hserves : move.serves = true) (hnext : m.next move = some after) :
    after.world.LinedUp := by
  have hafter := h.next hm.fits hserves hnext
  cases move with
  | build | abort | halt | help => cases hserves
  | act action =>
      obtain ⟨use, huse⟩ := Option.isSome_iff_exists.1 hserves
      obtain ⟨call, -, rfl, -⟩ := h.next_act huse hnext
      intro t ht hcontrol
      rcases List.mem_append.1 ht with ht | ht
      · exact hlined t ht hcontrol
      · rw [List.mem_singleton.1 ht] at hcontrol
        cases hcontrol
  | pass ms =>
      cases next_transition hnext
      exact hlined
  | poll task =>
      obtain ⟨charge, h⟩ := h
      obtain ⟨-, rfl⟩ := next_poll hnext
      show (m.world.cutTask task).LinedUp
      rwa [h.cutTask_eq]
  | step =>
      refine h.lines_up hm hlined (.inl rfl) ?_ hnext
      simpa only [starts, Move.use?, Option.map_none, Option.toList_none, List.append_nil]
        using hafter
  | expire =>
      refine h.lines_up hm hlined (.inr rfl) ?_ hnext
      simpa only [starts, Move.use?, Option.map_none, Option.toList_none, List.append_nil]
        using hafter
  | rest =>
      obtain ⟨task, -, -, rfl⟩ := next_rest hnext
      exact hlined

/-! ## Runs -/

/-- A moment of a run that serves, at which some calls have been started and some of them have had
the lock. -/
structure Serving (m : Moment) (first : Serial) (started order : List (TaskId × Use)) : Prop where
  reachable : m.Reachable
  serves : m.Serves first started order
  linedUp : m.world.LinedUp

theorem Serving.next (h : m.Serving first started order) (hserves : move.serves = true)
    (hnext : m.next move = some after) :
    after.Serving first (started ++ m.starts move) (order ++ m.takes move) where
  reachable := h.reachable.next hnext
  serves := h.serves.next h.reachable.fits hserves hnext
  linedUp := h.serves.linedUp h.reachable h.linedUp hserves hnext

theorem Serving.run (h : m.Serving first started order)
    (hserves : ∀ move ∈ moves, move.serves = true) (hrun : m.run moves = some last) :
    last.Serving first (started ++ m.started moves) (order ++ m.order moves) := by
  induction moves generalizing m started order with
  | nil =>
      cases hrun
      simpa only [Moment.started, Moment.order, gather, List.append_nil] using h
  | cons move moves ih =>
      obtain ⟨after, hnext, hrest⟩ := Option.bind_eq_some_iff.1 hrun
      obtain ⟨hmove, hmoves⟩ := List.forall_mem_cons.1 hserves
      have hlast := ih (h.next hmove hnext) hmoves hrest
      simpa only [Moment.started, Moment.order, gather_cons hnext, List.append_assoc] using hlast

/-- The first moment of a client. -/
theorem serving_build {config : Config} {disposers : List Disposer} {recorder : Option RecorderPlan}
    {factory : FactoryPlan} {trace : AllocationTrace}
    (hmade : start.next (.build ⟨.own config, disposers, recorder, factory⟩ trace) = some made) :
    made.Serving (.fresh config recorder factory) [] [] := by
  have hreach : made.Reachable := ⟨[_], Option.bind_eq_some_iff.2 ⟨made, hmade, rfl⟩⟩
  cases hmade
  obtain ⟨hshows, htasks, hcontacts, hendpoints⟩ :=
    World.shows_addClient config disposers recorder factory trace
  refine ⟨hreach, ⟨none, ?_⟩, fun t ht => ?_⟩
  swap
  · have hnone :
        t ∈ (World.empty.addClient ⟨.own config, disposers, recorder, factory⟩ trace).tasks := ht
    rw [htasks] at hnone
    cases hnone
  show (World.empty.addClient ⟨.own config, disposers, recorder, factory⟩ trace).Serves
    _ [] [] none none
  generalize World.empty.addClient ⟨.own config, disposers, recorder, factory⟩ trace = w at *
  exact {
    phase := by
      refine .idle (by simp [Serial.play]) ?_ hshows
      rw [World.calls, World.history, hcontacts]
      rfl
    spots := by simp [htasks]
    stands := .nil
    waits := by simp
    started := by simp
    nodup := .nil
    listed := by
      have howned : w.view.owned = [] := by rw [World.view, hendpoints]; rfl
      exact ⟨by simp [howned], by simp [howned]⟩ }

end Moment

end Remoting
