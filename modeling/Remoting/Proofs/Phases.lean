import Remoting.Proofs.Dropping
import Remoting.Proofs.Vouching

/-!
# The two phases of a close

An endpoint that owns tasks is open until somebody asks it to close, then it is closing until a
waiter finds that its tasks are gone, and then it is closed. Here anybody may call the endpoint at
any time: besides the moves of a run there are calls that come between two steps of a task, such as
those that an owned task makes itself. `Phased` is the invariant, `endpoint_phases` the result.
-/

namespace Remoting

/-- What is known of an endpoint at every moment: its tasks were told to finish if and only if it
was asked to close, and it is closed only without tasks. -/
structure LocalEndpoint.Phased (endpoint : LocalEndpoint) : Prop where
  cancelled : endpoint.cancelled = endpoint.state.isCloseRequested
  closed : endpoint.state = .closed → endpoint.tasks = []

/-- Whether a move sets the state of an endpoint by hand. -/
def Move.sets (endpoint : EndpointId) : Move → Bool
  | .act action => action.sets endpoint
  | _ => false

/-- What can happen in a run in which anybody may call an endpoint at any time. -/
inductive Happening where
  | move (move : Move)
  /-- The endpoint is given a task. -/
  | spawn (script : List OwnedStep)
  /-- The endpoint is asked to close. -/
  | close
  /-- A wait for the closure of the endpoint begins. -/
  | await

namespace World

variable {w u : World} {endpoint : EndpointId} {shut : EndpointId → Prop} {task : TaskId}
  {active : Option TaskId}

/-! ## Calls of an endpoint -/

/-- What a call of an endpoint does to a world that is going on: it may start a task. -/
structure Intrudes (w u : World) : Prop extends Alike w u where
  fits : ∀ {active : Option TaskId}, w.CallsFit active → u.CallsFit active
  tasks : ∀ {t : Task}, t ∈ u.tasks → t ∈ w.tasks ∨
    t.id = w.nextTask ∧ t.frames = [] ∧ t.control.resting = true ∧
      ∀ td outcome, t.control ≠ .call (.teardown td (.finish outcome))
  lasts : Lasts w u
  passes : Passes (fun _ => false) (fun _ => False) w u

theorem intrudes_closeLocal (w : World) (endpoint : EndpointId) :
    Intrudes w (w.closeLocal endpoint) where
  toAlike := (quiet_closeLocal w endpoint).toAlike
  fits hfit := hfit.quiet (quiet_closeLocal w endpoint)
  tasks ht := .inl ((quiet_closeLocal w endpoint).same.tasks ▸ ht)
  lasts := by
    have hdeals : Deals (fun _ => True) 0 [] w (w.closeLocal endpoint) :=
      deals_closeLocal w endpoint
    exact hdeals.toLasts
  passes := passes_closeLocal w endpoint

theorem tasks_spawn (w : World) (control : Control) (owner : Option EndpointId) {t : Task}
    (ht : t ∈ (w.spawn control [] none owner).2.tasks) :
    t ∈ w.tasks ∨ t.id = w.nextTask ∧ t.frames = [] ∧ t.control = control := by
  unfold World.spawn at ht
  split at ht
  · rcases List.mem_append.1 ht with ht | ht
    · exact .inl ht
    · rw [List.mem_singleton.1 ht]
      exact .inr ⟨rfl, rfl, rfl⟩
  · exact .inl ht

theorem intrudes_awaitLocal (h : w.CallsFit active) (endpoint : EndpointId) :
    Intrudes w (w.spawn (.call (.awaitLocal endpoint)) [] none none).2 where
  toAlike := alike_spawn h.toOrderly _ _ _ _
  fits hfit := hfit.spawn rfl none none
  tasks ht := by
    rcases tasks_spawn w _ none ht with ht | ⟨hid, hframes, hcontrol⟩
    · exact .inl ht
    · exact .inr ⟨hid, hframes, by rw [hcontrol]; rfl, by simp [hcontrol]⟩
  lasts := by
    have hdeals : Deals (fun _ => True) 0 [] w _ :=
      deals_spawn w (.call (.awaitLocal endpoint)) none none
    exact hdeals.toLasts
  passes := passes_spawn w (by simp) none

theorem intrudes_spawnOwned (h : w.CallsFit active) (endpoint : EndpointId)
    (script : List OwnedStep) : Intrudes w (w.spawnOwned endpoint script).2 where
  toAlike := (spawnOwned_spec h endpoint script).1
  fits hfit := (spawnOwned_spec hfit endpoint script).2
  tasks {t} ht := by
    unfold spawnOwned at ht
    split at ht
    next => exact .inl ht
    next =>
      split at ht
      next => exact .inl ht
      next =>
        rcases tasks_spawn _ _ _ ht with ht | ⟨hid, hframes, hcontrol⟩
        · exact .inl ht
        · exact .inr ⟨hid, hframes, by rw [hcontrol]; rfl, by simp [hcontrol]⟩
  lasts := by
    have hdeals : Deals (fun _ => True) 0 [] w _ := deals_spawnOwned w endpoint script
    exact hdeals.toLasts
  passes := passes_spawnOwned w endpoint script

/-- A call of an endpoint is no concern of the task that is being polled. -/
theorem Intrudes.acting (h : Intrudes w u) (hacting : w.Acting task) : u.Acting task where
  fits := h.fits hacting.fits
  active {t} ht := by
    obtain ⟨hmem, hid⟩ := task?_mem ht
    rcases h.tasks hmem with hold | ⟨hnew, hframes, hrest, hfinish⟩
    · have hfind := hacting.fits.task?_eq hold
      rw [hid] at hfind
      exact (hacting.active hfind).alike h.toAlike
    · -- the number that is polled is that of the new task, so no task was being polled
      have hgone : w.task? task = none := by
        cases hfind : w.task? task with
        | none => rfl
        | some t₀ =>
            obtain ⟨hmem₀, hid₀⟩ := task?_mem hfind
            have hlt := hacting.fits.fresh hmem₀
            rw [hid₀, ← hid, hnew] at hlt
            exact absurd hlt (Nat.lt_irrefl _)
      have hok := ((h.fits (hacting.fits.gone hgone)).resting hmem nofun).2
      rw [hid] at hok
      refine ⟨hok, fun hcontrol => absurd hcontrol (hfinish _ _), fun hframe => ?_⟩
      rw [hframes] at hframe
      cases hframe

/-- What a task knows of an endpoint stays right. -/
theorem Vouches.lasts {control : Control} {frames : List Frame} (h : w.Vouches task control frames)
    (hlasts : Lasts w u) (hgrows : Grows w u) (hcontacts : u.contacts = w.contacts) :
    u.Vouches task control frames := by
  have hclears : ∀ {td}, w.Clears td → u.Clears td := fun h endpoint he hplain =>
    (h endpoint he (hplain.of_grows hgrows)).lasts hlasts
  unfold Vouches at h ⊢
  split at h
  · exact h.lasts hlasts
  · exact fun hplain => (h (hplain.of_grows hgrows)).lasts hlasts
  · exact hclears h
  · rw [hcontacts]
    exact fun client td hentry hreply => hclears (h client td hentry hreply)
  · exact fun houtcome => hclears (h houtcome)
  · trivial

/-! ## The end of a wait -/

theorem local?_finishLocal (w : World) (endpoint : EndpointId) :
    (w.finishLocal endpoint).local? endpoint = (w.local? endpoint).map (·.finish.2) := by
  unfold finishLocal
  split
  next hnone => rw [hnone, Option.map_none]
  next owned howned =>
    rw [howned, Option.map_some]
    split
    next hfinish =>
      rw [howned, LocalEndpoint.finish_eq (by rw [hfinish])]
    next closed hfinish =>
      rw [hfinish]
      exact local?_setLocal howned closed

/-- The end of its tasks closes an endpoint. -/
theorem state_finish (owned : LocalEndpoint) : owned.finish.2.state = .closed := by
  have hrank : owned.finish.2.state.rank = max owned.state.rank EndpointState.closed.rank :=
    owned.channel.rank_advance .closed
  refine EndpointState.eq_of_rank_eq (hrank.trans ?_)
  cases owned.state <;> rfl

/-! ## What a call answers -/

/-- An open endpoint takes over a task. -/
theorem spawnOwned_of_open {owned : LocalEndpoint} (howned : w.local? endpoint = some owned)
    (hopen : owned.state = .opened) (script : List OwnedStep) :
    (w.spawnOwned endpoint script).1 = .ok w.nextTask ∧
      ∃ owned', (w.spawnOwned endpoint script).2.local? endpoint = some owned' ∧
        w.nextTask ∈ owned'.tasks := by
  have hspawn : owned.spawn w.nextTask = .ok
      { owned with
        tasks := owned.tasks ++ [w.nextTask], listeners := owned.listeners ++ [w.nextTask] } := by
    rw [LocalEndpoint.spawn, hopen]
    rfl
  have hlocal : ∀ (v : World) (control : Control) (owner : Option EndpointId),
      (v.spawn control [] none owner).2.local? endpoint = v.local? endpoint := by
    intro v control owner
    unfold World.spawn
    split <;> rfl
  have hid : ∀ (v : World) (control : Control) (owner : Option EndpointId),
      (v.spawn control [] none owner).1 = v.nextTask := by
    intro v control owner
    unfold World.spawn
    split <;> rfl
  unfold spawnOwned
  simp only [howned, hspawn]
  refine ⟨congrArg Except.ok (hid _ _ _), _, (hlocal _ _ _).trans (local?_setLocal howned _), ?_⟩
  exact List.mem_append_right _ (List.mem_singleton_self _)

/-- An endpoint that was asked to close takes over no task. -/
theorem spawnOwned_of_requested {owned : LocalEndpoint} (howned : w.local? endpoint = some owned)
    (hrequested : owned.state ≠ .opened) (script : List OwnedStep) :
    w.spawnOwned endpoint script = (.error (.closed ("Endpoint " ++ owned.name)), w) := by
  have hspawn : owned.spawn w.nextTask = .error (.closed ("Endpoint " ++ owned.name)) := by
    simp [LocalEndpoint.spawn, EndpointState.isCloseRequested, hrequested]
  unfold spawnOwned
  simp only [howned, hspawn]

theorem local?_closeLocal (w : World) (endpoint : EndpointId) :
    (w.closeLocal endpoint).local? endpoint = (w.local? endpoint).map (·.close.2) := by
  have hsignals : ∀ (tasks : List TaskId) (v : World),
      (tasks.foldl (fun v task => v.signal (.finishOrder task)) v).local? endpoint =
        v.local? endpoint := by
    intro tasks
    induction tasks with
    | nil => exact fun _ => rfl
    | cons task rest ih => exact fun v => ih (v.signal (.finishOrder task))
  have hdrained : ∀ v : World, (v.signalDrained endpoint).local? endpoint = v.local? endpoint := by
    intro v
    unfold signalDrained
    split <;> rfl
  unfold closeLocal
  split
  next hnone => rw [hnone, Option.map_none]
  next owned howned =>
    rw [howned, Option.map_some]
    split
    next same hclose =>
      have hsame : owned.close.2 = owned := by
        unfold LocalEndpoint.close at hclose ⊢
        split at hclose
        next => cases hclose
        next => rfl
      rw [howned, hsame]
    next closed hclose =>
      rw [hsignals, hdrained, hclose]
      exact local?_setLocal howned closed

/-- A second request to close changes nothing. -/
theorem closeLocal_closeLocal (w : World) (endpoint : EndpointId) :
    (w.closeLocal endpoint).closeLocal endpoint = w.closeLocal endpoint := by
  have hnone : ∀ v : World, v.local? endpoint = none → v.closeLocal endpoint = v := by
    intro v hlocal
    simp only [closeLocal, hlocal]
  have hclosing : ∀ (v : World) (owned : LocalEndpoint), v.local? endpoint = some owned.close.2 →
      v.closeLocal endpoint = v := by
    intro v owned hlocal
    simp only [closeLocal, hlocal, LocalEndpoint.close_close]
  have hlocal := w.local?_closeLocal endpoint
  cases howned : w.local? endpoint with
  | none =>
      rw [howned] at hlocal
      exact hnone _ hlocal
  | some owned =>
      rw [howned] at hlocal
      exact hclosing _ owned hlocal

end World

namespace Moment

variable {m after last : Moment} {move : Move} {happening : Happening} {endpoint : EndpointId}
  {owned : LocalEndpoint} {t : Task}

/-- The polled task has found that the tasks of an endpoint are gone, and its next step closes the
endpoint and goes on in the given frames. -/
def Finds (m : Moment) (endpoint : EndpointId) (t : Task) (outer : List Frame) : Prop :=
  m.polled? = some t ∧ (∃ reply, t.control = .reply reply) ∧
    t.frames = .localTasks endpoint :: outer

/-- What a move may close for good. -/
def MayFinish (m : Moment) (move : Move) (endpoint : EndpointId) : Prop :=
  (move = .step ∧ ∃ t outer, m.Finds endpoint t outer) ∨ move.sets endpoint = true

theorem Comes.shutsOnly {may : ClientId → Bool} {shut : EndpointId → Prop} {w u : World}
    (h : World.Comes may shut w u) : World.ShutsOnly shut w u := by
  cases h with
  | passes h => exact h.toShutsOnly
  | starts =>
      refine .of_eq ?_
      unfold World.spawn
      split <;> rfl
  | drops => exact .of_eq (World.endpoints_dropHandle _ _)

/-- What a move does to the endpoints. -/
theorem next_shutsOnly (hnext : m.next move = some after) :
    World.ShutsOnly (m.MayFinish move) m.world after.world := by
  cases next_transition hnext with
  | build spec trace idle =>
      obtain ⟨v, c, heq, hpasses, -⟩ : ∃ v c, m.world.addClient spec trace = _ ∧
          World.Passes (fun _ => false) _ m.world v ∧ _ := World.addClient_eq m.world spec trace
      rw [heq]
      exact hpasses.toShutsOnly.trans (.of_eq rfl)
  | @act action isPublic idle =>
      have hcomes : World.Comes (fun client => action.mayClose client)
          (m.MayFinish (.act action)) m.world (m.world.act action) :=
        World.comes_act m.world (fun _ h => h) fun _ hsets => .inr hsets
      exact Comes.shutsOnly hcomes
  | abort task idle => exact World.shutsOnly_abortTask _ _
  | pass ms idle => exact .of_eq rfl
  | halt idle => exact .of_eq rfl
  | help idle => exact World.shutsOnly_help _
  | poll task idle => exact World.shutsOnly_cutTask _ _
  | @step polling u polls steps =>
      cases ht : m.world.task? polling.task with
      | none =>
          rw [World.step?, ht] at steps
          cases steps
      | some t =>
          have hpolled : m.polled? = some t := by rw [polled?, polls]; exact ht
          have hover : ∀ reply endpoint outer, t.control = .reply reply →
              t.frames = .localTasks endpoint :: outer → m.MayFinish .step endpoint :=
            fun reply endpoint outer hcontrol hframes =>
              .inl ⟨rfl, t, outer, hpolled, ⟨reply, hcontrol⟩, hframes⟩
          rcases World.closesOnly_step ht steps hover with
            ⟨-, finish, rfl⟩ | ⟨v, control, inner, rfl, hpasses, -⟩
          · exact World.shutsOnly_finishTask _ _ _
          · exact hpasses.toShutsOnly.trans (.of_eq rfl)
  | expire polls waits => exact World.shutsOnly_expireDrain _ _
  | rest polls waits => exact .of_eq rfl

/-! ## Runs in which anybody may call an endpoint -/

/-- The moment before everything, apart from some endpoints that belong to no client. -/
def standing (names : List String) : Moment :=
  ⟨{ World.empty with endpoints := names.map fun name => ⟨.fresh name, none, none⟩ }, none⟩

/-- The moment after a happening, if it is possible. Nobody sets the state of the endpoint by
hand. -/
def happen (m : Moment) (endpoint : EndpointId) : Happening → Option Moment
  | .move move => if move.sets endpoint then none else m.next move
  | .spawn script => some ⟨(m.world.spawnOwned endpoint script).2, m.polling⟩
  | .close => some ⟨m.world.closeLocal endpoint, m.polling⟩
  | .await => some ⟨(m.world.spawn (.call (.awaitLocal endpoint)) [] none none).2, m.polling⟩

/-- The moment after a list of happenings, if all of them are possible. -/
def course (m : Moment) (endpoint : EndpointId) : List Happening → Option Moment
  | [] => some m
  | happening :: rest => m.happen endpoint happening >>= fun m => m.course endpoint rest

/-- Calls of an endpoint are happenings that start at most a task. -/
theorem happen_cases (h : m.CallsFit) (hhappen : m.happen endpoint happening = some after) :
    (∃ move, happening = .move move ∧ move.sets endpoint = false ∧ m.next move = some after) ∨
      after.polling = m.polling ∧ World.Intrudes m.world after.world := by
  obtain ⟨active, hfit⟩ := h.exists_callsFit
  cases happening with
  | move move =>
      simp only [happen] at hhappen
      split at hhappen
      next => cases hhappen
      next hsets => exact .inl ⟨move, rfl, by simpa using hsets, hhappen⟩
  | spawn script =>
      cases hhappen
      exact .inr ⟨rfl, World.intrudes_spawnOwned hfit endpoint script⟩
  | close =>
      cases hhappen
      exact .inr ⟨rfl, World.intrudes_closeLocal m.world endpoint⟩
  | await =>
      cases hhappen
      exact .inr ⟨rfl, World.intrudes_awaitLocal hfit endpoint⟩

/-- What is known at every moment of such a run. -/
structure Steady (m : Moment) (endpoint : EndpointId) : Prop where
  fits : m.CallsFit
  vouched : m.Vouched
  phased : ∀ {owned}, m.world.local? endpoint = some owned → owned.Phased

/-- A call of the endpoint keeps what is known of tasks. -/
theorem Steady.intrude (h : m.Steady endpoint) (hpolling : after.polling = m.polling)
    (hintrudes : World.Intrudes m.world after.world) : after.CallsFit ∧ after.Vouched := by
  obtain ⟨world, polling⟩ := m
  obtain ⟨u, polling'⟩ := after
  obtain rfl : polling' = polling := hpolling
  cases polling' with
  | none => exact ⟨hintrudes.fits h.fits, fun _ ht => by cases ht⟩
  | some polling =>
      refine ⟨hintrudes.acting h.fits, fun t ht => ?_⟩
      have hacting : world.Acting polling.task := h.fits
      have hfind : u.task? polling.task = some t := ht
      obtain ⟨hmem, hid⟩ := World.task?_mem hfind
      rcases hintrudes.tasks hmem with hold | ⟨-, -, hrest, -⟩
      · have hfind' := hacting.fits.task?_eq hold
        rw [hid] at hfind'
        exact (h.vouched t hfind').lasts hintrudes.lasts hintrudes.toAlike.grows
          hintrudes.contacts
      · exact World.vouches_of_resting hrest

/-- The step that closes an endpoint for good finds it without tasks, and closes it. -/
theorem Steady.finds (h : m.Steady endpoint) {outer : List Frame}
    (hfinds : m.Finds endpoint t outer) (hnext : m.next .step = some after) :
    ∃ owned, m.world.local? endpoint = some owned ∧ owned.isDrained = true ∧
      after.world.local? endpoint = some owned.finish.2 ∧
      after.polled? =
        some { t with control := .reply (.ok (.state .closed)), frames := outer } := by
  obtain ⟨hpolled, ⟨reply, hcontrol⟩, hframes⟩ := hfinds
  have hvouches := h.vouched t hpolled
  rw [hcontrol, hframes] at hvouches
  obtain ⟨owned, howned, hdrained⟩ := hvouches
  obtain ⟨polling, u, hpolling, hstep, rfl⟩ := next_step hnext
  have ht : m.world.task? polling.task = some t := by rwa [polled?, hpolling] at hpolled
  rw [World.step?, ht] at hstep
  simp only [hcontrol, hframes, Option.some.injEq] at hstep
  subst hstep
  have hlocal : (m.world.finishLocal endpoint).local? endpoint = some owned.finish.2 := by
    rw [World.local?_finishLocal, howned, Option.map_some]
  refine ⟨owned, howned, hdrained, hlocal, ?_⟩
  have hfind : (m.world.finishLocal endpoint).task? polling.task = some t := by
    rw [World.task?, (World.quiet_finishLocal m.world endpoint).same.tasks]
    exact ht
  show ((m.world.finishLocal endpoint).goto polling.task _ outer).task? polling.task = _
  rw [World.task?_goto, hfind, hlocal]
  simp only [Option.map_some, Option.getD_some, World.state_finish _]

/-- What a happening does to the endpoint: it goes on as it can without a waiter, or a waiter closes
it for good. -/
theorem Steady.goes (h : m.Steady endpoint) (hhappen : m.happen endpoint happening = some after) :
    after.CallsFit ∧ after.Vouched ∧ World.Lasts m.world after.world ∧
      (World.ShutsOnly (· ≠ endpoint) m.world after.world ∨
        happening = .move .step ∧ ∃ t outer, m.Finds endpoint t outer) := by
  rcases happen_cases h.fits hhappen with ⟨move, rfl, hsets, hnext⟩ | ⟨hpolling, hintrudes⟩
  · refine ⟨(h.fits.next hnext).fits, h.vouched.next h.fits hnext, next_lasts hnext, ?_⟩
    by_cases hfinds : move = .step ∧ ∃ t outer, m.Finds endpoint t outer
    · exact .inr ⟨by rw [hfinds.1], hfinds.2⟩
    · refine .inl ((next_shutsOnly hnext).imp ?_)
      rintro other (hother | hother) rfl
      · exact hfinds hother
      · rw [hsets] at hother
        cases hother
  · obtain ⟨hfit, hvouched⟩ := h.intrude hpolling hintrudes
    exact ⟨hfit, hvouched, hintrudes.lasts, .inl (hintrudes.passes.toShutsOnly.imp nofun)⟩

/-- Every happening keeps what is known. -/
theorem Steady.happen (h : m.Steady endpoint)
    (hhappen : m.happen endpoint happening = some after) : after.Steady endpoint := by
  obtain ⟨hfit, hvouched, hlasts, hgoes⟩ := h.goes hhappen
  refine ⟨hfit, hvouched, fun {owned'} howned' => ?_⟩
  rcases hgoes with hshuts | ⟨rfl, t, outer, hfinds⟩
  · cases howned : m.world.local? endpoint with
    | some owned =>
        obtain ⟨owned'', hfound, hshuts⟩ := hshuts.endpoint howned
        obtain ⟨owned₁, hlast, hkeeps⟩ := hlasts.endpoint howned
        cases hfound.symm.trans howned'
        cases hlast.symm.trans howned'
        refine ⟨(hshuts.cancelled (h.phased howned).cancelled).resolve_right (· rfl),
          fun hclosed => ?_⟩
        have hbefore := (hshuts.closed hclosed).resolve_right (· rfl)
        have hover : owned.Over := ⟨hbefore, (h.phased howned).closed hbefore⟩
        exact (hover.keepsTasks hkeeps).2
    | none =>
        obtain ⟨name, hshuts⟩ := hshuts.created howned howned'
        refine ⟨(hshuts.cancelled rfl).resolve_right (· rfl), fun hclosed => ?_⟩
        cases (hshuts.closed hclosed).resolve_right (· rfl)
  · obtain ⟨owned, howned, hdrained, hfound, -⟩ := h.finds hfinds hhappen
    obtain rfl := Option.some.inj (hfound.symm.trans howned')
    obtain ⟨hrequested, htasks⟩ := (LocalEndpoint.isDrained_iff owned).1 hdrained
    refine ⟨?_, fun _ => htasks⟩
    rw [World.state_finish _]
    exact (h.phased howned).cancelled.trans hrequested

theorem standing_steady (names : List String) (endpoint : EndpointId) :
    (standing names).Steady endpoint where
  fits :=
    { nodup := .nil
      fresh := nofun
      unfinished := nofun
      past := nofun
      handed := nofun
      unheld := nofun
      resting := nofun
      clients := fun _ => rfl }
  vouched _ ht := by cases ht
  phased {owned} howned := by
    obtain ⟨cell, hcell, rfl⟩ := Option.map_eq_some_iff.1 howned
    obtain ⟨name, -, rfl⟩ := List.mem_map.1 (List.mem_of_getElem? hcell)
    exact ⟨rfl, nofun⟩

/-- What is known at the beginning and is kept by every happening is known at every moment. -/
theorem course_induction {P : Moment → Prop} {happenings : List Happening}
    (step : ∀ {m after happening}, P m → m.happen endpoint happening = some after → P after)
    (h : P m) (hrun : m.course endpoint happenings = some last) : P last := by
  induction happenings generalizing m with
  | nil =>
      cases hrun
      exact h
  | cons happening rest ih =>
      obtain ⟨after, hhappen, hrun⟩ := Option.bind_eq_some_iff.1 hrun
      exact ih (step h hhappen) hrun

theorem Steady.course {happenings : List Happening} (h : m.Steady endpoint)
    (hrun : m.course endpoint happenings = some last) :
    last.Steady endpoint ∧ World.Lasts m.world last.world := by
  refine course_induction (P := fun last => last.Steady endpoint ∧ World.Lasts m.world last.world)
    ?_ ⟨h, .refl _⟩ hrun
  rintro middle after happening ⟨hsteady, hlasts⟩ hhappen
  exact ⟨hsteady.happen hhappen, hlasts.trans (hsteady.goes hhappen).2.2.1⟩

/-- What an endpoint promises at a moment of a run. -/
structure TwoPhase (m : Moment) (endpoint : EndpointId) (owned : LocalEndpoint) : Prop where
  /-- Its tasks are told to finish if and only if it is not open. -/
  cancelled : owned.cancelled = true ↔ owned.state ≠ .opened
  told : ∀ task, (m.world.ready? task (.finishOrder endpoint)).isSome = true ↔
    owned.state ≠ .opened
  closed : owned.state = .closed → owned.tasks = []
  /-- Its state moves on by one phase at a time, to the last one only where a wait for its closure
  finds that it was asked to close and owns no task. -/
  moves : ∀ {happening after}, m.happen endpoint happening = some after →
    ∃ owned', after.world.local? endpoint = some owned' ∧
      (owned'.state = owned.state ∨ owned.state = .opened ∧ owned'.state = .closing ∨
        owned.state = .closing ∧ owned'.state = .closed ∧ owned.tasks = [] ∧
          happening = .move .step ∧ ∃ t outer, m.Finds endpoint t outer)
  /-- A wait for its closure returns nothing else than that it is closed. -/
  returns : ∀ {t outer after}, m.Finds endpoint t outer → m.next .step = some after →
    (∃ owned', after.world.local? endpoint = some owned' ∧ owned'.state = .closed) ∧
      after.polled? = some { t with control := .reply (.ok (.state .closed)), frames := outer }
  /-- It takes over a task if and only if it is open; a task that it refuses leaves no trace. -/
  accepts : owned.state = .opened → ∀ script,
    (m.world.spawnOwned endpoint script).1 = .ok m.world.nextTask ∧
      ∃ owned', (m.world.spawnOwned endpoint script).2.local? endpoint = some owned' ∧
        m.world.nextTask ∈ owned'.tasks
  refuses : owned.state ≠ .opened → ∀ script, m.world.spawnOwned endpoint script =
    (.error (.closed ("Endpoint " ++ owned.name)), m.world)
  /-- The request to close it succeeds, and a second one changes nothing. -/
  close : ((Session.ofWorld m.world).act (.closeEndpoint endpoint)).1 = .reply (.ok .unit) ∧
    m.world.act (.closeEndpoint endpoint) = m.world.closeLocal endpoint ∧
    (∃ owned', (m.world.closeLocal endpoint).local? endpoint = some owned' ∧
      owned'.state ≠ .opened) ∧
    (m.world.closeLocal endpoint).closeLocal endpoint = m.world.closeLocal endpoint

theorem isCloseRequested_iff {state : EndpointState} :
    state.isCloseRequested = true ↔ state ≠ .opened := by
  simp [EndpointState.isCloseRequested]

/-- Where no waiter closes it, an endpoint stays in its phase or is asked to close. -/
theorem state_of_shutOnlyIf {owned' : LocalEndpoint} (h : owned.ShutOnlyIf False owned') :
    owned'.state = owned.state ∨ owned.state = .opened ∧ owned'.state = .closing := by
  have hrank := h.rank
  have hclosed := h.closed
  cases hbefore : owned.state <;> cases hafter : owned'.state <;>
    rw [hbefore, hafter] at hrank hclosed
  case opened.opened | closing.closing | closed.closed => exact .inl rfl
  case opened.closing => exact .inr ⟨rfl, rfl⟩
  case opened.closed | closing.closed => rcases hclosed rfl with hbefore | hfalse <;> contradiction
  all_goals exact absurd hrank (by decide)

theorem Steady.twoPhase (h : m.Steady endpoint) (howned : m.world.local? endpoint = some owned) :
    m.TwoPhase endpoint owned where
  cancelled := by rw [(h.phased howned).cancelled, isCloseRequested_iff]
  told task := by
    have hready : (m.world.ready? task (.finishOrder endpoint)).isSome = owned.cancelled := by
      simp only [World.ready?, howned, Option.any_some]
      split <;> simp_all
    rw [hready, (h.phased howned).cancelled, isCloseRequested_iff]
  closed := (h.phased howned).closed
  moves hhappen := by
    obtain ⟨-, -, -, hshuts | ⟨rfl, t, outer, hfinds⟩⟩ := h.goes hhappen
    · obtain ⟨owned', howned', hgoes⟩ := hshuts.endpoint howned
      refine ⟨owned', howned', ?_⟩
      rcases state_of_shutOnlyIf (hgoes.imp fun hne => hne rfl) with hsame | hclosing
      · exact .inl hsame
      · exact .inr (.inl hclosing)
    · obtain ⟨owned', hfound, hdrained, hlocal, -⟩ := h.finds hfinds hhappen
      obtain rfl := Option.some.inj (hfound.symm.trans howned)
      obtain ⟨hrequested, htasks⟩ := (LocalEndpoint.isDrained_iff _).1 hdrained
      have hclosed := World.state_finish owned'
      refine ⟨_, hlocal, ?_⟩
      cases hstate : owned'.state with
      | opened => exact absurd hstate (isCloseRequested_iff.1 hrequested)
      | closing => exact .inr (.inr ⟨rfl, hclosed, htasks, rfl, t, outer, hfinds⟩)
      | closed => exact .inl hclosed
  returns hfinds hnext := by
    obtain ⟨owned', -, hdrained, hlocal, hpolled⟩ := h.finds hfinds hnext
    exact ⟨⟨_, hlocal, World.state_finish _⟩, hpolled⟩
  accepts hopen script := World.spawnOwned_of_open howned hopen script
  refuses hrequested script := World.spawnOwned_of_requested howned hrequested script
  close := by
    refine ⟨rfl, rfl, ⟨owned.close.2, by rw [World.local?_closeLocal, howned]; rfl, ?_⟩,
      World.closeLocal_closeLocal _ _⟩
    have hshuts : owned.ShutOnlyIf False owned.close.2 := owned.shutOnlyIf_close
    cases hstate : owned.channel.state <;>
      simp [LocalEndpoint.state, LocalEndpoint.close, StateChannel.advance, hstate,
        EndpointState.rank]

/-! ## Waits for the closure -/

/-- Where a wait for the closure of an endpoint is that was started as a task. -/
inductive Awaiting (w : World) (endpoint : EndpointId) : Control → List Frame → Prop
  | called : Awaiting w endpoint (.call (.awaitLocal endpoint)) []
  | request {control : Control}
      (h : control = .wait (.closeRequested endpoint) ∨ ∃ reply, control = .reply reply) :
      Awaiting w endpoint control [.localRequest endpoint]
  | tasks {control : Control}
      (h : control = .wait (.tasksGone endpoint) ∨ ∃ reply, control = .reply reply) :
      Awaiting w endpoint control [.localTasks endpoint]
  | done (h : w.Over endpoint) : Awaiting w endpoint (.reply (.ok (.state .closed))) []

/-- A task waits for the closure of an endpoint, was stopped, or has returned that the endpoint is
closed, which it then is. -/
def Awaits (m : Moment) (endpoint : EndpointId) (task : TaskId) : Prop :=
  (∃ t, m.world.task? task = some t ∧ t.handle = none ∧
      Awaiting m.world endpoint t.control t.frames) ∨
    m.world.finish? task = some .aborted ∨
    m.world.finish? task = some (.value (.ok (.state .closed))) ∧ m.world.Over endpoint

theorem Awaiting.lasts {w u : World} {control : Control} {frames : List Frame}
    (h : Awaiting w endpoint control frames) (hlasts : World.Lasts w u) :
    Awaiting u endpoint control frames := by
  cases h with
  | called => exact .called
  | request h => exact .request h
  | tasks h => exact .tasks h
  | done h => exact .done (h.lasts hlasts)

/-- Nothing cuts such a wait short. -/
theorem Awaiting.cut? {w : World} {control : Control} {frames : List Frame}
    (h : Awaiting w endpoint control frames) : w.cut? frames = none ∧ w.overdue? frames = none := by
  cases h <;> exact ⟨rfl, rfl⟩

theorem finish?_finishTask {w : World} {task : TaskId} (ht : w.task? task = some t)
    (hhandle : t.handle = none) (finish : Finish) :
    (w.finishTask task finish).finish? task = some finish := by
  simp only [World.finishTask, ht, hhandle, World.dropHeld]
  simp [World.finish?, World.signal, World.noteFinish]

/-- A step of such a wait. -/
theorem Awaiting.step {w u : World} {task : TaskId} (h : Awaiting w endpoint t.control t.frames)
    (ht : w.task? task = some t) (hhandle : t.handle = none) (hstep : w.step? task = some u)
    (hlasts : World.Lasts w u)
    (hfinds : ∀ reply, t.control = .reply reply → t.frames = [.localTasks endpoint] →
      ∃ t', u.task? task = some t' ∧ t'.handle = t.handle ∧
        t'.control = .reply (.ok (.state .closed)) ∧ t'.frames = [] ∧ u.Over endpoint) :
    (∃ t', u.task? task = some t' ∧ t'.handle = none ∧ Awaiting u endpoint t'.control t'.frames) ∨
      u.finish? task = some (.value (.ok (.state .closed))) ∧ u.Over endpoint := by
  obtain ⟨id, control, frames, handle, owner⟩ := t
  obtain rfl : handle = none := hhandle
  -- nothing is lost by the move, so what is over stays over
  have hgoto : ∀ control' frames', Awaiting w endpoint control' frames' →
      u = w.goto task control' frames' → ∃ t', u.task? task = some t' ∧ t'.handle = none ∧
        Awaiting u endpoint t'.control t'.frames := by
    rintro control' frames' hawaiting rfl
    refine ⟨_, by rw [World.task?_goto, ht, Option.map_some], rfl, hawaiting.lasts hlasts⟩
  rw [World.step?, ht] at hstep
  dsimp only at h hfinds hstep
  cases h with
  | called =>
      cases hstep
      exact .inl (hgoto _ _ (.request (.inl rfl)) rfl)
  | request h =>
      rcases h with rfl | ⟨reply, rfl⟩
      · obtain ⟨control', hready, rfl⟩ := Option.map_eq_some_iff.1 hstep
        simp only [World.ready?] at hready
        split at hready
        · cases hready
          exact .inl (hgoto _ _ (.request (.inr ⟨_, rfl⟩)) rfl)
        · cases hready
      · cases hstep
        exact .inl (hgoto _ _ (.tasks (.inl rfl)) rfl)
  | tasks h =>
      rcases h with rfl | ⟨reply, rfl⟩
      · obtain ⟨control', hready, rfl⟩ := Option.map_eq_some_iff.1 hstep
        simp only [World.ready?] at hready
        split at hready
        · cases hready
          exact .inl (hgoto _ _ (.tasks (.inr ⟨_, rfl⟩)) rfl)
        · cases hready
      · obtain ⟨t', ht', hhandle', hcontrol, hframes, hover⟩ := hfinds reply rfl rfl
        refine .inl ⟨t', ht', hhandle', ?_⟩
        rw [hcontrol, hframes]
        exact .done hover
  | done hover =>
      cases hstep
      exact .inr ⟨finish?_finishTask ht rfl _, hover.lasts hlasts⟩

/-- A wait for the closure of the endpoint goes on, is stopped, or returns that the endpoint is
closed. -/
theorem Steady.awaits {task : TaskId} (h : m.Steady endpoint) (hawaits : m.Awaits endpoint task)
    (hhappen : m.happen endpoint happening = some after) : after.Awaits endpoint task := by
  obtain ⟨-, -, hlasts, -⟩ := h.goes hhappen
  have hgrows : m.world.Grows after.world := by
    rcases happen_cases h.fits hhappen with ⟨move, -, -, hnext⟩ | ⟨-, hintrudes⟩
    · exact (h.fits.next hnext).grows
    · exact hintrudes.toAlike.grows
  rcases hawaits with ⟨t, ht, hhandle, hawaiting⟩ | haborted | ⟨hfinish, hover⟩
  · rcases happen_cases h.fits hhappen with ⟨move, rfl, -, hnext⟩ | ⟨-, hintrudes⟩
    · by_cases hactor : m.actor? move = some task
      · cases move with
        | abort other =>
            cases hactor
            have hdrop : m.world.dropTask t = m.world := by
              obtain ⟨id, control, frames, handle, owner⟩ := t
              cases hawaiting with
              | called | done => rfl
              | request h | tasks h => rcases h with rfl | ⟨reply, rfl⟩ <;> rfl
            refine .inr (.inl ?_)
            rw [next_abort hnext]
            simp only [World.abortTask, ht, hdrop]
            exact finish?_finishTask ht hhandle .aborted
        | poll other =>
            cases hactor
            obtain ⟨-, rfl⟩ := next_poll hnext
            rw [World.cutTask_eq_self ht hawaiting.cut?.1] at hlasts ⊢
            exact .inl ⟨t, ht, hhandle, hawaiting⟩
        | step =>
            obtain ⟨-, rfl⟩ := World.task?_mem ht
            have hpolled := polled?_of_actor? hactor ht
            obtain ⟨u, hstep, rfl⟩ := step_of_actor? hnext hactor
            rcases hawaiting.step ht hhandle hstep hlasts fun reply hcontrol hframes => by
                obtain ⟨owned, -, hdrained, hlocal, hpolled'⟩ :=
                  h.finds ⟨hpolled, ⟨reply, hcontrol⟩, hframes⟩ hnext
                exact ⟨_, polled?_task? hpolled', rfl, rfl, rfl, _, hlocal, World.state_finish _,
                  ((LocalEndpoint.isDrained_iff owned).1 hdrained).2⟩ with
              hgoes | hdone
            · exact .inl hgoes
            · exact .inr (.inr hdone)
        | expire =>
            obtain ⟨-, -, rfl⟩ := expire_of_actor? hnext hactor
            rw [World.expireDrain_eq_self ht hawaiting.cut?.2] at hlasts ⊢
            exact .inl ⟨t, ht, hhandle, hawaiting⟩
        | _ => cases hactor
      · exact .inl ⟨t, next_task? hnext ht hactor, hhandle, hawaiting.lasts hlasts⟩
    · obtain ⟨new, htasks, -⟩ := hintrudes.passes.tasks
      refine .inl ⟨t, ?_, hhandle, hawaiting.lasts hlasts⟩
      rw [World.task?, htasks, List.find?_append, show m.world.tasks.find? _ = some t from ht]
      rfl
  · exact .inr (.inl (hgrows.finished haborted))
  · exact .inr (.inr ⟨hgrows.finished hfinish, hover.lasts hlasts⟩)

/-- A wait for the closure begins. -/
theorem awaits_await (hhappen : m.happen endpoint .await = some after) (hfit : m.CallsFit) :
    after.Awaits endpoint m.world.nextTask := by
  cases hhappen
  obtain ⟨active, hfit⟩ := hfit.exists_callsFit
  unfold Awaits World.spawn
  dsimp only
  split
  · refine .inl ⟨⟨m.world.nextTask, .call (.awaitLocal endpoint), [], none, none⟩, ?_, rfl, .called⟩
    show (m.world.tasks ++ [_]).find? _ = _
    rw [List.find?_append, List.find?_eq_none.2 fun t ht => ?_]
    · simp
    · simpa using Nat.ne_of_lt (hfit.fresh ht)
  · refine .inr (.inl ?_)
    simp [World.finish?, World.noteFinish]

/-- A wait for the closure of the endpoint goes on, was stopped, or has returned that the endpoint
is closed. -/
theorem Steady.awaited {rest : List Happening} (h : m.Steady endpoint)
    (hrun : m.course endpoint (.await :: rest) = some last) :
    last.Awaits endpoint m.world.nextTask := by
  simp only [Moment.course] at hrun
  obtain ⟨second, hhappen, hrest⟩ := Option.bind_eq_some_iff.1 hrun
  have hboth := course_induction
    (P := fun last => last.Steady endpoint ∧ last.Awaits endpoint m.world.nextTask)
    (fun ⟨hsteady, hawaits⟩ hhappen => ⟨hsteady.happen hhappen, hsteady.awaits hawaits hhappen⟩)
    ⟨h.happen hhappen, awaits_await hhappen h.fits⟩ hrest
  exact hboth.2

/-! ## The result -/

/-- At every moment of a run in which anybody may call an endpoint at any time, the endpoint keeps
what it promises. A task that it had taken over at an earlier moment has ended or is on its list,
and a wait for its closure that was begun earlier and has ended was stopped or has returned that the
endpoint is closed, which it then is, without tasks. -/
theorem endpoint_phases {names : List String} {before later : List Happening} {first : Moment}
    (hbefore : (standing names).course endpoint before = some first)
    (hlater : first.course endpoint later = some last)
    (howned : last.world.local? endpoint = some owned) :
    last.TwoPhase endpoint owned ∧
      (∀ earlier, first.world.local? endpoint = some earlier → ∀ task ∈ earlier.tasks,
        task ∈ owned.tasks ∨ last.world.HasEnded task) ∧
      ∀ rest, later = .await :: rest → ∀ finish,
        last.world.finish? first.world.nextTask = some finish → finish = .aborted ∨
          finish = .value (.ok (.state .closed)) ∧ owned.state = .closed ∧ owned.tasks = [] := by
  have hfirst := ((standing_steady names endpoint).course hbefore).1
  obtain ⟨hlast, hlasts⟩ := hfirst.course hlater
  refine ⟨hlast.twoPhase howned, fun earlier hearlier task htask => ?_, ?_⟩
  · obtain ⟨owned', howned', hkeeps⟩ := hlasts.endpoint hearlier
    cases howned'.symm.trans howned
    exact hkeeps.tasks htask
  · rintro rest rfl finish hfinish
    rcases hfirst.awaited hlater with ⟨t, ht, -, -⟩ | haborted | ⟨hvalue, hover⟩
    · obtain ⟨active, hfit⟩ := hlast.fits.exists_callsFit
      obtain ⟨hmem, hid⟩ := World.task?_mem ht
      have hnone := hfit.unfinished hmem
      rw [hid, hfinish] at hnone
      cases hnone
    · exact .inl (Option.some.inj (hfinish.symm.trans haborted))
    · obtain ⟨owned', howned', hclosed, htasks⟩ := hover
      cases howned'.symm.trans howned
      exact .inr ⟨Option.some.inj (hfinish.symm.trans hvalue), hclosed, htasks⟩

/-- An endpoint that owns a task which goes on until it is told to finish. -/
def owningStart : Moment :=
  ((standing ["endpoint"]).course 0 [.spawn [.shutdown]]).get (by decide +kernel)

/-- A wait for its closure begins, it is asked to close, its task ends, and the wait returns. -/
def owningShutdown : List Happening :=
  [.await, .close, .move (.poll 0)] ++ List.replicate 5 (.move .step) ++
    [.move .expire, .move .rest, .move (.poll 1)] ++ List.replicate 6 (.move .step)

def owningEnd : Moment := (owningStart.course 0 owningShutdown).get (by decide +kernel)

theorem endpoint_phases_of_owned_task :
    (standing ["endpoint"]).course 0 [.spawn [.shutdown]] = some owningStart ∧
      owningStart.course 0 owningShutdown = some owningEnd ∧
      ∃ owned, owningEnd.world.local? 0 = some owned ∧ owningEnd.TwoPhase 0 owned ∧
        owningEnd.world.finish? 1 = some (.value (.ok (.state .closed))) ∧
        owned.state = .closed ∧ owned.tasks = [] := by
  have hbefore : (standing ["endpoint"]).course 0 [.spawn [.shutdown]] = some owningStart :=
    (Option.some_get _).symm
  have hlater : owningStart.course 0 owningShutdown = some owningEnd := (Option.some_get _).symm
  have hfinish : owningEnd.world.finish? 1 = some (.value (.ok (.state .closed))) := rfl
  obtain ⟨owned, howned⟩ : ∃ owned, owningEnd.world.local? 0 = some owned :=
    Option.isSome_iff_exists.1 (by decide +kernel)
  obtain ⟨hphases, -, hawaited⟩ := endpoint_phases hbefore hlater howned
  refine ⟨hbefore, hlater, owned, howned, hphases, hfinish, ?_⟩
  exact ((hawaited _ rfl _ hfinish).resolve_left nofun).2

end Moment

end Remoting
