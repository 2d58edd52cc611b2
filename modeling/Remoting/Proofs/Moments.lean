import Remoting.Proofs.Outside

/-!
# Moments of runs

Every move of a run keeps the invariant, so it holds at every reachable moment. A run only goes
forward: entries are added to the journal of calls, and a task that has ended stays as it has ended.
So for what is true at the end of a run there is a moment of the run at which it came about: for an
entry the moment at which a task made it, for the end of a teardown the moment at which its task
replied.
-/

namespace Remoting.Moment

variable {m after last : Moment} {move : Move} {moves : List Move} {t : Task} {client : ClientId}
  {call : Contact} {reply : Reply}

/-- The task that is being polled, unless it has ended. -/
def polled? (m : Moment) : Option Task :=
  m.polling.bind fun polling => m.world.task? polling.task

/-- The invariant of moments. -/
def CallsFit (m : Moment) : Prop :=
  match m.polling with
  | none => m.world.CallsFit none
  | some polling => m.world.Acting polling.task

/-- The polled task is about to end with a reply. -/
def Ends (m : Moment) (t : Task) (reply : Reply) : Prop :=
  m.polled? = some t ∧ t.control = .reply reply ∧ t.frames = []

/-- The polled task is about to make an entry. -/
def Makes (m : Moment) (client : ClientId) (call : Contact) : Prop :=
  call = .release ∨ ∃ t, m.polled? = some t ∧ m.world.Makes t client call

/-- What a move leads to. If it ends a teardown with a value, the polled task has replied. -/
structure Follows (m after : Moment) : Prop where
  fits : after.CallsFit
  adds : World.Adds m.Makes m.world after.world
  goes : m.world.Continues after.world ∨ ∃ t reply, m.Ends t reply ∧
    World.Finishes t.id (.value (reply.map m.world.present)) m.world after.world

/-! ## Moves -/

/-- Between polls the calls of the world fit, with no task that acts. -/
theorem CallsFit.idle (h : m.CallsFit) (idle : m.polling = none) : m.world.CallsFit none := by
  simpa only [CallsFit, idle] using h

/-- In a poll its task acts. -/
theorem CallsFit.acting (h : m.CallsFit) {polling : Polling} (polls : m.polling = some polling) :
    m.world.Acting polling.task := by
  simpa only [CallsFit, polls] using h

/-- A task is polled in a poll of its own. -/
theorem exists_polling (ht : m.polled? = some t) :
    ∃ expired, m.polling = some ⟨t.id, expired⟩ ∧ m.world.task? t.id = some t := by
  obtain ⟨⟨task, expired⟩, polls, hfind⟩ := Option.bind_eq_some_iff.1 ht
  obtain ⟨-, rfl⟩ := World.task?_mem hfind
  exact ⟨expired, polls, hfind⟩

theorem polled?_task? (ht : m.polled? = some t) : m.world.task? t.id = some t := by
  obtain ⟨-, -, hfind⟩ := exists_polling ht
  exact hfind

/-- A step of the polled task is a move. -/
theorem next_of_polled (ht : m.polled? = some t) {u : World} (hstep : m.world.step? t.id = some u) :
    m.next .step = some ⟨u, m.polling⟩ := by
  obtain ⟨expired, polls, -⟩ := exists_polling ht
  simp only [next, polls, hstep, Option.map_some]

/-- A move that is a step is one of the polled task, and the poll goes on. -/
theorem step_of_polled (ht : m.polled? = some t) (hnext : m.next .step = some after) :
    ∃ u, m.world.step? t.id = some u ∧ after = ⟨u, m.polling⟩ := by
  obtain ⟨expired, polls, -⟩ := exists_polling ht
  obtain ⟨polling, u, polls', hstep, rfl⟩ := next_step hnext
  cases polls.symm.trans polls'
  exact ⟨u, hstep, by rw [polls]⟩

/-- The task that makes a step is polled on. -/
theorem polled?_step {t' : Task} (ht : m.polled? = some t) (hnext : m.next .step = some after)
    (hfound : after.world.task? t.id = some t') : after.polled? = some t' := by
  obtain ⟨expired, polls, -⟩ := exists_polling ht
  obtain ⟨u, -, rfl⟩ := step_of_polled ht hnext
  rw [polled?, polls]
  exact hfound

/-- A poll neither looks at time limits nor ends while its task can make a step. -/
theorem next_eq_step_of_step? (hnext : m.next move = some after) (ht : m.polled? = some t)
    (hsteps : m.world.step? t.id ≠ none) : move = .step := by
  obtain ⟨expired, polls, -⟩ := exists_polling ht
  cases next_transition hnext with
  | step => rfl
  | expire polls' waits | rest polls' waits =>
      cases polls.symm.trans polls'
      exact absurd waits hsteps
  | _ =>
      rename_i idle
      cases idle.symm.trans polls

/-- A polled task that does not wait makes a step. -/
theorem next_eq_step (hnext : m.next move = some after) (ht : m.polled? = some t)
    (hcontrol : ∀ wait, t.control ≠ .wait wait) : move = .step := by
  refine next_eq_step_of_step? hnext ht fun hnone => ?_
  obtain ⟨wait, hwait, -⟩ := World.wait_of_step?_eq_none hnone (polled?_task? ht)
  exact hcontrol wait hwait

/-- A change from outside. -/
theorem Follows.outside {u : World} (h : m.world.Persists u) : m.Follows ⟨u, none⟩ :=
  ⟨h.fits, h.released.mono fun _ _ => .inl, .inl h.toContinues⟩

/-- A part of a poll that is no step. -/
theorem Follows.during {u : World} {task : TaskId} {expired : Bool}
    (hadvances : World.Advances task m.world u) (hadds : World.Adds m.Makes m.world u) :
    m.Follows ⟨u, some ⟨task, expired⟩⟩ :=
  ⟨hadvances.acting, hadds, .inl hadvances.toContinues⟩

/-- Every move keeps the invariant. -/
theorem CallsFit.next (h : m.CallsFit) (hnext : m.next move = some after) : m.Follows after := by
  cases next_transition hnext with
  | build spec trace idle => exact .outside ((h.idle idle).addClient spec trace)
  | act isPublic idle => exact .outside ((h.idle idle).act isPublic)
  | abort task idle => exact .outside ((h.idle idle).abortTask task)
  | pass ms idle =>
      refine .outside (World.Quiet.persists ?_ (h.idle idle))
      exact .of_parts (.of_eq rfl rfl rfl) rfl rfl rfl rfl rfl rfl rfl
  | halt idle =>
      refine .outside (World.Quiet.persists ?_ (h.idle idle))
      exact .of_parts (.of_eq rfl rfl rfl) rfl rfl rfl rfl rfl rfl rfl
  | help idle => exact .outside (h.idle idle).help
  | poll task idle =>
      exact .during ((h.idle idle).cutTask task)
        (World.adds_cutTask (fun _ => .inl rfl) m.world task)
  | @step polling u polls steps =>
      have hacting := h.acting polls
      have hpolled : m.polled? = m.world.task? polling.task := by rw [polled?, polls]; rfl
      have hadds : World.Adds m.Makes m.world u := by
        cases ht : m.world.task? polling.task with
        | none =>
            rw [World.step?, ht] at steps
            cases steps
        | some t =>
            exact (World.adds_step ht steps).mono fun _ _ hmakes =>
              .inr ⟨t, hpolled.trans ht, hmakes⟩
      rcases hacting.step steps with hgoes | ⟨t, reply, ht, hreply, hframes, hfinish⟩
      · exact ⟨hgoes.acting, hadds, .inl hgoes.toContinues⟩
      · obtain ⟨-, hid⟩ := World.task?_mem ht
        exact ⟨hfinish.acting, hadds,
          .inr ⟨t, reply, ⟨hpolled.trans ht, hreply, hframes⟩, by rw [hid]; exact hfinish⟩⟩
  | @expire task polls waits =>
      exact .during ((h.acting polls).expireDrain waits)
        (World.adds_expireDrain (fun _ => .inl rfl) m.world task)
  | rest polls waits =>
      exact ⟨(h.acting polls).rest waits, .of_eq rfl, .inl (World.Quiet.refl m.world).continues⟩

/-! ## Reachable moments -/

theorem start_callsFit : start.CallsFit where
  nodup := .nil
  fresh := nofun
  unfinished := nofun
  past := nofun
  handed := nofun
  unheld := nofun
  resting := nofun
  clients _ := rfl

/-- The invariant holds at every reachable moment. -/
theorem Reachable.fits (h : m.Reachable) : m.CallsFit :=
  h.induction start_callsFit fun h hnext => (h.next hnext).fits

theorem CallsFit.exists_callsFit (h : m.CallsFit) : ∃ active, m.world.CallsFit active := by
  obtain ⟨world, polling⟩ := m
  cases polling with
  | none => exact ⟨none, h⟩
  | some polling => exact ⟨some polling.task, World.Acting.fits h⟩

/-- The polled task is about to do what its calls allow. -/
theorem CallsFit.polled (h : m.CallsFit) (ht : m.polled? = some t) :
    m.world.At t.id t.control t.frames := by
  obtain ⟨expired, polls, hfind⟩ := exists_polling ht
  exact (h.acting polls).at hfind

/-- What is known of every task, whether it is polled or not. -/
theorem CallsFit.taskOk (h : m.CallsFit) (ht : t ∈ m.world.tasks) :
    m.world.TaskOk t.id t.control t.frames := by
  obtain ⟨world, polling⟩ := m
  cases polling with
  | none => exact (World.Orderly.resting (World.CallsFit.toOrderly h) ht nofun).2
  | some polling =>
      have hacting : world.Acting polling.task := h
      by_cases hid : some polling.task = some t.id
      · have hfind := hacting.fits.task?_eq ht
        rw [← Option.some.inj hid] at hfind ⊢
        exact (hacting.active hfind).toTaskOk
      · exact (hacting.fits.resting ht hid).2

/-- At every reachable moment a client is as its calls have made it. -/
theorem Reachable.clientOk (h : m.Reachable) (client : ClientId) : m.world.ClientOk client := by
  obtain ⟨active, hfit⟩ := h.fits.exists_callsFit
  exact hfit.clients client

/-! ## Runs -/

theorem Follows.grows (h : m.Follows after) : m.world.Grows after.world := by
  rcases h.goes with hgoes | ⟨t, reply, -, hfinishes⟩
  · exact hgoes.toGrows
  · exact hfinishes.toGrows

/-- A run only goes forward. -/
theorem Reachable.grows (h : m.Reachable) (hrun : m.run moves = some last) :
    m.world.Grows last.world := by
  have hboth : last.CallsFit ∧ m.world.Grows last.world := by
    refine run_induction (P := fun last => last.CallsFit ∧ m.world.Grows last.world) ?_
      ⟨h.fits, .refl _⟩ hrun
    rintro middle after move ⟨hfit, hgrows⟩ hnext
    have hfollows := hfit.next hnext
    exact ⟨hfollows.fits, hgrows.trans hfollows.grows⟩
  exact hboth.2

/-- A run from the empty world passes through a moment. -/
def Visits (moves : List Move) (m : Moment) : Prop :=
  ∃ before later, moves = before ++ later ∧ start.run before = some m

theorem Visits.reachable (h : Visits moves m) : m.Reachable := by
  obtain ⟨before, -, -, hrun⟩ := h
  exact ⟨before, hrun⟩

/-- What a moment of a run has is kept up to the end of the run. -/
theorem Visits.grows (h : Visits moves m) (hrun : start.run moves = some last) :
    m.world.Grows last.world := by
  obtain ⟨before, later, rfl, hbefore⟩ := h
  rw [run_append, hbefore] at hrun
  exact Reachable.grows ⟨before, hbefore⟩ hrun

/-- For what comes about in a run there is a move with which it does. -/
theorem exists_move {P : Moment → Prop} (hrun : start.run moves = some last) (hnot : ¬ P start)
    (hlast : P last) : ∃ m after, Visits moves m ∧ m.Follows after ∧
      after.world.Grows last.world ∧ ¬ P m ∧ P after := by
  obtain ⟨before, move, later, m, after, rfl, hm, hnext, hlater, hnot', hafter⟩ :=
    exists_change hrun hnot hlast
  have hreach : m.Reachable := ⟨before, hm⟩
  exact ⟨m, after, ⟨before, move :: later, rfl, hm⟩, hreach.fits.next hnext,
    (hreach.next hnext).grows hlater, hnot', hafter⟩

/-- For every entry there is a moment at which it was made. -/
theorem exists_makes (hrun : start.run moves = some last)
    (hcall : call ∈ last.world.history client) : ∃ m, Visits moves m ∧ m.Makes client call := by
  obtain ⟨m, after, hvisits, hfollows, -, hnot, hafter⟩ :=
    exists_move (P := fun m => (client, call) ∈ m.world.contacts) hrun List.not_mem_nil
      (World.mem_history.1 hcall)
  rcases hfollows.adds.entry hafter with hbefore | hmakes
  · exact absurd hbefore hnot
  · exact ⟨m, hvisits, hmakes⟩

/-! ## The end of a teardown -/

/-- The task of a teardown replies with the verdict of that moment. -/
theorem CallsFit.reply_eq {td : Teardown} (h : m.CallsFit) (hends : m.Ends t reply)
    (hhanded : .teardown t.id td ∈ m.world.history client) :
    reply = World.closeReply (m.world.verdict td) := by
  obtain ⟨ht, hcontrol, hframes⟩ := hends
  have hat := h.polled ht
  rw [hcontrol, hframes] at hat
  obtain ⟨job, hrooted, hdelivers⟩ := hat.typed
  obtain rfl := hrooted.2 _ _ (World.mem_history.1 hhanded)
  exact hdelivers.1

/-- For every teardown that has ended with a value there is a moment at which its task replied. -/
theorem exists_ends {task : TaskId} {td : Teardown} (hrun : start.run moves = some last)
    (hhanded : .teardown task td ∈ last.world.history client)
    (hfinish : last.world.finish? task = some (.value reply)) :
    ∃ m t, Visits moves m ∧ .teardown task td ∈ m.world.history client ∧ t.id = task ∧
      m.Ends t reply := by
  obtain ⟨m, after, hvisits, hfollows, hgrows, hnot, hfinish'⟩ :=
    exists_move (P := fun m => m.world.finish? task = some (.value reply)) hrun
      (show (none : Option Finish) ≠ _ from nofun) hfinish
  obtain ⟨active, hfit⟩ := hfollows.fits.exists_callsFit
  -- a task is handed its teardown before it ends
  have hafter : (client, .teardown task td) ∈ after.world.contacts := by
    rcases hgrows.handed (World.mem_history.1 hhanded) with hafter | ⟨hle, -⟩
    · exact hafter
    · exact absurd (hfit.past hfinish') (Nat.not_lt.2 hle)
  rcases hfollows.goes with hgoes | ⟨t, reply', hends, hfinishes⟩
  · rcases hgoes.ended hafter hfinish' with haborted | ⟨-, hbefore⟩
    · cases haborted
    · exact absurd hbefore hnot
  · rw [hfinishes.contacts_eq] at hafter
    have hhanded' : .teardown task td ∈ m.world.history client := World.mem_history.2 hafter
    rcases hfinishes.ended hafter hfinish' with hbefore | ⟨rfl, heq⟩
    · exact absurd hbefore hnot
    · have hreply := hvisits.reachable.fits.reply_eq hends hhanded'
      have hsame : reply = reply' := by
        rw [Finish.value.injEq] at heq
        rw [heq, hreply]
        cases m.world.verdict td <;> rfl
      exact ⟨m, t, hvisits, hhanded', rfl, hsame ▸ hends⟩

end Remoting.Moment
