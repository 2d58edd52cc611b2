import Remoting.Proofs.Arriving

/-!
# What a move does to a handler

`Moment.deeds` lists what a handler does to its record in a move of a run: what its tasks make it do
when they make a step, leave a call or are stopped, and what it is told from outside. The main
statement is `next_turns`: a move is one of five kinds of changes, and in each of them the record
changes by these deeds and the tickets of the task that goes on change hands with them. It follows
that record and tasks always agree on the tickets, `Tracks`.
-/

namespace Remoting

namespace World

variable {lines : LogLine → Prop} {handler : HandlerId} {w v u : World} {task : TaskId}
  {deeds : List Deed}

/-! ## Tickets and deeds -/

theorem tells_operateDeeds (handler : HandlerId) (site : Site) (script : Script) :
    ∀ deed ∈ operateDeeds handler site script, deed.Tells := by
  unfold operateDeeds
  split
  · exact tells_deedsAt tells_stop _ _
  · exact tells_deedsAt tells_closing _ _
  · exact tells_deedsAt (tells_cancel _) _ _
  · exact Deed.tells_nil

theorem tells_stageDeeds (w : World) (handler : HandlerId) (td : Teardown)
    (stage : Teardown.Stage) : ∀ deed ∈ w.stageDeeds handler td stage, deed.Tells := by
  unfold stageDeeds
  split
  · exact tells_clientDeeds tells_stop w _ _
  · exact tells_clientDeeds tells_closing w _ _
  · exact Deed.tells_nil

/-- The tickets of a task go along with deeds. -/
structure Along (w : World) (handler : HandlerId) (before : List OperationId) (deeds : List Deed)
    (later : List OperationId) : Prop where
  absent : w.tracker? handler = none → later.Subset before
  present : ∀ {tracker}, w.tracker? handler = some tracker → ∃ tracker',
    Spends tracker before deeds tracker' later

theorem Along.tells (w : World) (handler : HandlerId) (ids : List OperationId)
    (h : ∀ deed ∈ deeds, deed.Tells) : Along w handler ids deeds ids :=
  ⟨fun _ => List.Subset.refl _, fun _ => Spends.tells h _ _⟩

theorem Along.nil (w : World) (handler : HandlerId) (ids : List OperationId) :
    Along w handler ids [] ids :=
  ⟨fun _ => List.Subset.refl _, fun _ => ⟨_, .nil⟩⟩

theorem Along.drops (w : World) (handler : HandlerId) (dropped ids : List OperationId) :
    Along w handler (dropped ++ ids) (dropped.map .finish) ids :=
  ⟨fun _ => List.subset_append_right _ _, fun _ => Spends.drops _ _ _⟩

/-- The end of one operation. -/
theorem Along.finish (w : World) (handler own : HandlerId) (id : OperationId)
    (ids : List OperationId) :
    Along w handler ((if own = handler then some id else none).toList ++ ids)
      (deedsAt own handler [.finish id]) ids := by
  unfold deedsAt
  split
  · exact .drops w handler [id] ids
  · exact .nil w handler ids

theorem along_execute (w : World) (handler own : HandlerId) (routine : Routine)
    (client : Option ClientId) (ids : List OperationId) :
    Along w handler ids (w.callDeeds handler (.execute own routine client))
      (w.callTickets handler (.execute own routine client) ++ ids) := by
  simp only [callDeeds, callTickets, deedsAt]
  by_cases hown : own = handler
  · subst hown
    rw [if_pos rfl, if_pos rfl]
    refine ⟨fun hnone => ?_, fun {tracker} htracker => ?_⟩
    · rw [admits?, hnone]
      exact List.Subset.refl _
    · cases haccepting : tracker.accepting with
      | true =>
          have hadmits : w.admits? own = some tracker.nextId := by
            simp [admits?, htracker, haccepting]
          rw [hadmits]
          exact ⟨_, .cons (.accept haccepting) .nil⟩
      | false =>
          have hadmits : w.admits? own = none := by
            simp [admits?, htracker, haccepting]
          rw [hadmits]
          exact ⟨_, .cons (.refuse haccepting) .nil⟩
  · rw [if_neg hown, if_neg hown]
    exact .nil w handler ids

/-- An operation that gets its channel goes on with its ticket. -/
theorem along_supplied (w : World) (handler own : HandlerId) (id : OperationId) (reply : Reply)
    (ids : List OperationId) :
    Along w handler ((if own = handler then some id else none).toList ++ ids)
      (suppliedDeeds handler own id reply) (suppliedTickets handler own id reply ++ ids) := by
  have hend := Along.finish w handler own id ids
  cases reply with
  | error e => exact hend
  | ok value =>
      cases value with
      | handle channel =>
          simp only [suppliedDeeds, suppliedTickets, deedsAt]
          by_cases hown : own = handler
          · rw [if_pos hown, if_pos hown, if_pos hown]
            exact ⟨fun _ => List.Subset.refl _, fun _ => ⟨_, .cons (.bind id channel) .nil⟩⟩
          · rw [if_neg hown, if_neg hown, if_neg hown]
            exact .nil w handler ids
      | _ => exact hend

/-- An operation that was called goes on with its ticket, or ends because it was cancelled. -/
theorem along_opened (w : World) (handler : HandlerId) (id : OperationId) (site : Site)
    (ids : List OperationId) :
    Along w handler ((if site.handler = handler then some id else none).toList ++ ids)
      (w.openedDeeds handler id site) (w.openedTickets handler id site ++ ids) := by
  unfold openedDeeds openedTickets
  cases w.cancellation? site.handler id with
  | some reason => exact .finish w handler site.handler id ids
  | none =>
      by_cases hsite : site.handler = handler
      · simp only [hsite, if_pos, Option.toList_some, Option.isSome_none, Bool.false_eq_true,
          if_false]
        exact .nil w handler _
      · simp only [hsite, if_false, Option.toList_none, Option.isSome_none, Bool.false_eq_true]
        exact .nil w handler ids

theorem held_cons (handler : HandlerId) (frame : Frame) (frames : List Frame) :
    held handler (frame :: frames) =
      (frame.ticket? handler).toList ++ held handler frames := by
  rw [held, List.filterMap_cons]
  cases frame.ticket? handler <;> rfl

/-- A call that is left gives back its ticket. -/
theorem along_leave (w : World) (handler : HandlerId) (frame : Frame) (frames : List Frame) :
    Along w handler (held handler (frame :: frames)) (dropDeeds handler [frame])
      (held handler frames) := by
  have hdrops := Along.drops w handler (held handler [frame]) (held handler frames)
  rwa [held, held, ← List.filterMap_append] at hdrops

/-- A strategy that is made is not about tickets. -/
theorem tells_resumeDeeds_creation (w : World) (handler : HandlerId) (client : ClientId)
    (endpoint : EndpointId) (plan : StrategyPlan) (reply : Reply) :
    ∀ deed ∈ w.resumeDeeds handler (.creation client endpoint plan) reply, deed.Tells := by
  cases reply with
  | error e => exact Deed.tells_nil
  | ok value =>
      simp only [resumeDeeds]
      cases plan.onCreate with
      | none => exact Deed.tells_nil
      | some call =>
          refine tells_clientDeeds ?_ w client handler
          cases call with
          | shutdown => exact tells_stop
          | shutdownNow => exact tells_closing

/-- The tickets of a task go along with a reply to its innermost call. -/
theorem along_resume (w : World) (handler : HandlerId) (frame : Frame) (reply : Reply)
    (frames : List Frame) :
    Along w handler (held handler (frame :: frames)) (w.resumeDeeds handler frame reply)
      (w.resumeTickets handler frame reply ++ held handler frames) := by
  rw [held_cons]
  cases frame with
  | creation client endpoint plan =>
      exact .tells w handler _ (tells_resumeDeeds_creation w handler client endpoint plan reply)
  | supply own id routine client => exact along_supplied w handler own id reply _
  | opening id body site => exact along_opened w handler id site _
  | operation own id => exact .finish w handler own id _
  | _ => exact .nil w handler _

/-- The tickets of a task go along with the deeds of its next step. -/
theorem along_step (w : World) (handler : HandlerId) (control : Control) (frames : List Frame) :
    Along w handler (held handler frames) (w.stepDeeds handler control frames)
      (w.stepTickets handler control frames ++
        held handler (stepFrames control frames)) := by
  cases control with
  | call call =>
      cases call with
      | execute own routine client => exact along_execute w handler own routine client _
      | operate script site => exact .tells w handler _ (tells_operateDeeds handler site script)
      | teardown td stage => exact .tells w handler _ (tells_stageDeeds w handler td stage)
      | _ => exact .nil w handler _
  | wait wait => exact .nil w handler _
  | unwind content =>
      cases frames with
      | nil => exact .nil w handler _
      | cons frame frames => exact along_leave w handler frame frames
  | lost =>
      cases frames with
      | nil => exact .nil w handler _
      | cons frame frames => exact along_leave w handler frame frames
  | reply reply =>
      cases frames with
      | nil => exact .nil w handler _
      | cons frame frames => exact along_resume w handler frame reply frames

/-- The tickets of a task that leaves a call go with it. -/
theorem along_cut (w : World) (handler : HandlerId) {inner outer frames : List Frame}
    {frame : Frame} (hframes : frames = inner ++ frame :: outer) :
    Along w handler (held handler frames) (dropDeeds handler (inner ++ [frame]))
      ([] ++ held handler outer) := by
  have hheld : held handler frames = held handler (inner ++ [frame]) ++ held handler outer := by
    rw [hframes, held, held, held, ← List.filterMap_append, List.append_assoc]
    rfl
  rw [hheld]
  exact .drops w handler _ _

/-- A task that is taken off the list leaves the others alone. -/
theorem task?_removeTask {other : TaskId} (hne : other ≠ task) :
    (w.removeTask task).task? other = w.task? other := by
  simp only [World.task?, removeTask, List.find?_filter]
  congr 1
  funext t
  by_cases h : t.id = other
  · simp [h, hne]
  · simp [h]

theorem task?_goto_of_ne {other : TaskId} (hne : other ≠ task) (w : World) (control : Control)
    (frames : List Frame) : (w.goto task control frames).task? other = w.task? other := by
  simp only [World.task?, goto, List.find?_map]
  have hcomp : ((fun t : Task => decide (t.id = other)) ∘
      fun t : Task => if t.id = task then { t with control, frames } else t) =
        fun t => decide (t.id = other) := by
    funext t
    simp only [Function.comp, goto_id]
  rw [hcomp]
  cases hfind : w.tasks.find? fun t => decide (t.id = other) with
  | none => rfl
  | some t =>
      have hid : t.id = other := by simpa using List.find?_some hfind
      rw [Option.map_some, if_neg (hid ▸ hne)]

end World

namespace Moment

variable {m after : Moment} {move : Move} {handler : HandlerId}

/-! ## Moves -/

/-- The deeds when a call is left, as one handler sees them. -/
def cutDeeds (handler : HandlerId) (cut? : Option World.Cut) : List Deed :=
  match cut? with
  | some cut => World.dropDeeds handler (cut.inner ++ [cut.frame])
  | none => []

/-- The deeds of a move, as one handler sees them. -/
def deeds (m : Moment) (handler : HandlerId) : Move → List Deed
  | .act action => m.world.actDeeds handler action
  | .abort task =>
    match m.world.task? task with
    | some t => World.dropDeeds handler t.frames
    | none => []
  | .poll task => cutDeeds handler ((m.world.task? task).bind fun t => m.world.cut? t.frames)
  | .step =>
    match m.polled? with
    | some t => m.world.stepDeeds handler t.control t.frames
    | none => []
  | .expire => cutDeeds handler (m.polled?.bind fun t => m.world.overdue? t.frames)
  | _ => []

/-- The task that goes on with a move or is stopped by it. -/
def actor? (m : Moment) : Move → Option TaskId
  | .abort task | .poll task => some task
  | .step | .expire => m.polling.map Polling.task
  | _ => none

/-- The task that makes the steps of a poll is the polled one. -/
theorem polled?_of_actor? (hactor : m.actor? .step = some task)
    (ht : m.world.task? task = some t) : m.polled? = some t := by
  obtain ⟨polling, polls, rfl⟩ := Option.map_eq_some_iff.1 hactor
  rw [polled?, polls]
  exact ht

/-- A step of a given task. -/
theorem step_of_actor? (hnext : m.next .step = some after) (hactor : m.actor? .step = some task) :
    ∃ u, m.world.step? task = some u ∧ after = ⟨u, m.polling⟩ := by
  obtain ⟨polling, u, polls, hstep, rfl⟩ := next_step hnext
  rw [actor?, polls] at hactor
  obtain rfl := Option.some.inj hactor
  exact ⟨u, hstep, by rw [polls]⟩

/-- The look at the time limits of a given task, which waits. -/
theorem expire_of_actor? (hnext : m.next .expire = some after)
    (hactor : m.actor? .expire = some task) : m.polling = some ⟨task, false⟩ ∧
      m.world.step? task = none ∧ after = ⟨m.world.expireDrain task, some ⟨task, true⟩⟩ := by
  obtain ⟨task', polls, hwaits, rfl⟩ := next_expire hnext
  rw [actor?, polls] at hactor
  obtain rfl := Option.some.inj hactor
  exact ⟨polls, hwaits, rfl⟩

/-- The polled task leaves a wait for operations whose time limit is over, or that has ended without
success. -/
def Late (m : Moment) (client : Nat) : Prop :=
  ∃ t td deadline, m.polled? = some t ∧ client = td.client + 1 ∧
    ((∃ outer, t.frames = .teardown td (.drain deadline) :: outer ∧
        (t.control = .reply (.ok (.flag false)) ∨ ∃ content, t.control = .unwind content)) ∨
      ∃ inner outer, t.frames = inner ++ .teardown td (.drain deadline) :: outer ∧
        deadline ≤ m.world.now)

/-- A move in which a step of the teardown of a client may fail: the polled task goes on with the
teardown, or a task that waits in it for completion is stopped or leaves a call. -/
inductive Fails (m : Moment) : Move → Nat → Prop
  | step {t : Task} {td : Teardown} (task : m.polled? = some t) (tears : t.Tears td) :
      Fails m .step (td.client + 1)
  | drop {move : Move} {task : TaskId} {t : Task} {td : Teardown} {deadline : Nat}
      (actor : m.actor? move = some task) (task : m.world.task? task = some t)
      (frame : .teardown td (.drain deadline) ∈ t.frames) : Fails m move (td.client + 1)

/-- The notable lines that a move may add to the log. -/
def Logs (m : Moment) (move : Move) : LogLine → Prop
  | .swallowed client .awaitCompletion _ => m.Late client
  | .swallowed client _ _ => m.Fails move client
  | .undelivered _ => m.world.Deaf
  | _ => False

/-- A move in which a step of a teardown may fail may say so, apart from the wait for completion. -/
theorem Fails.logs {client : Nat} (h : m.Fails move client) :
    World.MayFail (m.Logs move) client := by
  intro step error hstep
  cases step with
  | awaitCompletion => exact absurd rfl hstep
  | _ => exact h

/-- What a move leads to, as one handler sees it. -/
inductive Turns (m : Moment) (handler : HandlerId) (move : Move) (after : Moment) : Prop where
  /-- A client is made. -/
  | build (h : World.Builds m.world after.world) (hdeeds : m.deeds handler move = [])
      (hmove : ∃ spec trace, move = .build spec trace)
  /-- Time passes. -/
  | pass {ms : Nat} (hmove : move = .pass ms)
      (h : after.world = { m.world with now := m.world.now + ms })
  /-- No task goes on. -/
  | apart (h : World.Deals (m.Logs move) handler (m.deeds handler move) m.world after.world)
      (htells : ∀ deed ∈ m.deeds handler move, deed.Tells)
  /-- A task goes on. -/
  | run {task : TaskId} {t : Task} {ids : List OperationId} {frames : List Frame}
      (hactor : m.actor? move = some task) (ht : m.world.task? task = some t)
      (h : World.Runs (m.Logs move) handler (m.deeds handler move) ids task frames m.world
        after.world)
      (halong : World.Along m.world handler (World.held handler t.frames) (m.deeds handler move)
        (ids ++ World.held handler frames))
  /-- A task ends. -/
  | stop {task : TaskId} {t : Task} {v : World} (hactor : m.actor? move = some task)
      (ht : m.world.task? task = some t)
      (hdeeds : m.deeds handler move = World.dropDeeds handler t.frames)
      (hdrop : World.Deals (m.Logs move) handler (m.deeds handler move) m.world v)
      (hend : World.Deals (m.Logs move) handler [] (v.removeTask task) after.world)

theorem turns_abort (handler : HandlerId) (task : TaskId)
    (hafter : after.world = m.world.abortTask task) : m.Turns handler (.abort task) after := by
  cases ht : m.world.task? task with
  | none =>
      simp only [World.abortTask, ht] at hafter
      have hdeeds : m.deeds handler (.abort task) = [] := by simp only [Moment.deeds, ht]
      refine .apart ?_ (hdeeds ▸ Deed.tells_nil)
      rw [hdeeds, hafter]
      exact .refl _
  | some t =>
      simp only [World.abortTask, ht] at hafter
      have hdeeds : m.deeds handler (.abort task) = World.dropDeeds handler t.frames := by
        simp only [Moment.deeds, ht]
      have hdrop : World.Deals (m.Logs (.abort task)) handler _ _ _ :=
        World.deals_dropTask m.world t fun td deadline hframe => (Fails.drop rfl ht hframe).logs
      refine .stop rfl ht hdeeds (hdeeds ▸ hdrop) ?_
      rw [hafter]
      exact World.deals_finishTask (hdrop.task? ht) .aborted

theorem turns_poll (m : Moment) (handler : HandlerId) (task : TaskId) :
    m.Turns handler (.poll task) ⟨m.world.cutTask task, some ⟨task, false⟩⟩ := by
  cases ht : m.world.task? task with
  | none =>
      have hdeeds : m.deeds handler (.poll task) = [] := by simp only [Moment.deeds, ht]; rfl
      refine .apart ?_ (hdeeds ▸ Deed.tells_nil)
      simp only [World.cutTask, ht, hdeeds]
      exact .refl _
  | some t =>
      cases hcut : m.world.cut? t.frames with
      | none =>
          have hdeeds : m.deeds handler (.poll task) = [] := by
            simp only [Moment.deeds, ht, Option.bind_some, hcut]
            rfl
          refine .apart ?_ (hdeeds ▸ Deed.tells_nil)
          rw [World.cutTask_eq_self ht hcut, hdeeds]
          exact .refl _
      | some cut =>
          have hdeeds : m.deeds handler (.poll task) =
              World.dropDeeds handler (cut.inner ++ [cut.frame]) := by
            simp only [Moment.deeds, ht, Option.bind_some, hcut]
            rfl
          obtain ⟨hframes, -⟩ := World.cut?_eq_some hcut
          refine .run rfl ht ?_ (hdeeds ▸ World.along_cut m.world handler hframes)
          rw [World.cutTask_eq_leaveCall ht hcut, hdeeds]
          refine World.runs_leaveCall m.world task t.control cut fun td deadline hframe => ?_
          exact (Fails.drop rfl ht (hframes ▸ List.mem_append_left _ hframe)).logs

theorem turns_expire {task : TaskId} (hpolling : m.polling = some ⟨task, false⟩)
    (handler : HandlerId) :
    m.Turns handler .expire ⟨m.world.expireDrain task, some ⟨task, true⟩⟩ := by
  have hpolled : m.polled? = m.world.task? task := by rw [polled?, hpolling]; rfl
  cases ht : m.world.task? task with
  | none =>
      have hdeeds : m.deeds handler .expire = [] := by
        simp only [Moment.deeds, hpolled, ht]
        rfl
      refine .apart ?_ (hdeeds ▸ Deed.tells_nil)
      simp only [World.expireDrain, ht, hdeeds]
      exact .refl _
  | some t =>
      cases hcut : m.world.overdue? t.frames with
      | none =>
          have hdeeds : m.deeds handler .expire = [] := by
            simp only [Moment.deeds, hpolled, ht, Option.bind_some, hcut]
            rfl
          refine .apart ?_ (hdeeds ▸ Deed.tells_nil)
          rw [World.expireDrain_eq_self ht hcut, hdeeds]
          exact .refl _
      | some cut =>
          have hdeeds : m.deeds handler .expire =
              World.dropDeeds handler (cut.inner ++ [cut.frame]) := by
            simp only [Moment.deeds, hpolled, ht, Option.bind_some, hcut]
            rfl
          obtain ⟨hframes, td, deadline, hle, hframe, -⟩ := World.overdue?_eq_some hcut
          have hactor : m.actor? .expire = some task := by rw [actor?, hpolling]; rfl
          refine .run hactor ht ?_ (hdeeds ▸ World.along_cut m.world handler hframes)
          rw [hdeeds]
          refine World.runs_expire ht hcut (fun td deadline hframe => ?_)
            fun td' pause hframe' => ?_
          · exact (Fails.drop hactor ht (hframes ▸ List.mem_append_left _ hframe)).logs
          cases hframe.symm.trans hframe'
          exact ⟨t, td, deadline, hpolled.trans ht, rfl,
            .inr ⟨cut.inner, cut.outer, hframe ▸ hframes, hle⟩⟩

theorem turns_step {polling : Polling} {u : World} (hpolling : m.polling = some polling)
    (hstep : m.world.step? polling.task = some u) (handler : HandlerId) :
    m.Turns handler .step ⟨u, some polling⟩ := by
  cases ht : m.world.task? polling.task with
  | none =>
      rw [World.step?, ht] at hstep
      cases hstep
  | some t =>
      have hpolled : m.polled? = some t := by
        rw [polled?, hpolling]
        exact ht
      have hactor : m.actor? .step = some polling.task := by rw [actor?, hpolling]; rfl
      have hdeeds : m.deeds handler .step = m.world.stepDeeds handler t.control t.frames := by
        simp only [Moment.deeds, hpolled]
      have hlate : ∀ td deadline, t.frames.head? = some (.teardown td (.drain deadline)) →
          (t.control = .reply (.ok (.flag false)) ∨ ∃ content, t.control = .unwind content) →
            m.Late (td.client + 1) := by
        intro td deadline hframe hcontrol
        obtain ⟨outer, hframes⟩ := List.head?_eq_some_iff.1 hframe
        exact ⟨t, td, deadline, hpolled, rfl, .inl ⟨outer, hframes, hcontrol⟩⟩
      rcases World.runs_step (m.Logs .step) handler ht hstep (fun hdeaf => hdeaf)
          (fun td htears => (Fails.step hpolled htears).logs)
          fun td deadline hframe hcontrol => hlate td deadline hframe hcontrol with
        ⟨hframes, hnone, hdeals⟩ | hruns
      · rw [hnone] at hdeeds
        refine .stop hactor ht ?_ (hdeeds ▸ World.Deals.refl _) hdeals
        rw [hdeeds, hframes]
        rfl
      · exact .run hactor ht (hdeeds ▸ hruns)
          (hdeeds ▸ World.along_step m.world handler t.control t.frames)

/-- Every move is of one of the kinds of changes. -/
theorem next_turns (hnext : m.next move = some after) (hspares : move.Spares handler) :
    m.Turns handler move after := by
  cases next_transition hnext with
  | build spec trace idle =>
      exact .build (World.builds_addClient m.world spec trace) rfl ⟨spec, trace, rfl⟩
  | @act action isPublic idle =>
      have hdeals : World.Deals (m.Logs (.act action)) handler _ _ _ :=
        World.deals_act m.world (fun hdeaf => hdeaf) action (hspares action rfl)
      exact .apart hdeals (World.tells_actDeeds m.world handler action)
  | abort task idle => exact turns_abort handler task rfl
  | pass ms idle => exact .pass rfl rfl
  | halt idle =>
      refine .apart ?_ Deed.tells_nil
      exact .of_same rfl rfl rfl rfl rfl rfl rfl rfl rfl rfl (List.Subset.refl _)
  | help idle => exact .apart (World.deals_help m.world) Deed.tells_nil
  | poll task idle => exact turns_poll m handler task
  | step polls steps => exact turns_step polls steps handler
  | expire polls waits => exact turns_expire polls handler
  | rest polls waits => exact .apart (.refl _) Deed.tells_nil

/-! ## What all moves have in common -/

/-- No move takes back what lasts. -/
theorem Turns.lasts (h : m.Turns handler move after) : World.Lasts m.world after.world := by
  cases h with
  | build h => exact h.toLasts
  | pass hmove h =>
      rw [h]
      exact .of_eq rfl rfl rfl rfl rfl rfl rfl (List.Subset.refl _)
  | apart h => exact h.toLasts
  | run hactor ht h => exact h.lasts
  | stop hactor ht hdeeds hdrop hend =>
      refine (hdrop.toLasts.trans ?_).trans hend.toLasts
      exact .of_eq rfl rfl rfl rfl rfl rfl rfl (List.Subset.refl _)

/-- For every move there is a handler that it leaves alone. -/
theorem exists_spares (move : Move) : ∃ handler, move.Spares handler := by
  cases move with
  | act action =>
      cases hreaches : action.reaches? with
      | none =>
          refine ⟨0, fun action' heq => ?_⟩
          cases heq
          rw [hreaches]
          nofun
      | some own =>
          refine ⟨own + 1, fun action' heq => ?_⟩
          cases heq
          rw [hreaches, Ne, Option.some.injEq]
          exact (Nat.succ_ne_self own).symm
  | _ => exact ⟨0, fun _ heq => by cases heq⟩

theorem next_lasts (hnext : m.next move = some after) : World.Lasts m.world after.world := by
  obtain ⟨handler, hspares⟩ := exists_spares move
  exact (next_turns hnext hspares).lasts

/-- No run takes back what lasts. -/
theorem run_lasts {moves : List Move} (hrun : m.run moves = some after) :
    World.Lasts m.world after.world :=
  run_induction (P := fun last => World.Lasts m.world last.world)
    (fun h hnext => h.trans (next_lasts hnext)) (.refl _) hrun

/-- The clock stands still unless time passes. -/
theorem next_now (hnext : m.next move = some after) (hmove : ∀ ms, move ≠ .pass ms) :
    after.world.now = m.world.now := by
  obtain ⟨handler, hspares⟩ := exists_spares move
  cases next_turns hnext hspares with
  | build h => exact h.now
  | pass heq h => exact absurd heq (hmove _)
  | apart h => exact h.now
  | run hactor ht h => exact h.now
  | stop hactor ht hdeeds hdrop hend => exact hend.now.trans hdrop.now

/-- Clients come only into being when one is made, and where a client was created does not
change. -/
theorem next_traces (hnext : m.next move = some after)
    (hmove : ∀ spec trace, move ≠ .build spec trace) : after.world.traces = m.world.traces := by
  obtain ⟨handler, hspares⟩ := exists_spares move
  cases next_turns hnext hspares with
  | build h hdeeds hbuild =>
      obtain ⟨spec, trace, heq⟩ := hbuild
      exact absurd heq (hmove spec trace)
  | pass heq h =>
      rw [h]
      rfl
  | apart h => exact h.traces
  | run hactor ht h => exact h.traces
  | stop hactor ht hdeeds hdrop hend => exact hend.traces.trans hdrop.traces

/-- The notable lines that a move adds to the log. -/
theorem next_writes (hnext : m.next move = some after) :
    World.Writes (m.Logs move) m.world after.world := by
  obtain ⟨handler, hspares⟩ := exists_spares move
  cases next_turns hnext hspares with
  | build h => exact .of_eq h.log
  | pass heq h => exact .of_eq (by rw [h])
  | apart h => exact h.log
  | run hactor ht h => exact h.log
  | stop hactor ht hdeeds hdrop hend =>
      exact hdrop.log.trans ((World.Writes.of_eq rfl).trans hend.log)

theorem next_notable (hnext : m.next move = some after) {line : LogLine} (hnotable : line.Notable)
    (hline : line ∈ after.world.log) : line ∈ m.world.log ∨ m.Logs move line :=
  (next_writes hnext).mem hnotable hline

/-- Only a wait for operations that missed its time limit or ended without success is logged. -/
theorem next_log (hnext : m.next move = some after) {client : Nat} {error : Error}
    (hline : .swallowed client .awaitCompletion error ∈ after.world.log) :
    .swallowed client .awaitCompletion error ∈ m.world.log ∨ m.Late client :=
  next_notable hnext nofun hline

/-- Only where an operation has lost its receiver does a cancellation reach nobody. -/
theorem next_undelivered (hnext : m.next move = some after) {id : OperationId}
    (hline : .undelivered id ∈ after.world.log) :
    .undelivered id ∈ m.world.log ∨ m.world.Deaf :=
  next_notable hnext trivial hline

/-- A task that does not go on and is not stopped stays as it is. -/
theorem next_task? (hnext : m.next move = some after) {task : TaskId} {t : Task}
    (ht : m.world.task? task = some t) (hactor : m.actor? move ≠ some task) :
    after.world.task? task = some t := by
  obtain ⟨handler, hspares⟩ := exists_spares move
  have hother : ∀ {other}, m.actor? move = some other → task ≠ other := by
    rintro other hother rfl
    exact hactor hother
  cases next_turns hnext hspares with
  | build h => rwa [World.task?, h.tasks]
  | pass heq h =>
      rw [h]
      exact ht
  | apart h => exact h.task? ht
  | run hactor' ht' h =>
      obtain ⟨v, control, inner, heq, -, hdeals⟩ := h
      rw [heq, World.task?_goto_of_ne (hother hactor')]
      exact hdeals.task? ht
  | stop hactor' ht' hdeeds hdrop hend =>
      refine hend.task? ?_
      rw [World.task?_removeTask (hother hactor')]
      exact hdrop.task? ht

/-! ## Records and tickets -/

/-- The record of a handler after a move. -/
theorem Turns.tracker (h : m.Turns handler move after) :
    after.world.tracker? handler = ((m.world.tracker? handler).map fun tracker =>
        (m.deeds handler move).foldl Tracker.after tracker) ∨
      m.world.tracker? handler = none ∧ after.world.tracker? handler = some .empty := by
  have hmap : ∀ tracker? : Option Tracker,
      (tracker?.map fun tracker => ([] : List Deed).foldl Tracker.after tracker) = tracker? :=
    fun tracker? => by cases tracker? <;> rfl
  cases h with
  | build h hdeeds =>
      rw [hdeeds, hmap]
      exact h.tracker handler
  | pass hmove h =>
      rw [hmove, h]
      exact .inl (hmap _).symm
  | apart h => exact .inl h.tracker
  | run hactor ht h => exact .inl h.tracker
  | stop hactor ht hdeeds hdrop hend =>
      rw [hend.tracker, hmap]
      exact .inl hdrop.tracker

/-- The record that a handler has goes through the deeds of a move. -/
theorem Turns.tracker_eq (h : m.Turns handler move after) {tracker : Tracker}
    (htracker : m.world.tracker? handler = some tracker) :
    after.world.tracker? handler =
      some ((m.deeds handler move).foldl Tracker.after tracker) := by
  rcases h.tracker with heq | ⟨hnone, -⟩
  · rw [heq, htracker, Option.map_some]
  · cases hnone.symm.trans htracker

/-- How the tickets of a handler change hands in a move: those of one task with the deeds of the
move, and those of the others not at all. -/
structure Shift (m after : Moment) (handler : HandlerId) (deeds : List Deed) : Prop where
  absent : m.world.tracker? handler = none →
    (after.world.tickets handler).Subset (m.world.tickets handler)
  present : ∀ {tracker}, m.world.tracker? handler = some tracker →
    ∃ ids others tracker' ids', (m.world.tickets handler).Perm (ids ++ others) ∧
      Spends tracker ids deeds tracker' ids' ∧
      (after.world.tickets handler).Perm (ids' ++ others)

/-- No ticket changes hands where a handler is only told something. -/
theorem Shift.tells {deeds : List Deed} (htells : ∀ deed ∈ deeds, deed.Tells)
    (htickets : after.world.tickets handler = m.world.tickets handler) :
    Shift m after handler deeds where
  absent _ := htickets ▸ List.Subset.refl _
  present {tracker} _ := by
    obtain ⟨tracker', hspends⟩ := Spends.tells htells tracker []
    exact ⟨[], m.world.tickets handler, tracker', [], .refl _, hspends, htickets ▸ .refl _⟩

/-- The tickets of one task go along with the deeds. -/
theorem Shift.along {deeds : List Deed} {ids ids' others : List OperationId}
    (hbefore : (m.world.tickets handler).Perm (ids ++ others))
    (halong : World.Along m.world handler ids deeds ids')
    (hafter : (after.world.tickets handler).Perm (ids' ++ others)) :
    Shift m after handler deeds where
  absent htracker := by
    refine List.Subset.trans hafter.subset (List.Subset.trans ?_ hbefore.symm.subset)
    exact List.append_subset.2
      ⟨fun _ hid => List.mem_append_left _ (halong.absent htracker hid),
        List.subset_append_right _ _⟩
  present htracker := by
    obtain ⟨tracker', hspends⟩ := halong.present htracker
    exact ⟨ids, others, tracker', ids', hbefore, hspends, hafter⟩

theorem Turns.shift (h : m.Turns handler move after) (hnodup : (m.world.tasks.map Task.id).Nodup)
    (hnodup' : (after.world.tasks.map Task.id).Nodup) :
    m.Shift after handler (m.deeds handler move) := by
  cases h with
  | build h hdeeds => exact .tells (hdeeds ▸ Deed.tells_nil) (by rw [World.tickets, h.tasks]; rfl)
  | pass hmove h =>
      subst hmove
      exact .tells Deed.tells_nil (by rw [h]; rfl)
  | apart h htells => exact .tells htells h.tickets
  | run hactor ht h halong =>
      exact .along (World.tickets_perm hnodup ht handler) halong (h.tickets hnodup' ht)
  | @stop task t v hactor ht hdeeds hdrop hend =>
      have halong := World.Along.drops m.world handler (World.held handler t.frames) []
      rw [List.append_nil] at halong
      rw [hdeeds]
      refine .along (World.tickets_perm hnodup ht handler) halong ?_
      rw [hend.tickets, World.tickets_removeTask, hdrop.ticketsBut]
      exact .refl _

/-- The record of a handler pairs tickets and receivers, and its tickets are those that tasks
hold. -/
structure Tracks (m : Moment) (handler : HandlerId) : Prop where
  absent : m.world.tracker? handler = none → m.world.tickets handler = []
  present : ∀ {tracker}, m.world.tracker? handler = some tracker →
    tracker.Paired ∧ (m.world.tickets handler).Perm tracker.tickets

theorem Tracks.next (h : m.Tracks handler) (hfit : m.CallsFit) (hnext : m.next move = some after)
    (hspares : move.Spares handler) : after.Tracks handler := by
  have hturns := next_turns hnext hspares
  obtain ⟨active, horderly⟩ := hfit.exists_callsFit
  obtain ⟨active', horderly'⟩ := (hfit.next hnext).fits.exists_callsFit
  have hshift := hturns.shift horderly.nodup horderly'.nodup
  have hnone : m.world.tracker? handler = none → after.world.tickets handler = [] := fun htracker =>
    List.subset_nil.1 (h.absent htracker ▸ hshift.absent htracker)
  cases htracker : m.world.tracker? handler with
  | none =>
      refine ⟨fun _ => hnone htracker, fun {tracker'} htracker' => ?_⟩
      rw [hnone htracker]
      rcases hturns.tracker with heq | ⟨-, hempty⟩
      · rw [htracker, htracker'] at heq
        cases heq
      · cases hempty.symm.trans htracker'
        exact ⟨Tracker.empty_paired, .nil⟩
  | some tracker =>
      obtain ⟨hpaired', hperm⟩ := h.present htracker
      obtain ⟨ids, others, tracker', ids', hbefore, hspends, hafter⟩ := hshift.present htracker
      obtain ⟨hpaired', hperm'⟩ := hspends.paired hpaired' (hbefore.symm.trans hperm)
      have htracker' : after.world.tracker? handler = some tracker' := by
        rw [hturns.tracker_eq htracker, hspends.tracker_eq]
      refine ⟨fun hnone => ?_, fun heq => ?_⟩
      · cases hnone.symm.trans htracker'
      cases heq.symm.trans htracker'
      exact ⟨hpaired', hafter.trans hperm'⟩

end Moment

end Remoting
