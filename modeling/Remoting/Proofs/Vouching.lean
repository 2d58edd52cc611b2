import Remoting.Proofs.Order
import Remoting.Proofs.Seats

/-!
# What a teardown knows of its endpoint when it ends

A teardown waits until its endpoint is closed and ends well only after that wait. An endpoint that
owns tasks answers the wait once it was asked to close and its tasks are gone, and it then is
`Over`. `Vouches` says what a task knows of an endpoint on the way from that wait to the reply of
the teardown.
-/

namespace Remoting

/-- Where its state does not change, the end of its tasks leaves an endpoint as it is. -/
theorem LocalEndpoint.finish_eq {owned : LocalEndpoint} (h : owned.finish.1 = false) :
    owned.finish.2 = owned := by
  by_cases hrank : owned.channel.state.rank < EndpointState.closed.rank
  · simp [finish, StateChannel.advance, hrank] at h
  · simp [finish, StateChannel.advance, if_neg hrank]

namespace World

variable {w v u : World} {task : TaskId} {control : Control} {frames : List Frame} {t : Task}
  {endpoint : EndpointId} {reply : Reply}

/-- The wait for the closure of an endpoint is the wait for the end of its tasks. -/
def Plain (w : World) (endpoint : EndpointId) : Prop :=
  ∀ plan, w.endpointPlan? endpoint = some plan → plan.await = none

/-- An endpoint was asked to close and owns no task. -/
def Drained (w : World) (endpoint : EndpointId) : Prop :=
  ∃ owned, w.local? endpoint = some owned ∧ owned.isDrained = true

/-- An endpoint is closed and owns no task. -/
def Over (w : World) (endpoint : EndpointId) : Prop :=
  ∃ owned, w.local? endpoint = some owned ∧ owned.Over

theorem Plain.of_grows (h : u.Plain endpoint) (hgrows : Grows w u) : w.Plain endpoint := by
  intro plan hplan
  obtain ⟨cell, hcell, hsome⟩ := Option.bind_eq_some_iff.1 hplan
  obtain ⟨cell', hcell', hkept, -⟩ := hgrows.endpoint hcell
  refine h plan ?_
  rw [endpointPlan?, hcell']
  exact hkept.trans hsome

theorem Over.lasts (h : w.Over endpoint) (hlasts : Lasts w u) : u.Over endpoint := by
  obtain ⟨owned, howned, hover⟩ := h
  obtain ⟨owned', howned', hkeeps⟩ := hlasts.endpoint howned
  exact ⟨owned', howned', hover.keepsTasks hkeeps⟩

theorem Drained.lasts (h : w.Drained endpoint) (hlasts : Lasts w u) : u.Drained endpoint := by
  obtain ⟨owned, howned, hdrained⟩ := h
  obtain ⟨owned', howned', hkeeps⟩ := hlasts.endpoint howned
  exact ⟨owned', howned', hkeeps.isDrained hdrained⟩

/-- The endpoint of a teardown is over, if it answers the wait for its closure as its tasks do. -/
def Clears (w : World) (td : Teardown) : Prop :=
  ∀ endpoint, td.endpoint = some endpoint → w.Plain endpoint → w.Over endpoint

/-- What a task that is about to go on after a wait for an endpoint knows of the endpoint. -/
def Vouches (w : World) (task : TaskId) : Control → List Frame → Prop
  | .reply _, .localTasks endpoint :: _ => w.Drained endpoint
  | .reply _, .endpointClosed endpoint :: _ => w.Plain endpoint → w.Over endpoint
  | .reply _, .teardown td .endpoint :: _ => w.Clears td
  | .reply reply, [] => ∀ client td, (client, .teardown task td) ∈ w.contacts →
      reply = .ok .closed → w.Clears td
  | .call (.teardown td (.finish outcome)), _ => outcome = .ok () → w.Clears td
  | _, _ => True

/-! ## Where a reply comes from -/

/-- If a task has a reply to hand on, then to the given frames. -/
def RepliesOn (u : World) (task : TaskId) (frames : List Frame) : Prop :=
  ∀ {t reply}, u.task? task = some t → t.control = .reply reply → t.frames = frames

theorem repliesOn_goto (w : World) (task : TaskId) (control : Control) (frames : List Frame) :
    RepliesOn (w.goto task control frames) task frames :=
  fun ht _ => (of_task?_goto ht).2

theorem repliesOn_of_ne (w : World) (task : TaskId) {control : Control} (frames' : List Frame)
    (hcontrol : ∀ reply, control ≠ .reply reply) :
    RepliesOn (w.goto task control frames') task frames := fun {_ reply} ht hreply =>
  absurd ((of_task?_goto ht).1.symm.trans hreply) (hcontrol reply)

theorem repliesOn_enter (w : World) (task : TaskId) (call : Call) (frames' : List Frame) :
    RepliesOn (w.enter task call frames') task frames :=
  repliesOn_of_ne w task frames' fun _ heq => by cases heq

theorem repliesOn_await (w : World) (task : TaskId) (wait : Wait) (frames' : List Frame) :
    RepliesOn (w.await task wait frames') task frames :=
  repliesOn_of_ne w task frames' fun _ heq => by cases heq

theorem repliesOn_behave (w : World) (task : TaskId) (behaviour : Behaviour)
    (frames : List Frame) : RepliesOn (w.behave task behaviour frames) task frames := by
  unfold World.behave
  split
  · exact repliesOn_await w task _ _
  · split
    · exact repliesOn_await w task _ _
    · exact repliesOn_goto w task _ _

theorem repliesOn_createEndpoint (w : World) (task : TaskId) (client : ClientId) (c : Client)
    (name : String) (frames : List Frame) :
    RepliesOn (w.createEndpoint task client c name frames) task frames := by
  unfold World.createEndpoint
  dsimp only
  split
  · exact repliesOn_enter _ task _ _
  · split
    · exact repliesOn_goto _ task _ _
    · exact repliesOn_goto _ task _ _
    · exact repliesOn_enter _ task _ _

theorem repliesOn_lockedChannel (w : World) (task : TaskId) (client : ClientId)
    (frames : List Frame) : RepliesOn (w.lockedChannel task client frames) task frames := by
  unfold World.lockedChannel
  split
  · split
    · exact repliesOn_goto _ task _ _
    · exact repliesOn_enter _ task _ _
    · exact repliesOn_enter _ task _ _
    · exact repliesOn_createEndpoint w task client _ _ frames
  · exact repliesOn_goto _ task _ _

theorem repliesOn_connect (w : World) (task : TaskId) (client : ClientId) (endpoint : EndpointId)
    (frames : List Frame) : RepliesOn (w.connect task client endpoint frames) task frames := by
  unfold World.connect
  split
  · split
    · exact repliesOn_goto _ task _ _
    · dsimp only
      split
      · exact repliesOn_goto _ task _ _
      · exact repliesOn_enter _ task _ _
  · exact repliesOn_goto _ task _ _

theorem repliesOn_created (w : World) (task : TaskId) (client : ClientId) (endpoint : EndpointId)
    (plan : StrategyPlan) (reply : Reply) (frames : List Frame) :
    RepliesOn (w.created task client endpoint plan reply frames) task frames := by
  unfold World.created
  split
  · exact repliesOn_goto _ task _ _
  · split
    · exact repliesOn_goto _ task _ _
    · split
      · exact repliesOn_goto _ task _ _
      · exact repliesOn_enter _ task _ _

theorem repliesOn_operate (w : World) (task : TaskId) (script : Script) (site : Site)
    (frames : List Frame) : RepliesOn (w.operate task script site frames) task frames := by
  unfold World.operate
  split
  case h_2 => exact repliesOn_await w task _ _
  case h_14 => exact repliesOn_enter w task _ _
  case h_15 | h_16 => split <;> exact repliesOn_enter w task _ _
  all_goals exact repliesOn_goto _ task _ _

theorem repliesOn_runOwned (w : World) (task : TaskId) (endpoint : EndpointId)
    (script : List OwnedStep) (frames : List Frame) :
    RepliesOn (w.runOwned task endpoint script frames) task frames := by
  unfold World.runOwned
  split
  case h_2 | h_3 => exact repliesOn_await w task _ _
  all_goals exact repliesOn_goto _ task _ _

/-- A teardown replies at its last stage only. -/
theorem repliesOn_runStage {stage : Teardown.Stage} (hstage : ∀ outcome, stage ≠ .finish outcome)
    (w : World) (task : TaskId) (td : Teardown) (frames frames' : List Frame) :
    RepliesOn (w.runStage task td stage frames) task frames' := by
  unfold World.runStage
  cases stage with
  | shutdown | shutdownNow | release => exact repliesOn_enter _ task _ _
  | finish outcome => exact absurd rfl (hstage outcome)
  | closeStrategy | closeEndpoint | drain =>
      dsimp only
      split
      · exact repliesOn_enter _ task _ _
      · exact repliesOn_enter _ task _ _
  | awaitEndpoint =>
      dsimp only
      split
      · exact repliesOn_enter _ task _ _
      · split
        · exact repliesOn_enter _ task _ _
        · exact repliesOn_enter _ task _ _

theorem repliesOn_awaitClosed (w : World) (task : TaskId) (endpoint : EndpointId)
    (frames frames' : List Frame) :
    RepliesOn (w.awaitClosed task endpoint frames) task frames' := by
  unfold World.awaitClosed
  split
  · exact repliesOn_await w task _ _
  · dsimp only
    split
    · exact repliesOn_enter _ task _ _
    · exact repliesOn_enter _ task _ _

/-- A call replies on the frames that it was made on. -/
theorem repliesOn_makeCall (w : World) (task : TaskId) (call : Call) (frames : List Frame) :
    RepliesOn (w.makeCall task call frames) task frames := by
  cases call with
  | getChannel | close | awaitLocal | spawn | await | awaitDrained =>
    exact repliesOn_await _ task _ _
  | connect client endpoint => exact repliesOn_connect w task client endpoint frames
  | openChannel client strategy =>
      simp only [makeCall, World.openChannel]
      split
      · exact repliesOn_goto _ task _ _
      · exact repliesOn_enter _ task _ _
  | supply handler =>
      simp only [makeCall, World.supply]
      split
      · exact repliesOn_enter _ task _ _
      · exact repliesOn_enter _ task _ _
      · exact repliesOn_goto _ task _ _
  | clientSupply client =>
      simp only [makeCall, World.clientSupply]
      split
      · exact repliesOn_enter _ task _ _
      · exact repliesOn_goto _ task _ _
  | execute handler routine client =>
      simp only [makeCall, World.execute]
      split
      · exact repliesOn_goto _ task _ _
      · exact repliesOn_enter _ task _ _
  | operate script site => exact repliesOn_operate w task script site frames
  | teardown td stage =>
      cases stage with
      | finish => exact repliesOn_goto _ task _ _
      | _ => exact repliesOn_runStage (fun _ heq => by cases heq) w task td frames frames
  | behave behaviour => exact repliesOn_behave w task behaviour frames
  | awaitCompletion client =>
      simp only [makeCall, World.awaitCompletion]
      split
      · exact repliesOn_await _ task _ _
      · exact repliesOn_enter _ task _ _
      · exact repliesOn_goto _ task _ _
  | awaitClosed endpoint => exact repliesOn_awaitClosed w task endpoint frames frames
  | own endpoint script => exact repliesOn_runOwned w task endpoint script frames

/-- A frame that is given a reply hands a reply on to the frame around it. -/
theorem repliesOn_resume (w : World) (task : TaskId) (frame : Frame) (reply : Reply)
    (frames : List Frame) : RepliesOn (w.resume task frame reply frames) task frames := by
  cases frame with
  | getLock client => exact repliesOn_lockedChannel w task client frames
  | creation client endpoint plan =>
    exact repliesOn_created w task client endpoint plan reply frames
  | channel =>
      simp only [resume, World.opened]
      split
      · exact repliesOn_goto _ task _ _
      · exact repliesOn_goto _ task _ _
  | closeLock =>
      simp only [resume, World.lockedClose]
      split
      · exact repliesOn_await _ task _ _
      · exact repliesOn_goto _ task _ _
      · exact repliesOn_goto _ task _ _
  | supply =>
      simp only [resume, World.startOperation]
      split
      · exact repliesOn_enter _ task _ _
      · exact repliesOn_goto _ task _ _
  | opening =>
      simp only [resume, World.startBody]
      split
      · exact repliesOn_goto _ task _ _
      · exact repliesOn_enter _ task _ _
  | localRequest => exact repliesOn_await _ task _ _
  | script | nested | teardown | behaviour | owned => exact repliesOn_enter _ task _ _
  | closeJoin | recordLock | background | keep | supplied | operation | completion
  | endpointClosed | localTasks => exact repliesOn_goto _ task _ _

/-! ## Steps -/

theorem local?_setLocal {owned : LocalEndpoint} (howned : w.local? endpoint = some owned)
    (owned' : LocalEndpoint) : (w.setLocal endpoint owned').local? endpoint = some owned' := by
  obtain ⟨cell, hcell, -⟩ := Option.map_eq_some_iff.1 howned
  simp [local?, setLocal, modifyEndpoint, hcell]

/-- The end of the wait for the tasks of an endpoint closes it. -/
theorem Drained.finishLocal (h : w.Drained endpoint) : (w.finishLocal endpoint).Over endpoint := by
  obtain ⟨owned, howned, hdrained⟩ := h
  obtain ⟨-, htasks⟩ := (LocalEndpoint.isDrained_iff owned).1 hdrained
  have hrank : owned.finish.2.state.rank = max owned.state.rank EndpointState.closed.rank :=
    owned.channel.rank_advance .closed
  have hfinish : owned.finish.2.Over := by
    refine ⟨EndpointState.eq_of_rank_eq (hrank.trans ?_), htasks⟩
    cases owned.state <;> rfl
  unfold World.finishLocal
  rw [howned]
  dsimp only
  split
  next heq =>
    have hsame : owned.finish.2 = owned := LocalEndpoint.finish_eq (by rw [heq])
    exact ⟨owned, howned, hsame ▸ hfinish⟩
  next closed heq =>
    rw [heq] at hfinish
    exact ⟨closed, local?_setLocal howned closed, hfinish⟩

theorem finishLocal_of_resume {outer : List Frame} (h : w.Drained endpoint) :
    (w.resume task (.localTasks endpoint) reply outer).Over endpoint :=
  h.finishLocal

theorem At.not_hasEnded (h : w.At task control frames) : ¬ w.HasEnded task := by
  rw [HasEnded, h.unfinished]
  exact fun hended => by cases hended

/-- A reply comes from a call that was made, from a wait that is over, or from a frame that was
given a reply. -/
theorem reply_origin {t' : Task} (ht : w.task? task = some t) (hstep : w.step? task = some u)
    (hthere : ¬ u.HasEnded task) (ht' : u.task? task = some t')
    (hreply : t'.control = .reply reply) :
    (∃ call, t.control = .call call ∧ t'.frames = t.frames ∧
        u = w.makeCall task call t.frames) ∨
      (∃ wait, t.control = .wait wait ∧ t'.frames = t.frames ∧
        w.ready? task wait = some (.reply reply)) ∨
      ∃ reply' frame, t.control = .reply reply' ∧ t.frames = frame :: t'.frames ∧
        u = w.resume task frame reply' t'.frames := by
  unfold step? at hstep
  rw [ht] at hstep
  dsimp only at hstep
  split at hstep
  next call hcontrol =>
    cases hstep
    exact .inl ⟨call, hcontrol, repliesOn_makeCall w task call t.frames ht' hreply, rfl⟩
  next reply' frame frames hcontrol hframes =>
    cases hstep
    obtain rfl := repliesOn_resume w task frame reply' frames ht' hreply
    exact .inr (.inr ⟨reply', frame, hcontrol, hframes, rfl⟩)
  next hcontrol hframes =>
    cases hstep
    exact absurd (hasEnded_finishTask ht _) hthere
  next content frame frames hcontrol hframes =>
    cases hstep
    cases frame <;> cases (of_task?_goto ht').1.symm.trans hreply
  next hcontrol hframes =>
    cases hstep
    exact absurd (hasEnded_finishTask ht _) hthere
  next client frames hcontrol hframes =>
    cases hstep
    cases (of_task?_goto ht').1.symm.trans hreply
  next frame frames _ hcontrol hframes =>
    cases hstep
    cases (of_task?_goto ht').1.symm.trans hreply
  next hcontrol hframes =>
    cases hstep
    exact absurd (hasEnded_finishTask ht _) hthere
  next wait hcontrol =>
    obtain ⟨control, hready, rfl⟩ := Option.map_eq_some_iff.1 hstep
    obtain ⟨heq, hframes⟩ := of_task?_goto ht'
    exact .inr (.inl ⟨wait, hcontrol, hframes, by rw [hready, ← heq, hreply]⟩)

section Steps

variable {t t' : Task} {outer : List Frame} {td : Teardown}

/-- The wait for the tasks of an endpoint ends when they are gone. -/
theorem drained_of_reply (hat : w.At task t.control t.frames) (ht : w.task? task = some t)
    (hstep : w.step? task = some u) (hthere : ¬ u.HasEnded task) (hlasts : Lasts w u)
    (ht' : u.task? task = some t') (hreply : t'.control = .reply reply)
    (hframes : t'.frames = .localTasks endpoint :: outer) : u.Drained endpoint := by
  have htyped := hat.typed
  rcases reply_origin ht hstep hthere ht' hreply with
    ⟨call, hcontrol, hsame, rfl⟩ | ⟨wait, hcontrol, hsame, hready⟩ |
    ⟨reply', frame, hcontrol, hsame, rfl⟩
  · rw [hcontrol, ← hsame, hframes] at htyped
    have hjob : call.job = .wait (.tasksGone endpoint) := htyped.1
    cases call <;> cases hjob
    cases (of_task?_goto ht').1.symm.trans hreply
  · rw [hcontrol, ← hsame, hframes] at htyped
    cases htyped.1
    simp only [ready?] at hready
    split at hready
    next hany =>
      obtain ⟨owned, howned, hdrained⟩ := (Option.any_eq_true _ _).1 hany
      exact Drained.lasts ⟨owned, howned, hdrained⟩ hlasts
    next => cases hready
  · rw [hcontrol, hsame, hframes] at htyped
    obtain ⟨job, ⟨-, hawaits, -⟩, -⟩ := htyped
    exact absurd hawaits (Frame.job_ne_wait frame _)

/-- The local part of the wait for the closure of an endpoint ends when it is over. -/
theorem over_of_awaitLocal {frame : Frame} {reply' : Reply}
    (hjob : frame.job = .awaitLocal endpoint)
    (h : w.Vouches task (.reply reply') (frame :: t'.frames))
    (ht' : (w.resume task frame reply' t'.frames).task? task = some t')
    (hreply : t'.control = .reply reply) :
    (w.resume task frame reply' t'.frames).Over endpoint := by
  cases frame <;> cases hjob
  · cases (of_task?_goto ht').1.symm.trans hreply
  · exact finishLocal_of_resume h

/-- A call does not reply at once for an endpoint. -/
theorem no_reply_of_awaitLocal {call : Call} (hjob : call.job = .awaitLocal endpoint)
    (ht' : (w.makeCall task call frames).task? task = some t') : t'.control ≠ .reply reply := by
  intro hreply
  cases call <;> cases hjob
  cases (of_task?_goto ht').1.symm.trans hreply

/-- The wait for the closure of an endpoint ends when it is over. -/
theorem over_of_endpointClosed (hat : w.At task t.control t.frames) (ht : w.task? task = some t)
    (h : w.Vouches task t.control t.frames)
    (hstep : w.step? task = some u) (hthere : ¬ u.HasEnded task)
    (ht' : u.task? task = some t') (hreply : t'.control = .reply reply)
    (hframes : t'.frames = .endpointClosed endpoint :: outer) (hplain : w.Plain endpoint) :
    u.Over endpoint := by
  have hawaitLocal : ∀ {job}, w.Awaits (.endpointClosed endpoint) job →
      job = .awaitLocal endpoint := by
    rintro job ⟨cell, plan, hcell, hplan, hjob⟩
    have hnone := hplain plan (by rw [endpointPlan?, hcell]; exact hplan)
    rw [hnone] at hjob
    exact hjob
  have htyped := hat.typed
  rcases reply_origin ht hstep hthere ht' hreply with
    ⟨call, hcontrol, hsame, rfl⟩ | ⟨wait, hcontrol, hsame, hready⟩ |
    ⟨reply', frame, hcontrol, hsame, rfl⟩
  · rw [hcontrol, ← hsame, hframes] at htyped
    exact absurd hreply (no_reply_of_awaitLocal (hawaitLocal htyped.1) ht')
  · rw [hcontrol, ← hsame, hframes] at htyped
    cases hawaitLocal htyped.1
  · rw [hcontrol, hsame] at htyped h
    rw [hframes] at htyped
    obtain ⟨job, ⟨-, hawaits, -⟩, -⟩ := htyped
    exact over_of_awaitLocal (hawaitLocal hawaits) h ht' hreply

/-- A teardown waits until its endpoint is over. -/
theorem clears_of_pause (hat : w.At task t.control t.frames) (ht : w.task? task = some t)
    (h : w.Vouches task t.control t.frames) (hstep : w.step? task = some u)
    (hthere : ¬ u.HasEnded task) (hlasts : Lasts w u) (hgrows : Grows w u)
    (ht' : u.task? task = some t') (hreply : t'.control = .reply reply)
    (hframes : t'.frames = .teardown td .endpoint :: outer) : u.Clears td := by
  intro endpoint hendpoint hplain
  have hplain' := hplain.of_grows hgrows
  have hjobs : ∀ {job}, w.Awaits (.teardown td .endpoint) job →
      job = .awaitClosed endpoint ∨ job = .awaitLocal endpoint := by
    rintro job ⟨endpoint', cell, hendpoint', -, hjob⟩
    cases hendpoint.symm.trans hendpoint'
    exact hjob.imp_right (·.1)
  have htyped := hat.typed
  rcases reply_origin ht hstep hthere ht' hreply with
    ⟨call, hcontrol, hsame, rfl⟩ | ⟨wait, hcontrol, hsame, hready⟩ |
    ⟨reply', frame, hcontrol, hsame, rfl⟩
  · rw [hcontrol, ← hsame, hframes] at htyped
    rcases hjobs htyped.1 with hjob | hjob
    · cases call <;> cases hjob
      have hnil := repliesOn_awaitClosed w task endpoint t.frames [] ht' hreply
      rw [hframes] at hnil
      cases hnil
    · exact absurd hreply (no_reply_of_awaitLocal hjob ht')
  · rw [hcontrol, ← hsame, hframes] at htyped
    rcases hjobs htyped.1 with hjob | hjob <;> cases hjob
  · rw [hcontrol, hsame] at htyped h
    rw [hframes] at htyped
    obtain ⟨job, ⟨-, hawaits, -⟩, -⟩ := htyped
    rcases hjobs hawaits with hjob | hjob
    · cases frame <;> cases hjob
      exact (h hplain').lasts hlasts
    · exact over_of_awaitLocal hjob h ht' hreply

/-- A teardown replies that the client is closed only if its endpoint is over. -/
theorem clears_of_reply (hat : w.At task t.control t.frames) (ht : w.task? task = some t)
    (h : w.Vouches task t.control t.frames) (hstep : w.step? task = some u)
    (hthere : ¬ u.HasEnded task) (hlasts : Lasts w u) (hgrows : Grows w u)
    (ht' : u.task? task = some t') (hreply : t'.control = .reply (.ok .closed))
    (hframes : t'.frames = []) {client : ClientId}
    (hhanded : (client, .teardown task td) ∈ w.contacts) : u.Clears td := by
  have htyped := hat.typed
  have hkeep : w.Clears td → u.Clears td := fun h endpoint he hplain =>
    (h endpoint he (hplain.of_grows hgrows)).lasts hlasts
  rcases reply_origin ht hstep hthere ht' hreply with
    ⟨call, hcontrol, hsame, rfl⟩ | ⟨wait, hcontrol, hsame, hready⟩ |
    ⟨reply', frame, hcontrol, hsame, rfl⟩
  · rw [hcontrol, ← hsame, hframes] at htyped
    have hjob := htyped.2 _ _ hhanded
    -- a task whose only job is a teardown calls its stages and nothing else
    cases call with
    | teardown td' stage =>
        cases hjob
        cases stage with
        | finish outcome =>
            cases outcome with
            | ok =>
                rw [hcontrol] at h
                exact hkeep (h rfl)
            | error e => cases (of_task?_goto ht').1.symm.trans hreply
        | _ =>
            have hany := repliesOn_runStage (fun _ heq => by cases heq) w task td t.frames
              [.background client] ht' hreply
            rw [hframes] at hany
            cases hany
    | _ => cases hjob
  · rw [hcontrol, ← hsame, hframes] at htyped
    cases htyped.2 _ _ hhanded
  · rw [hcontrol, hsame, hframes] at htyped
    obtain ⟨job, ⟨-, hroot⟩, -⟩ := htyped
    have hjob := hroot.2 _ _ hhanded
    cases frame <;> cases hjob
    cases (of_task?_goto ht').1.symm.trans hreply

/-- A task that is inside of no call after a step was at most inside of the one that has ended. -/
theorem stepFrames_eq_nil (ht : w.task? task = some t) (hstep : w.step? task = some u)
    (ht' : u.task? task = some t') (hframes : t'.frames = []) :
    stepFrames t.control t.frames = [] := by
  have hruns := runs_step (fun _ => True) 0 ht hstep (fun _ => trivial)
    (fun _ _ => fun _ => trivial) fun _ _ _ _ => trivial
  rcases hruns with ⟨hnil, -, -⟩ | hruns
  · unfold stepFrames
    split
    · exact hnil
    · exact hnil
    · rw [hnil]
      rfl
  · obtain ⟨control, inner, -, ht''⟩ := hruns.task? ht
    cases ht'.symm.trans ht''
    exact (List.append_eq_nil_iff.1 hframes).2

/-- A stage of a teardown leads to the end without a failure only if there is no endpoint. -/
theorem endpoint_eq_none_of_runStage {stage : Teardown.Stage}
    (ht' : (w.runStage task td stage []).task? task = some t')
    (hfinish : t'.control = .call (.teardown td (.finish (.ok ())))) : td.endpoint = none := by
  cases he : td.endpoint with
  | none => rfl
  | some endpoint =>
      exfalso
      cases stage with
      | awaitEndpoint =>
          simp only [World.runStage, he] at ht'
          split at ht' <;> cases (of_task?_goto ht').1.symm.trans hfinish
      | closeStrategy | closeEndpoint | drain =>
          simp only [World.runStage] at ht'
          split at ht' <;> cases (of_task?_goto ht').1.symm.trans hfinish
      | _ => cases (of_task?_goto ht').1.symm.trans hfinish

/-- A wait of a teardown leads to the end only if it is the one for the endpoint. -/
theorem eq_endpoint_of_pauseEnded {pause : Teardown.Pause} {outcome : Except Error Unit}
    (h : (w.pauseEnded td pause reply).1 = .finish outcome) : pause = .endpoint := by
  cases pause with
  | endpoint => rfl
  | strategy | drain =>
      unfold pauseEnded at h
      split at h <;> contradiction

/-- A teardown comes to its end without a failure only if its endpoint is over. -/
theorem clears_of_finish (hat : w.At task t.control t.frames) (ht : w.task? task = some t)
    (h : w.Vouches task t.control t.frames) (hstep : w.step? task = some u)
    (hthere : ¬ u.HasEnded task) (hlasts : Lasts w u) (hgrows : Grows w u)
    (ht' : u.task? task = some t')
    (hfinish : t'.control = .call (.teardown td (.finish (.ok ())))) (hframes : t'.frames = [])
    {client : ClientId} (hhanded : (client, .teardown task td) ∈ w.contacts) : u.Clears td := by
  have htyped := hat.typed
  have hkeep : w.Clears td → u.Clears td := fun h endpoint he hplain =>
    (h endpoint he (hplain.of_grows hgrows)).lasts hlasts
  have hstay := stepFrames_eq_nil ht hstep ht' hframes
  unfold step? at hstep
  rw [ht] at hstep
  dsimp only at hstep
  split at hstep
  next call hcontrol =>
    cases hstep
    rw [hcontrol] at hstay htyped
    have hroot : w.Stack task call.job t.frames := htyped
    rw [show t.frames = [] from hstay] at hroot
    have hjob := hroot.2 _ _ hhanded
    cases call with
    | teardown td' stage =>
        cases hjob
        rw [makeCall, show t.frames = [] from hstay] at ht'
        intro endpoint he
        cases he.symm.trans (endpoint_eq_none_of_runStage ht' hfinish)
    | _ => cases hjob
  next reply' frame frames hcontrol hframes =>
    cases hstep
    rw [hcontrol, hframes] at hstay htyped h
    obtain rfl : frames = [] := hstay
    obtain ⟨job, ⟨-, hroot⟩, -⟩ := htyped
    have hjob := hroot.2 _ _ hhanded
    cases frame <;> cases hjob
    next pause =>
      have hcall : Control.call (.teardown td (w.pauseEnded td pause reply').1) = _ :=
        (of_task?_goto ht').1.symm.trans hfinish
      rw [Control.call.injEq, Call.teardown.injEq] at hcall
      obtain ⟨-, hstage⟩ := hcall
      obtain rfl := eq_endpoint_of_pauseEnded hstage
      exact hkeep h
  next hcontrol hframes =>
    cases hstep
    exact absurd (hasEnded_finishTask ht _) hthere
  next content frame frames hcontrol hframes =>
    cases hstep
    rw [hcontrol, hframes] at hstay htyped
    obtain rfl : frames = [] := hstay
    obtain ⟨job, ⟨-, hroot⟩, -⟩ := htyped
    have hjob := hroot.2 _ _ hhanded
    cases frame <;> cases hjob
    next pause =>
      have hstage := (of_task?_goto ht').1.symm.trans hfinish
      cases pause <;> cases hstage
  next hcontrol hframes =>
    cases hstep
    exact absurd (hasEnded_finishTask ht _) hthere
  next client frames hcontrol hframes =>
    cases hstep
    cases (of_task?_goto ht').1.symm.trans hfinish
  next frame frames _ hcontrol hframes =>
    cases hstep
    cases (of_task?_goto ht').1.symm.trans hfinish
  next hcontrol hframes =>
    cases hstep
    exact absurd (hasEnded_finishTask ht _) hthere
  next wait hcontrol =>
    rw [hcontrol] at hstay htyped
    have hroot : w.Stack task (.wait wait) t.frames := htyped
    rw [show t.frames = [] from hstay] at hroot
    cases hroot.2 _ _ hhanded

/-- What a task knows of an endpoint is right after each of its steps. -/
theorem Vouches.step (hat : w.At task t.control t.frames) (ht : w.task? task = some t)
    (h : w.Vouches task t.control t.frames) (hstep : w.step? task = some u) (hlasts : Lasts w u)
    (hgrows : Grows w u) (hat' : u.At task t'.control t'.frames) (ht' : u.task? task = some t') :
    u.Vouches task t'.control t'.frames := by
  have hthere := hat'.not_hasEnded
  have hhanded : ∀ {client td}, (client, .teardown task td) ∈ u.contacts →
      (client, .teardown task td) ∈ w.contacts := by
    intro client td hentry
    rcases hgrows.handed hentry with hentry | ⟨hle, -⟩
    · exact hentry
    · exact absurd hat.fresh (Nat.not_lt.2 hle)
  unfold Vouches
  split
  next hcontrol hframes => exact drained_of_reply hat ht hstep hthere hlasts ht' hcontrol hframes
  next hcontrol hframes =>
    exact fun hplain => over_of_endpointClosed hat ht h hstep hthere ht' hcontrol hframes
      (hplain.of_grows hgrows)
  next hcontrol hframes =>
    exact clears_of_pause hat ht h hstep hthere hlasts hgrows ht' hcontrol hframes
  next hcontrol hframes =>
    rintro client td hentry rfl
    exact clears_of_reply hat ht h hstep hthere hlasts hgrows ht' hcontrol hframes (hhanded hentry)
  next td outcome hcontrol =>
    rintro rfl
    have hheld := hat'.active.callHolds (congrArg Control.hold? hcontrol)
    have hstack : u.Stack task (.teardown td) t'.frames := by
      have htyped := hat'.typed
      rwa [hcontrol] at htyped
    exact clears_of_finish hat ht h hstep hthere hlasts hgrows ht' hcontrol
      (hstack.eq_nil fun _ hwaiter => hwaiter) (hhanded (mem_history.1 hheld.2.2.1))
  next => trivial

end Steps

/-- A task that rests is not about to go on after a wait. -/
theorem vouches_of_resting (hrest : control.resting = true) : w.Vouches task control frames := by
  unfold Vouches
  split <;> first | cases hrest | trivial

/-- A call that is cut short ends without word of an endpoint. -/
theorem vouches_of_cutShort? {control' : Control} {frame : Frame} {inner outer : List Frame}
    (htyped : w.Typed task (inner ++ frame :: outer) control')
    (hshort : w.cutShort? frame = some control) (u : World) : u.Vouches task control outer := by
  obtain ⟨job, hstack⟩ := htyped.stack
  obtain ⟨job', -, hstack'⟩ := hstack.outer
  have hexecute : ∀ reason, frame.job = .execute →
      u.Vouches task (.reply (.error reason)) outer := by
    intro reason hjob
    rw [hjob] at hstack'
    cases outer with
    | nil => exact fun _ _ _ heq => by cases heq
    | cons first outer =>
        have hawaits := hstack'.1
        cases first with
        | localTasks => cases hawaits
        | endpointClosed =>
            obtain ⟨cell, plan, -, -, hjob⟩ := hawaits
            split at hjob
            · rcases hjob with hjob | hjob <;> cases hjob
            · cases hjob
        | teardown td pause =>
            cases pause with
            | endpoint =>
                obtain ⟨endpoint, cell, -, -, hjob | ⟨hjob, -⟩⟩ := hawaits <;> cases hjob
            | _ => trivial
        | _ => trivial
  unfold cutShort? at hshort
  split at hshort
  next =>
    obtain ⟨reason, -, rfl⟩ := Option.map_eq_some_iff.1 hshort
    exact hexecute reason rfl
  next =>
    obtain ⟨reason, -, rfl⟩ := Option.map_eq_some_iff.1 hshort
    exact hexecute reason rfl
  next =>
    obtain ⟨reason, -, rfl⟩ := Option.map_eq_some_iff.1 hshort
    exact hexecute reason rfl
  next =>
    split at hshort
    next =>
      cases hshort
      trivial
    next => cases hshort
  next td =>
    split at hshort
    next =>
      cases hshort
      intro houtcome endpoint hendpoint
      rw [hendpoint] at houtcome
      cases houtcome
    next => cases hshort
  next => cases hshort

end World

namespace Moment

variable {m after last : Moment} {move : Move} {moves : List Move}

/-- What the polled task knows of an endpoint is right. -/
def Vouched (m : Moment) : Prop :=
  ∀ t, m.polled? = some t → m.world.Vouches t.id t.control t.frames

/-- A task that is polled waits, or has been cut short at a wait. -/
theorem vouched_poll {task : TaskId} (hm : m.CallsFit) (hnext : m.next (.poll task) = some after) :
    after.Vouched := by
  intro t' ht'
  obtain ⟨hpolling, rfl⟩ := next_poll hnext
  have hfind : (m.world.cutTask task).task? task = some t' := ht'
  obtain rfl := (World.task?_mem hfind).2
  cases ht : m.world.task? t'.id with
  | none =>
      simp only [World.cutTask, ht] at hfind
      cases hfind
  | some t =>
      obtain ⟨hrest, htyped⟩ := hm.rests hpolling ht
      simp only [World.cutTask, ht] at hfind
      split at hfind
      next cut hcut =>
        obtain ⟨hframes, hshort⟩ := World.cut?_eq_some hcut
        rw [World.task?_leaveCall ht] at hfind
        cases hfind
        rw [hframes] at htyped
        exact World.vouches_of_cutShort? htyped hshort _
      next =>
        cases ht.symm.trans hfind
        exact World.vouches_of_resting hrest

/-- What the polled task knows is right after each of its steps. -/
theorem Vouched.step (h : m.Vouched) (hm : m.CallsFit) (hnext : m.next .step = some after) :
    after.Vouched := by
  intro t' ht'
  have hfollows := hm.next hnext
  have hat' := hfollows.fits.polled ht'
  have hlasts := next_lasts hnext
  obtain ⟨world, polling⟩ := m
  obtain ⟨polling, u, rfl, hstep, rfl⟩ := next_step hnext
  have hfind' : u.task? polling.task = some t' := ht'
  cases ht : world.task? polling.task with
  | none =>
      rw [World.step?, ht] at hstep
      cases hstep
  | some t =>
      have hat := hm.polled (t := t) ht
      have hvouches := h t ht
      obtain ⟨-, hid⟩ := World.task?_mem ht
      obtain ⟨-, hid'⟩ := World.task?_mem hfind'
      rw [hid] at hat hvouches
      rw [hid'] at hat' ⊢
      exact hvouches.step hat ht hstep hlasts hfollows.grows hat' hfind'

/-- A look at the time limits leaves the polled task in its wait, or releases the configuration. -/
theorem vouched_expire (hnext : m.next .expire = some after) : after.Vouched := by
  intro t' ht'
  obtain ⟨world, polling⟩ := m
  obtain ⟨task, rfl, hstep, rfl⟩ := next_expire hnext
  have hfind : (world.expireDrain task).task? task = some t' := ht'
  obtain rfl := (World.task?_mem hfind).2
  cases ht : world.task? t'.id with
  | none =>
      simp only [World.expireDrain, ht] at hfind
      cases hfind
  | some t =>
      obtain ⟨wait, hwait, -⟩ := World.wait_of_step?_eq_none hstep ht
      simp only [World.expireDrain, ht] at hfind
      split at hfind
      next =>
        cases ht.symm.trans hfind
        exact World.vouches_of_resting (by rw [hwait]; rfl)
      next cut hcut =>
        obtain ⟨-, td, deadline, -, hframe, hcontrol⟩ := World.overdue?_eq_some hcut
        rw [hframe] at hfind
        have hleft : (world.leaveCall t'.id t.control cut).task? t'.id = some t' := hfind
        rw [World.task?_leaveCall ht] at hleft
        cases hleft
        rw [hcontrol]
        trivial

theorem Vouched.next (h : m.Vouched) (hm : m.CallsFit) (hnext : m.next move = some after) :
    after.Vouched := by
  -- after a move from outside no task is polled
  have houtside : ∀ u : World, Vouched ⟨u, none⟩ := fun u t ht => by cases ht
  cases next_transition hnext with
  | poll => exact vouched_poll hm hnext
  | step => exact h.step hm hnext
  | expire => exact vouched_expire hnext
  | _ => exact houtside _

/-- At every reachable moment what the polled task knows of an endpoint is right. -/
theorem Reachable.vouched (h : m.Reachable) : m.Vouched := by
  have hboth : m.CallsFit ∧ m.Vouched :=
    h.induction (P := fun m => m.CallsFit ∧ m.Vouched) ⟨start_callsFit, fun _ ht => by cases ht⟩
      fun ⟨hfit, hvouched⟩ hnext => ⟨(hfit.next hnext).fits, hvouched.next hfit hnext⟩
  exact hboth.2

/-- A teardown that ends well has its endpoint closed and without tasks. -/
theorem Reachable.clears {t : Task} {td : Teardown} {client : ClientId} (h : m.Reachable)
    (hhanded : .teardown t.id td ∈ m.world.history client) (hends : m.Ends t (.ok .closed)) :
    m.world.Clears td := by
  obtain ⟨ht, hcontrol, hframes⟩ := hends
  have hvouches := h.vouched t ht
  rw [hcontrol, hframes] at hvouches
  exact hvouches client td (World.mem_history.1 hhanded) rfl

end Moment

end Remoting
