import Remoting.Proofs.Fate

/-!
# What an operation returns

A call that executes an operation goes on as long as its task is inside the frame that holds the
ticket, and `Lives` says that meanwhile the record of the handler shows the fate of the call. A move
either keeps the task inside, or the ticket is gone for good; and if it lets the call return, then
with the outcome of its fate, `Led`. This module has the moves of other tasks, and those moves of
the task that are no steps: a poll that finds calls to be cut short, a time limit that is over, and
the end of the task.
-/

namespace Remoting

namespace World

variable {w u : World} {task : TaskId} {frames : List Frame} {id : OperationId}

/-- Around a call that is left no call is to be cut short. -/
theorem cut?_outer {cut : Cut} (h : w.cut? frames = some cut) : w.cut? cut.outer = none := by
  induction frames generalizing cut with
  | nil => cases h
  | cons frame frames ih =>
      rw [cut?] at h
      split at h
      next cut' hcut =>
        cases h
        show w.cut? cut'.outer = none
        exact ih hcut
      next hrest =>
        obtain ⟨control, -, rfl⟩ := Option.map_eq_some_iff.1 h
        exact hrest

/-- A task goes on after a part of a step. -/
theorem task?_goto_of_deals {lines : LogLine → Prop} {handler : HandlerId} {deeds : List Deed}
    {t : Task} (h : Deals lines handler deeds w u) (ht : w.task? task = some t) (control : Control)
    (frames : List Frame) :
    (u.goto task control frames).task? task = some { t with control, frames } := by
  rw [task?_goto, h.task? ht]
  rfl

/-- An operation without a channel ends with the answer of its source. -/
theorem startOperation_of_ne {reply : Reply} (h : ∀ channel, reply ≠ .ok (.handle channel))
    (w : World) (task : TaskId) (handler : HandlerId) (id : OperationId) (routine : Routine)
    (client : Option ClientId) (frames : List Frame) :
    w.startOperation task handler id routine client reply frames =
      w.endExecute task handler id reply frames := by
  unfold startOperation
  split
  next channel => exact absurd rfl (h channel)
  next => rfl

theorem task?_endExecute {t : Task} (ht : w.task? task = some t) (handler : HandlerId)
    (id : OperationId) (reply : Reply) (frames : List Frame) :
    (w.endExecute task handler id reply frames).task? task =
      some { t with control := .reply reply, frames } := by
  have hend : Deals (fun _ => True) 0 _ w _ := deals_endOperation w handler id
  exact task?_goto_of_deals hend ht _ _

section Binding

variable {handler : HandlerId} {channel : ChannelId}

theorem bind_not_mem_dropDeeds {frames : List Frame} :
    .bind id channel ∉ dropDeeds handler frames := by
  intro hmem
  rw [dropDeeds_eq] at hmem
  obtain ⟨other, -, heq⟩ := List.mem_map.1 hmem
  cases heq

theorem bind_not_mem_deedsAt {own : HandlerId} {deed : Deed} (h : deed ≠ .bind id channel) :
    .bind id channel ∉ deedsAt own handler [deed] := by
  intro hmem
  unfold deedsAt at hmem
  split at hmem
  · exact h (List.mem_singleton.1 hmem).symm
  · cases hmem

theorem of_mem_suppliedDeeds {own : HandlerId} {other : OperationId} {reply : Reply}
    (h : .bind id channel ∈ suppliedDeeds handler own other reply) :
    own = handler ∧ other = id ∧ reply = .ok (.handle channel) := by
  have hend : .bind id channel ∉ deedsAt own handler [.finish other] :=
    bind_not_mem_deedsAt fun heq => by cases heq
  cases reply with
  | error e => exact absurd h hend
  | ok value =>
      cases value with
      | handle channel' =>
          simp only [suppliedDeeds, deedsAt] at h
          split at h
          next hown =>
            cases List.mem_singleton.1 h
            exact ⟨hown, rfl, rfl⟩
          next => cases h
      | _ => exact absurd h hend

theorem bind_not_mem_openedDeeds {other : OperationId} {site : Site} :
    .bind id channel ∉ w.openedDeeds handler other site := by
  unfold openedDeeds
  split
  · exact bind_not_mem_deedsAt fun heq => by cases heq
  · exact List.not_mem_nil

/-- A step notes a channel only for the operation whose source has just delivered it. -/
theorem of_mem_stepDeeds {control : Control}
    (h : .bind id channel ∈ w.stepDeeds handler control frames) : ∃ routine client outer,
      control = .reply (.ok (.handle channel)) ∧
        frames = .supply handler id routine client :: outer := by
  cases control with
  | call call =>
      cases call with
      | execute => exact absurd h (bind_not_mem_deedsAt nofun)
      | operate script site => exact (tells_operateDeeds handler site script _ h).elim
      | teardown td stage => exact (tells_stageDeeds w handler td stage _ h).elim
      | _ => cases h
  | wait wait => cases h
  | reply reply =>
      cases frames with
      | nil => cases h
      | cons frame frames =>
          cases frame with
          | creation client endpoint plan =>
              exact (tells_resumeDeeds_creation w handler client endpoint plan reply _ h).elim
          | supply own other routine client =>
              obtain ⟨rfl, rfl, rfl⟩ := of_mem_suppliedDeeds h
              exact ⟨routine, client, frames, rfl, rfl⟩
          | opening => exact absurd h bind_not_mem_openedDeeds
          | operation => exact absurd h (bind_not_mem_deedsAt nofun)
          | _ => cases h
  | unwind | lost =>
      cases frames with
      | nil => cases h
      | cons frame frames => exact absurd h bind_not_mem_dropDeeds

end Binding

/-- What a task does after it has dropped a frame. -/
theorem task?_dropFrame {t : Task} (ht : w.task? task = some t) (frame : Frame) (control : Control)
    (frames : List Frame) : ((w.dropFrame task frame).goto task control frames).task? task =
      some { t with control, frames } := by
  have hdrop : Deals (fun _ => True) 0 _ w _ :=
    deals_dropFrame w task frame fun _ _ _ => fun _ => trivial
  exact task?_goto_of_deals hdrop ht control frames

/-- What a task does after it has left a call. -/
theorem task?_leaveCall {t : Task} (ht : w.task? task = some t) (control : Control) (cut : Cut) :
    (w.leaveCall task control cut).task? task =
      some { t with control := cut.control, frames := cut.outer } := by
  have hcontrol : Deals (fun _ => True) 0 _ w _ := deals_dropControl w task control
  have hinner := hcontrol.trans (deals_dropFrames (w.dropControl task control) task cut.inner
    fun _ _ _ => fun _ => trivial)
  unfold leaveCall
  dsimp only
  split
  next => exact task?_goto_of_deals hinner ht _ _
  next =>
    exact task?_goto_of_deals
      (hinner.trans (deals_dropFrame _ task cut.frame fun _ _ _ => fun _ => trivial)) ht _ _

/-- What a task does after the look at what was cut short has found a call. -/
theorem task?_cutTask {t : Task} {cut : Cut} (ht : w.task? task = some t)
    (hcut : w.cut? t.frames = some cut) :
    (w.cutTask task).task? task = some { t with control := cut.control, frames := cut.outer } := by
  rw [cutTask_eq_leaveCall ht hcut]
  exact task?_leaveCall ht t.control cut

/-- What a task does after its wait for operations has come to its time limit. -/
theorem task?_expireDrain {t : Task} {cut : Cut} (ht : w.task? task = some t)
    (hdue : w.overdue? t.frames = some cut) : (w.expireDrain task).task? task =
      some { t with control := cut.control, frames := cut.outer } := by
  obtain ⟨-, td, deadline, -, hframe, -⟩ := overdue?_eq_some hdue
  simp only [expireDrain, ht, hdue, hframe]
  exact task?_leaveCall ht t.control cut

/-- A task ends for good. -/
theorem hasEnded_finishTask {t : Task} (ht : w.task? task = some t) (finish : Finish) :
    (w.finishTask task finish).HasEnded task := by
  simp only [finishTask, ht]
  simp [HasEnded, finish?, signal, noteFinish]

/-- A task that was stopped has ended. -/
theorem hasEnded_abortTask {t : Task} (ht : w.task? task = some t) :
    (w.abortTask task).HasEnded task := by
  have hdrop : Deals (fun _ => True) 0 _ w _ := deals_dropTask w t fun _ _ _ => fun _ => trivial
  simp only [abortTask, ht]
  exact hasEnded_finishTask (hdrop.task? ht) _

end World

/-- How far a call has got whose task is inside the given frame. -/
inductive Execution.Stage (e : Execution) (fate : Fate) : Frame → Prop where
  | supplying (answer : fate.answer = none) (calls : fate.calls = []) (runs : fate.runs = []) :
      e.Stage fate e.supplying
  | opening {channel : ChannelId} (answer : fate.answer = some (.ok (.handle channel)))
      (calls : fate.calls = [(.call (.operate e.routine.call (e.site channel)), none)])
      (runs : fate.runs = []) : e.Stage fate (e.opening channel)
  | running {channel : ChannelId} (answer : fate.answer = some (.ok (.handle channel)))
      (calls : fate.calls = [(.call (.operate e.routine.call (e.site channel)), none)])
      (bar : fate.bar = none)
      (runs : fate.runs = [.call (.operate e.routine.body (e.site channel))]) :
      e.Stage fate e.running

theorem Execution.Stage.ticket? {e : Execution} {fate : Fate} {frame : Frame}
    (h : e.Stage fate frame) : frame.ticket? e.handler = some e.operation := by
  cases h with
  | supplying => exact e.ticket?_supplying
  | opening => exact e.ticket?_opening _
  | running => exact e.ticket?_running

theorem Execution.Stage.orderly {e : Execution} {fate : Fate} {frame : Frame}
    (h : e.Stage fate frame) : fate.Orderly e := by
  cases h with
  | supplying answer calls runs => exact .inl ⟨calls, runs⟩
  | opening answer calls runs => exact .inr ⟨_, by rw [Fate.channel, answer], calls, .inl runs⟩
  | running answer calls bar runs =>
      exact .inr ⟨_, by rw [Fate.channel, answer], calls, .inr ⟨bar, runs⟩⟩

/-- What the handler is told does not change how far a call has got. -/
theorem Execution.Stage.foldl_hear {e : Execution} {fate : Fate} {frame : Frame}
    (h : e.Stage fate frame) (deeds : List Deed) :
    e.Stage (deeds.foldl Fate.hear fate) frame := by
  cases h with
  | supplying answer calls runs =>
      exact .supplying (by simpa using answer) (by simpa using calls) (by simpa using runs)
  | opening answer calls runs =>
      exact .opening (by simpa using answer) (by simpa using calls) (by simpa using runs)
  | running answer calls bar runs =>
      exact .running (by simpa using answer) (by simpa using calls) (by simpa using bar)
        (by simpa using runs)

namespace Moment

variable {m after last : Moment} {move : Move} {moves : List Move} {e : Execution} {fate : Fate}
  {task : TaskId} {t t' : Task} {inner : List Frame} {frame : Frame} {reply : Reply}

/-- The polled task is about to make the call. -/
def Begins (m : Moment) (e : Execution) : Prop :=
  ∃ t, m.polled? = some t ∧ t.id = e.task ∧
    t.control = .call (.execute e.handler e.routine e.client) ∧ t.frames = e.outer

/-- The task of the call is inside the frame that holds the ticket of its operation. -/
def Inside (m : Moment) (e : Execution) : Prop :=
  ∃ t inner frame, m.world.task? e.task = some t ∧ t.frames = inner ++ frame :: e.outer ∧
    frame.ticket? e.handler = some e.operation

/-- The call returns with a move. -/
structure Answers (m after : Moment) (e : Execution) (move : Move) (reply : Reply) : Prop where
  next : m.next move = some after
  inside : m.Inside e
  replies : ∃ t, after.world.task? e.task = some t ∧ t.control = .reply reply ∧ t.frames = e.outer

/-- A task that is inside a call with the given frames around it leaves the call without a reply: it
is stopped, or a call around it is left. -/
def Drops (m : Moment) (move : Move) (task : TaskId) (outer : List Frame) : Prop :=
  move = .abort task ∨ ∃ t cut, m.world.task? task = some t ∧
    (∃ middle, outer = middle ++ cut.frame :: cut.outer) ∧
    (move = .poll task ∧ m.world.cut? t.frames = some cut ∨
      move = .expire ∧ m.actor? move = some task ∧ m.world.overdue? t.frames = some cut)

/-- The call goes on, and the record of the handler shows its fate. -/
structure Lives (m : Moment) (e : Execution) (fate : Fate) (t : Task) (inner : List Frame)
    (frame : Frame) : Prop where
  task : m.world.task? e.task = some t
  frames : t.frames = inner ++ frame :: e.outer
  stage : e.Stage fate frame
  due : fate.due = none
  shows : ∃ tracker, m.world.tracker? e.handler = some tracker ∧
    tracker.Shows e.operation fate.channel fate.reason

/-- What is known of the handler that a call goes on at. -/
structure Watched (m : Moment) (e : Execution) : Prop where
  fits : m.CallsFit
  tracks : m.Tracks e.handler

theorem Watched.next (h : m.Watched e) (hnext : m.next move = some after)
    (hspares : move.Spares e.handler) : after.Watched e :=
  ⟨(h.fits.next hnext).fits, h.tracks.next h.fits hnext hspares⟩

/-- A task that is inside of a call does not have the frames around it. -/
theorem frames_ne (inner : List Frame) (frame : Frame) (outer : List Frame) :
    inner ++ frame :: outer ≠ outer := by
  intro heq
  have hlength := congrArg List.length heq
  simp only [List.length_append, List.length_cons] at hlength
  omega

section Living

variable (h : m.Lives e fate t inner frame)
include h

theorem Lives.held : e.operation ∈ World.held e.handler t.frames :=
  World.mem_held_of_inside h.frames h.stage.ticket?

/-- No other frame of the task holds the ticket. -/
theorem Lives.unheld (hwatched : m.Watched e) :
    e.operation ∉ World.held e.handler inner ∧ e.operation ∉ World.held e.handler e.outer :=
  hwatched.tracks.unheld hwatched.fits h.task h.frames h.stage.ticket?

/-- No other task holds the ticket. -/
theorem Lives.not_mem_ticketsBut (hwatched : m.Watched e) :
    e.operation ∉ m.world.ticketsBut e.task e.handler := by
  have hnodup := hwatched.tracks.held_nodup hwatched.fits h.task
  exact List.disjoint_of_nodup_append hnodup h.held

/-- What the handler knows of the operation as a reason to cut the call short. -/
theorem Lives.cancellation? (hwatched : m.Watched e) :
    m.world.cancellation? e.handler e.operation = fate.reason := by
  obtain ⟨tracker, htracker, hshows⟩ := h.shows
  have hpaired := (hwatched.tracks.present htracker).1
  obtain ⟨cell, hcell, rfl⟩ := Option.map_eq_some_iff.1 htracker
  rw [World.cancellation?, hcell]
  exact hshows.cancellation? hpaired

theorem Lives.cutShort? (hwatched : m.Watched e) :
    m.world.cutShort? frame = fate.reason.map fun reason => .reply (.error reason) := by
  rw [← h.cancellation? hwatched]
  cases h.stage <;> rfl

end Living

/-! ## Moves that keep the task inside -/

/-- A channel is noted only for the operation whose source has just delivered it. -/
theorem of_mem_deeds {handler : HandlerId} {id : OperationId} {channel : ChannelId}
    (h : .bind id channel ∈ m.deeds handler move) : move = .step ∧
      ∃ t routine client frames, m.polled? = some t ∧ t.control = .reply (.ok (.handle channel)) ∧
        t.frames = .supply handler id routine client :: frames := by
  have hcut : ∀ {cut? : Option World.Cut}, .bind id channel ∉ cutDeeds handler cut? := by
    intro cut? hmem
    cases cut? with
    | none => cases hmem
    | some cut => exact World.bind_not_mem_dropDeeds hmem
  cases move with
  | act action => exact (World.tells_actDeeds m.world handler action _ h).elim
  | abort task =>
      simp only [Moment.deeds] at h
      split at h
      · exact absurd h World.bind_not_mem_dropDeeds
      · cases h
  | poll task => exact absurd h hcut
  | expire => exact absurd h hcut
  | step =>
      simp only [Moment.deeds] at h
      split at h
      next t hpolled =>
        obtain ⟨routine, client, frames, hcontrol, hframes⟩ := World.of_mem_stepDeeds h
        exact ⟨rfl, t, routine, client, frames, hpolled, hcontrol, hframes⟩
      next => cases h
  | _ => cases h

/-- A move that keeps the task inside and adds nothing to the fate of the call but what the handler
is told. -/
theorem Lives.stays (h : m.Lives e fate t inner frame) (hwatched : m.Watched e)
    (hnext : m.next move = some after) (hspares : move.Spares e.handler)
    (hnotes : m.notes after e fate move = fate) {inner' : List Frame}
    (ht' : after.world.task? e.task = some t') (hframes' : t'.frames = inner' ++ frame :: e.outer)
    (hbind : ∀ channel, .bind e.operation channel ∉ m.deeds e.handler move) :
    after.Lives e (m.follow after e move fate) t' inner' frame := by
  have hturns := next_turns hnext hspares
  have hwatched' := hwatched.next hnext hspares
  obtain ⟨tracker, htracker, hshows⟩ := h.shows
  obtain ⟨active, horderly⟩ := hwatched.fits.exists_callsFit
  obtain ⟨active', horderly'⟩ := hwatched'.fits.exists_callsFit
  obtain ⟨ids, others, tracker', ids', hbefore, hspends, hafter⟩ :=
    (hturns.shift horderly.nodup horderly'.nodup).present htracker
  have htracker' : after.world.tracker? e.handler = some tracker' := by
    rw [hturns.tracker_eq htracker, hspends.tracker_eq]
  obtain ⟨hpaired, hperm⟩ := hwatched.tracks.present htracker
  -- the task still holds the ticket
  have hheld := World.mem_held_of_inside hframes' h.stage.ticket?
  have hmem : e.operation ∈ tracker'.tickets :=
    (hwatched'.tracks.present htracker').2.subset
      (mem_tickets (World.task?_mem ht').1 hheld)
  have hshows' := hspends.shows hpaired (hbefore.symm.trans hperm) hmem hbind hshows
  unfold follow
  rw [hnotes]
  refine ⟨ht', hframes', ?_, ?_, tracker', htracker', ?_⟩
  · exact h.stage.foldl_hear _
  · rw [Fate.due_foldl_hear, h.due]
  · rw [Fate.channel_foldl_hear]
    exact hshows'

/-! ## Moves of other tasks -/

/-- The polled task is the one that makes a step. -/
theorem of_polled? (ht : m.polled? = some t) : t ∈ m.world.tasks ∧ m.actor? .step = some t.id := by
  obtain ⟨expired, polls, hfind⟩ := exists_polling ht
  refine ⟨(World.task?_mem hfind).1, ?_⟩
  rw [actor?, polls]
  rfl

theorem hasEnded_of_abort (hnext : m.next (.abort task) = some after)
    (ht : m.world.task? task = some t) : after.world.HasEnded task := by
  rw [next_abort hnext]
  exact World.hasEnded_abortTask ht

/-- A task that is stopped is gone. -/
theorem task?_of_abort (hfit : m.CallsFit) (hnext : m.next (.abort task) = some after)
    (ht : m.world.task? task = some t) : after.world.task? task = none := by
  obtain ⟨active, horderly⟩ := (hfit.next hnext).fits.exists_callsFit
  have hended := hasEnded_of_abort hnext ht
  cases ht' : after.world.task? task with
  | none => rfl
  | some t' =>
      obtain ⟨hmem, rfl⟩ := World.task?_mem ht'
      rw [World.HasEnded, horderly.unfinished hmem] at hended
      cases hended

/-- A step of another task adds nothing to the fate of a call. -/
theorem Lives.notes_step (h : m.Lives e fate t inner frame) (hwatched : m.Watched e)
    (hnext : m.next .step = some after) (hactor : m.actor? .step ≠ some e.task) :
    m.notes after e fate .step = fate := by
  have hwatched' := hwatched.next hnext (Move.spares_step _)
  have ht' := next_task? hnext h.task hactor
  obtain ⟨polling, u, hpolling, -, rfl⟩ := next_step hnext
  simp only [notes]
  split
  next t₁ t₂ hpolled hpolled' =>
    obtain ⟨hmem, hactor₁⟩ := of_polled? hpolled
    obtain ⟨hmem', hactor₂⟩ := of_polled? hpolled'
    have hne : t₂.id ≠ e.task := by
      rintro hid
      refine hactor ?_
      rw [actor?, hpolling]
      exact hactor₂.trans (congrArg some hid)
    have hunheld : e.operation ∉ World.held e.handler t₂.frames := fun hheld =>
      hne (hwatched'.tracks.holder_eq hwatched'.fits ht' h.held hmem' hheld)
    rw [Execution.sees_of_ne, e.own_isOpening.entered_eq_nil t₁ hunheld,
      e.own_isRunning.entered_eq_nil t₁ hunheld, List.map_nil, List.append_nil, List.append_nil]
    · intro frame₁ hhead hticket
      exact hactor (hactor₁.trans (congrArg some
        (hwatched.tracks.holder_eq hwatched.fits h.task h.held hmem
          (World.mem_held_of_head? hhead hticket))))
  next => rfl

/-- A move in which the task of a call neither goes on nor is stopped keeps the call going. -/
theorem Lives.bystander (h : m.Lives e fate t inner frame) (hwatched : m.Watched e)
    (hnext : m.next move = some after) (hspares : move.Spares e.handler)
    (hactor : m.actor? move ≠ some e.task) :
    after.Lives e (m.follow after e move fate) t inner frame := by
  refine h.stays hwatched hnext hspares ?_ (next_task? hnext h.task hactor) h.frames ?_
  · cases move with
    | poll task => exact if_neg fun heq => hactor (congrArg some heq)
    | step => exact h.notes_step hwatched hnext hactor
    | _ => rfl
  · intro channel hmem
    obtain ⟨rfl, t', routine, client, frames, hpolled, -, hframes⟩ := of_mem_deeds hmem
    obtain ⟨hmem', hactor'⟩ := of_polled? hpolled
    exact hactor (hactor'.trans (congrArg some
      (hwatched.tracks.holder_eq hwatched.fits h.task h.held hmem'
        (World.mem_held_of_head? (congrArg List.head? hframes) (if_pos rfl)))))

/-! ## Moves of the task -/

/-- A call goes on, or its operation has ended. -/
def Followed (m : Moment) (e : Execution) (fate : Fate) : Prop :=
  (∃ t inner frame, m.Lives e fate t inner frame) ∨
    m.Past e.handler e.operation ∧ fate.Orderly e

/-- What a move makes of a call: it goes on, or its operation has ended; and if it returns, it
returns the outcome of its fate. -/
structure Led (m after : Moment) (e : Execution) (move : Move) (fate : Fate) : Prop where
  goes : after.Followed e (m.follow after e move fate)
  answers : ∀ {reply}, m.Answers after e move reply →
    (m.follow after e move fate).outcome = some reply

/-- A call whose task stays inside does not return. -/
theorem Lives.led (h : after.Lives e (m.follow after e move fate) t inner frame) :
    m.Led after e move fate where
  goes := .inl ⟨t, inner, frame, h⟩
  answers hanswers := by
    obtain ⟨t', ht', -, hframes⟩ := hanswers.replies
    cases h.task.symm.trans ht'
    exact absurd (h.frames.symm.trans hframes) (frames_ne inner frame e.outer)

/-- An operation has ended once its task no longer holds the ticket. -/
theorem Lives.past (h : m.Lives e fate t inner frame) (hwatched : m.Watched e)
    (hnext : m.next move = some after) (hspares : move.Spares e.handler)
    (hactor : m.actor? move = some e.task)
    (hgone : ∀ {t'}, after.world.task? e.task = some t' →
      e.operation ∉ World.held e.handler t'.frames) : after.Past e.handler e.operation := by
  obtain ⟨tracker, htracker, hshows⟩ := h.shows
  have hpaired := (hwatched.tracks.present htracker).1
  have hfresh := hpaired.fresh (hshows.mem hpaired)
  have hwatched' := hwatched.next hnext hspares
  obtain ⟨active, horderly⟩ := hwatched'.fits.exists_callsFit
  have hnone := next_not_mem_tickets hnext hspares hactor (h.not_mem_ticketsBut hwatched)
    fun {t'} ht' hid => hgone (hid ▸ horderly.task?_eq ht')
  have htracker' := (next_turns hnext hspares).tracker_eq htracker
  refine ⟨_, htracker', fun hid => hnone ?_,
    Nat.lt_of_lt_of_le hfresh (Tracker.nextId_foldl tracker _)⟩
  exact (hwatched'.tracks.present htracker').2.symm.subset hid

/-- Two ways to take a stack of frames apart at a frame. -/
theorem split_cases {inner' outer outer' : List Frame} {frame' : Frame}
    (h : inner ++ frame :: outer = inner' ++ frame' :: outer') :
    (∃ middle, outer = middle ++ frame' :: outer') ∨ (frame = frame' ∧ outer = outer') ∨
      ∃ middle, outer' = middle ++ frame :: outer := by
  rcases List.append_eq_append_iff.1 h with ⟨middle, -, heq⟩ | ⟨middle, -, heq⟩
  · cases middle with
    | nil =>
        rw [List.nil_append, List.cons.injEq] at heq
        exact .inr (.inl heq)
    | cons first middle =>
        rw [List.cons_append, List.cons.injEq] at heq
        exact .inl ⟨middle, heq.2⟩
  · cases middle with
    | nil =>
        rw [List.nil_append, List.cons.injEq] at heq
        exact .inr (.inl ⟨heq.1.symm, heq.2.symm⟩)
    | cons first middle =>
        rw [List.cons_append, List.cons.injEq] at heq
        exact .inr (.inr ⟨middle, heq.2⟩)

/-- A call around it is left, and the call with it. -/
theorem Lives.left (h : m.Lives e fate t inner frame) (hwatched : m.Watched e)
    (hnext : m.next move = some after) (hspares : move.Spares e.handler)
    (hactor : m.actor? move = some e.task) (hnotes : (m.notes after e fate move).Orderly e)
    {middle outer : List Frame} {frame' : Frame} (houter : e.outer = middle ++ frame' :: outer)
    (ht' : after.world.task? e.task = some t') (hframes' : t'.frames = outer) :
    m.Led after e move fate where
  goes := by
    refine .inr ⟨h.past hwatched hnext hspares hactor fun {t''} ht'' hheld => ?_,
      Fate.orderly_foldl_hear hnotes _⟩
    cases ht'.symm.trans ht''
    refine (h.unheld hwatched).2 ?_
    rw [hframes'] at hheld
    rw [houter, World.held, List.filterMap_append]
    obtain ⟨frame'', hframe'', hticket⟩ := List.mem_filterMap.1 hheld
    exact List.mem_append_right _
      (World.mem_held (List.mem_cons_of_mem _ hframe'') hticket)
  answers hanswers := by
    obtain ⟨t'', ht'', -, hframes''⟩ := hanswers.replies
    cases ht'.symm.trans ht''
    rw [hframes', houter] at hframes''
    exact absurd hframes''.symm (frames_ne middle frame' outer)

/-- A poll finds a call that was cancelled, and it returns the reason; a call that was not cancelled
goes on. -/
theorem Lives.poll (h : m.Lives e fate t inner frame) (hwatched : m.Watched e)
    (hnext : m.next (.poll e.task) = some after) : m.Led after e (.poll e.task) fate := by
  have hbind : ∀ channel, .bind e.operation channel ∉ m.deeds e.handler (.poll e.task) := by
    intro channel hmem
    cases (of_mem_deeds hmem).1
  have hnotes : m.notes after e fate (.poll e.task) = { fate with due := fate.reason } := if_pos rfl
  have hsame : fate.reason = none → m.notes after e fate (.poll e.task) = fate := by
    intro hreason
    have hdue : fate.reason = fate.due := hreason.trans h.due.symm
    exact hnotes.trans (congrArg (fun due => { fate with due }) hdue)
  have horderly : (m.notes after e fate (.poll e.task)).Orderly e := hnotes ▸ h.stage.orderly
  have hshort := h.cutShort? hwatched
  have hworld : after.world = m.world.cutTask e.task := by rw [(next_poll hnext).2]
  have hmem : frame ∈ t.frames := by
    rw [h.frames]
    exact List.mem_append_right _ (List.mem_cons_self ..)
  cases hcut : m.world.cut? t.frames with
  | none =>
      rw [World.cutShort?_of_cut?_eq_none hcut hmem] at hshort
      have hreason : fate.reason = none := by simpa using hshort.symm
      refine (h.stays hwatched hnext (Move.spares_poll _ _) (hsame hreason) ?_ h.frames hbind).led
      rw [hworld, World.cutTask_eq_self h.task hcut]
      exact h.task
  | some cut =>
      obtain ⟨hframes, hcontrol⟩ := World.cut?_eq_some hcut
      have ht' : after.world.task? e.task =
          some { t with control := cut.control, frames := cut.outer } :=
        hworld ▸ World.task?_cutTask h.task hcut
      rcases split_cases (hframes.symm.trans h.frames) with
        ⟨middle, houter⟩ | ⟨rfl, houter⟩ | ⟨middle, houter⟩
      · -- what is cut short is inside the call
        have hnone : m.world.cutShort? frame = none :=
          World.cutShort?_of_cut?_eq_none (World.cut?_outer hcut)
            (houter ▸ List.mem_append_right _ (List.mem_cons_self ..))
        rw [hnone] at hshort
        have hreason : fate.reason = none := by simpa using hshort.symm
        exact (h.stays hwatched hnext (Move.spares_poll _ _) (hsame hreason) ht' houter hbind).led
      · -- the call itself is cut short
        rw [hcontrol] at hshort
        obtain ⟨reason, hreason, hreply⟩ := Option.map_eq_some_iff.1 hshort.symm
        refine ⟨.inr ⟨h.past hwatched hnext (Move.spares_poll _ _) rfl fun {t''} ht'' => ?_,
          Fate.orderly_foldl_hear horderly _⟩, fun {reply} hanswers => ?_⟩
        · cases ht'.symm.trans ht''
          rw [houter]
          exact (h.unheld hwatched).2
        · obtain ⟨t'', ht'', hcontrol'', -⟩ := hanswers.replies
          cases ht'.symm.trans ht''
          cases hreply.trans hcontrol''
          rw [follow, Fate.outcome_foldl_hear, hnotes, Fate.outcome, hreason]
      · exact h.left hwatched hnext (Move.spares_poll _ _) rfl horderly houter ht' rfl

/-- A wait that is left because its time limit is over is inside the call or around it. -/
theorem Lives.expire (h : m.Lives e fate t inner frame) (hwatched : m.Watched e)
    (hnext : m.next .expire = some after) (hactor : m.actor? .expire = some e.task) :
    m.Led after e .expire fate := by
  have hbind : ∀ channel, .bind e.operation channel ∉ m.deeds e.handler .expire := by
    intro channel hmem
    cases (of_mem_deeds hmem).1
  have hworld : after.world = m.world.expireDrain e.task := by
    obtain ⟨-, -, rfl⟩ := expire_of_actor? hnext hactor
    rfl
  cases hcut : m.world.overdue? t.frames with
  | none =>
      refine (h.stays hwatched hnext (Move.spares_expire _) rfl ?_ h.frames hbind).led
      rw [hworld, World.expireDrain_eq_self h.task hcut]
      exact h.task
  | some cut =>
      obtain ⟨hframes, td, deadline, -, hframe, -⟩ := World.overdue?_eq_some hcut
      have ht' : after.world.task? e.task =
          some { t with control := cut.control, frames := cut.outer } :=
        hworld ▸ World.task?_expireDrain h.task hcut
      rcases split_cases (hframes.symm.trans h.frames) with
        ⟨middle, houter⟩ | ⟨rfl, -⟩ | ⟨middle, houter⟩
      · exact (h.stays hwatched hnext (Move.spares_expire _) rfl ht' houter hbind).led
      · have hticket := h.stage.ticket?
        rw [hframe] at hticket
        cases hticket
      · exact h.left hwatched hnext (Move.spares_expire _) hactor h.stage.orderly houter ht' rfl

/-- A call whose task is stopped does not return. -/
theorem Lives.abort (h : m.Lives e fate t inner frame) (hwatched : m.Watched e)
    (hnext : m.next (.abort e.task) = some after) : m.Led after e (.abort e.task) fate := by
  have hgone : after.world.task? e.task = none := task?_of_abort hwatched.fits hnext h.task
  refine ⟨.inr ⟨h.past hwatched hnext (Move.spares_abort _ _) rfl fun ht' => ?_,
    Fate.orderly_foldl_hear h.stage.orderly _⟩, fun hanswers => ?_⟩
  · cases hgone.symm.trans ht'
  · obtain ⟨t', ht', -⟩ := hanswers.replies
    cases hgone.symm.trans ht'

end Moment

end Remoting
