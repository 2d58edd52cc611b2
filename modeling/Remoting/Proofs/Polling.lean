import Remoting.Proofs.Stepping

/-!
# Cutting calls short

A poll begins with a look at what has been cut short, and ends with a look at what is overdue. What
a task drops with a call that it leaves, it gives back: a lock that it holds or waits for, and the
ticket of an operation. A teardown is never dropped with a call that is left; it goes on at the
stage after its wait, with the lock.
-/

namespace Remoting.World

variable {w v u : World} {task : TaskId} {control : Control} {frame : Frame}
  {frames inner outer : List Frame} {job : Job} {t : Teardown} {pause : Teardown.Pause}

/-! ## Where a call is left -/

/-- The outermost call that is to be cut short, and nothing around it is. -/
theorem cut?_eq_some {cut : Cut} (h : w.cut? frames = some cut) :
    frames = cut.inner ++ cut.frame :: cut.outer ∧ w.cutShort? cut.frame = some cut.control := by
  induction frames generalizing cut with
  | nil => cases h
  | cons frame frames ih =>
      rw [cut?] at h
      split at h
      next cut' hcut =>
        cases h
        obtain ⟨hframes, hshort⟩ := ih hcut
        exact ⟨congrArg (frame :: ·) hframes, hshort⟩
      next =>
        obtain ⟨control, hshort, rfl⟩ := Option.map_eq_some_iff.1 h
        exact ⟨rfl, hshort⟩

/-- Where nothing is to be cut short, no frame is. -/
theorem cutShort?_of_cut?_eq_none (h : w.cut? frames = none) (hframe : frame ∈ frames) :
    w.cutShort? frame = none := by
  induction frames with
  | nil => cases hframe
  | cons first frames ih =>
      rw [cut?] at h
      split at h
      next => cases h
      next hrest =>
        rcases List.mem_cons.1 hframe with rfl | hframe
        · simpa using h
        · exact ih hrest hframe

/-- An overdue wait is the wait of a teardown for operations. -/
theorem overdue?_eq_some {cut : Cut} (h : w.overdue? frames = some cut) :
    frames = cut.inner ++ cut.frame :: cut.outer ∧ ∃ t deadline, deadline ≤ w.now ∧
      cut.frame = .teardown t (.drain deadline) ∧ cut.control = .call (.teardown t .release) := by
  induction frames generalizing cut with
  | nil => cases h
  | cons frame frames ih =>
      unfold overdue? at h
      split at h
      next t deadline =>
        split at h
        next hle =>
          cases h
          exact ⟨rfl, t, deadline, hle, rfl, rfl⟩
        next => cases h
      next =>
        obtain ⟨cut', hcut, rfl⟩ := Option.map_eq_some_iff.1 h
        obtain ⟨hframes, hdue⟩ := ih hcut
        exact ⟨congrArg (frame :: ·) hframes, hdue⟩

theorem cutTask_eq_leaveCall {t : Task} {cut : Cut} (ht : w.task? task = some t)
    (hcut : w.cut? t.frames = some cut) : w.cutTask task = w.leaveCall task t.control cut := by
  simp only [cutTask, ht, hcut]

theorem cutTask_eq_self {t : Task} (ht : w.task? task = some t) (hcut : w.cut? t.frames = none) :
    w.cutTask task = w := by
  simp only [cutTask, ht, hcut]

theorem expireDrain_eq_self {t : Task} (ht : w.task? task = some t)
    (hdue : w.overdue? t.frames = none) : w.expireDrain task = w := by
  simp only [expireDrain, ht, hdue]

/-! ## Dropping calls -/

theorem relocks_dropControl (w : World) (task : TaskId) (control : Control) :
    Relocks task w (w.dropControl task control) := by
  unfold dropControl
  split
  · exact relocks_leaveLock w task _
  · exact relocks_leaveLock w task _
  · exact relocks_leaveLock w task _
  · exact relocks_leaveLock w task _
  · exact (Quiet.refl w).relocks task

/-- A frame of any call but a teardown gives back at most a lock or a ticket. -/
theorem relocks_dropFrame (hframe : ∀ t pause, frame ≠ .teardown t pause) (w : World)
    (task : TaskId) : Relocks task w (w.dropFrame task frame) := by
  cases frame with
  | creation | channel => exact relocks_leaveLock w task _
  | teardown t pause => exact absurd rfl (hframe t pause)
  | _ => exact (quiet_dropFrame rfl w task).relocks task

theorem relocks_dropFrames (hframes : ∀ frame ∈ frames, ∀ t pause, frame ≠ .teardown t pause)
    (w : World) (task : TaskId) : Relocks task w (w.dropFrames task frames) := by
  induction frames generalizing w with
  | nil => exact (Quiet.refl w).relocks task
  | cons frame frames ih =>
      refine (relocks_dropFrame (hframes frame (List.mem_cons_self ..)) w task).trans ?_
      exact ih (fun other hother => hframes other (List.mem_cons_of_mem _ hother)) _

theorem quiet_dropFrames (hframes : ∀ frame ∈ frames, frame.hold? = none) (w : World)
    (task : TaskId) : Quiet w (w.dropFrames task frames) := by
  induction frames generalizing w with
  | nil => exact .refl w
  | cons frame frames ih =>
      refine (quiet_dropFrame (hframes frame (List.mem_cons_self ..)) w task).trans ?_
      exact ih (fun other hother => hframes other (List.mem_cons_of_mem _ hother)) _

theorem dropFrames_append (w : World) (task : TaskId) (inner outer : List Frame) :
    w.dropFrames task (inner ++ outer) = (w.dropFrames task inner).dropFrames task outer :=
  List.foldl_append ..

/-! ## Inside a teardown -/

/-- A teardown is the outermost call of its task. -/
theorem Stack.outer_eq_nil (hstack : w.Stack task job (inner ++ .teardown t pause :: outer)) :
    outer = [] := by
  obtain ⟨job', hstack'⟩ := hstack.outer
  exact hstack'.2.eq_nil fun _ hwaiter => hwaiter

/-- Inside a teardown no lock is held or waited for. -/
theorem Stack.inner_unheld (hstack : w.Stack task job (inner ++ .teardown t pause :: outer)) :
    job.isOuter = false ∧ (∀ client, job ≠ .wait (.lock client)) ∧ (∀ t', job ≠ .teardown t') ∧
      ∀ frame ∈ inner, frame.hold? = none := by
  have hmem : Frame.teardown t pause ∈ inner ++ .teardown t pause :: outer :=
    List.mem_append_right _ (List.mem_cons_self ..)
  have houter : ∀ {job' frames}, w.Stack task job' frames → Frame.teardown t pause ∈ frames →
      job'.isOuter = false := by
    intro job' frames hstack' hmem'
    cases hcase : job'.isOuter with
    | false => rfl
    | true => cases hstack'.hold?_eq_none hcase _ hmem'
  refine ⟨houter hstack hmem, ?_, ?_, fun frame hframe => ?_⟩
  · rintro client rfl
    generalize inner ++ .teardown t pause :: outer = frames at hstack hmem
    cases frames with
    | nil => cases hmem
    | cons first rest =>
        rcases hstack.1.waiter with rfl | ⟨interrupt, rfl⟩ | ⟨error, rfl⟩ <;>
          cases houter hstack.2 (by simpa using hmem)
  · rintro t' rfl
    have hnil := hstack.eq_nil fun _ hwaiter => hwaiter
    rw [hnil] at hmem
    cases hmem
  · have hpairs := hstack.pairwise
    rw [List.pairwise_append] at hpairs
    rcases hpairs.2.2 frame hframe _ (List.mem_cons_self ..) with hnone | hnone
    · exact hnone
    · cases hnone

/-- Dropping what is inside a teardown changes no lock. -/
theorem quiet_dropInside (hcontrol : control.resting = true)
    (htyped : w.Typed task (inner ++ .teardown t pause :: outer) control) :
    Quiet w ((w.dropControl task control).dropFrames task inner) := by
  have hquiet : Quiet w (w.dropControl task control) ∧ ∀ frame ∈ inner, frame.hold? = none := by
    cases control with
    | call call =>
        obtain ⟨houter, -, hteardown, hinner⟩ := Stack.inner_unheld htyped
        refine ⟨?_, hinner⟩
        cases call with
        | connect | openChannel => cases houter
        | teardown t' stage => exact absurd rfl (hteardown t')
        | _ => exact .refl w
    | wait wait =>
        obtain ⟨-, hlock, -, hinner⟩ := Stack.inner_unheld htyped
        refine ⟨?_, hinner⟩
        cases wait with
        | lock client => exact absurd rfl (hlock client)
        | _ => exact .refl w
    | _ => cases hcontrol
  exact hquiet.1.trans (quiet_dropFrames hquiet.2 _ _)

/-- Whatever a task does next, its frames fit together. -/
theorem Typed.stack (htyped : w.Typed task frames control) : ∃ job, w.Stack task job frames := by
  cases control with
  | call call => exact ⟨call.job, htyped⟩
  | wait wait => exact ⟨.wait wait, htyped⟩
  | reply | unwind =>
      obtain ⟨job, hstack, -⟩ := htyped
      exact ⟨job, hstack⟩
  | lost =>
      obtain ⟨joined, hstack, -⟩ := htyped
      exact ⟨_, hstack⟩

/-! ## Leaving calls -/

/-- A teardown that is cut short in a wait goes on at its next stage. -/
theorem leaveTeardown {stage : Teardown.Stage} {t' : Task} (hfit : w.CallsFit (some task))
    (ht : w.task? task = some t') (hrest : t'.control.resting = true)
    (hok : w.TaskOk task t'.control t'.frames)
    (hframes : t'.frames = inner ++ .teardown t pause :: outer)
    (hbefore : ∀ {calls}, t.Before (.pause pause) calls → t.Before (.stage stage) calls)
    (hverdict : ∀ outcome, stage = .finish outcome → outcome = w.verdict t) :
    Advances task w (w.leaveCall task t'.control
      ⟨inner, .teardown t pause, .call (.teardown t stage), outer⟩) := by
  obtain ⟨hmem, hid⟩ := task?_mem ht
  have htyped := hok.typed
  rw [hframes] at htyped
  have hquiet := quiet_dropInside hrest htyped
  obtain ⟨job, hstack⟩ := htyped.stack
  obtain ⟨job', hawaits, hstack'⟩ := hstack.outer
  have hheld : w.Held task t.client (.teardown t (.pause pause)) :=
    hok.frameHolds (hframes ▸ List.mem_append_right _ (List.mem_cons_self ..)) rfl
  obtain ⟨hproceeds, hheld'⟩ := hfit.tear (hid ▸ hfit.unfinished hmem) hheld
    (hquiet.work t.client) (hquiet.state _) (hquiet.closed _)
    (by rw [List.append_nil]; exact hbefore hheld.2.2.2)
  refine hproceeds.enterStage (hstack'.alike hquiet.toAlike) hheld' fun outcome heq => ?_
  rw [hquiet.toAlike.verdict]
  exact hverdict outcome heq

/-- An operation that was cancelled ends with the reason. -/
theorem leaveOperation {t' : Task} {reason : Error} (hfit : w.CallsFit (some task))
    (ht : w.task? task = some t') (hok : w.TaskOk task t'.control t'.frames)
    (hframes : t'.frames = inner ++ frame :: outer)
    (hhold : frame.hold? = none) (hjob : frame.job = .execute) :
    Advances task w
      (w.leaveCall task t'.control ⟨inner, frame, .reply (.error reason), outer⟩) := by
  obtain ⟨hmem, hid⟩ := task?_mem ht
  have htyped := hok.typed
  rw [hframes] at htyped
  obtain ⟨job, hstack⟩ := htyped.stack
  obtain ⟨job', hawaits, hstack'⟩ := hstack.outer
  rw [hjob] at hstack'
  -- a teardown is outermost, so it is not inside the operation
  have hinner : ∀ other ∈ inner, ∀ t pause, other ≠ .teardown t pause := by
    rintro other hother t pause rfl
    obtain ⟨first, last, rfl⟩ := List.append_of_mem hother
    rw [List.append_assoc, List.cons_append] at hstack
    have hnil := hstack.outer_eq_nil
    simp at hnil
  have hlocks := ((relocks_dropControl w task t'.control).trans
    (relocks_dropFrames hinner _ task)).trans ((quiet_dropFrame hhold _ task).relocks task)
  have hproceeds := hlocks.proceeds hfit
  have hleave : w.leaveCall task t'.control ⟨inner, frame, .reply (.error reason), outer⟩ =
      (((w.dropControl task t'.control).dropFrames task inner).dropFrame task frame).goto task
        (.reply (.error reason)) outer := by
    cases frame with
    | teardown => cases hhold
    | _ => rfl
  rw [hleave]
  refine .goto hproceeds (.free ⟨.execute, ?_, trivial⟩ (hstack'.hold?_eq_none rfl) rfl)
  exact hstack'.grow hproceeds.toGrows (hid ▸ hfit.fresh hmem)

/-! ## Polls -/

/-- A task that is not polled becomes the polled one if nothing cuts it short. -/
theorem TaskOk.active (h : w.TaskOk task control frames) (hrest : control.resting = true)
    (huninterrupted : ∀ {t}, Frame.teardown t .endpoint ∈ frames → w.interrupted t = false) :
    w.Active task control frames where
  toTaskOk := h
  verdict hcall := by
    rw [hcall] at hrest
    cases hrest
  uninterrupted := huninterrupted

theorem Advances.refl (h : w.Acting task) : Advances task w w :=
  ⟨(Quiet.refl w).continues, h⟩

theorem Advances.quiet (h : Advances task w v) (hquiet : Quiet v u) : Advances task w u :=
  ⟨h.toContinues.trans hquiet.continues, h.acting.quiet hquiet⟩

/-- The look at what was cut short begins a poll. -/
theorem CallsFit.cutTask (h : w.CallsFit none) (task : TaskId) : Advances task w (w.cutTask task) :=
    by
  have hfit := h.weaken task
  unfold World.cutTask
  split
  next ht =>
    refine .refl ⟨hfit, fun ht' => ?_⟩
    rw [ht] at ht'
    cases ht'
  next t ht =>
    obtain ⟨hmem, hid⟩ := task?_mem ht
    obtain ⟨hrest, hok⟩ := h.resting hmem nofun
    rw [hid] at hok
    split
    next cut hcut =>
      -- what is cut short is an operation or a wait of a teardown
      obtain ⟨hframes, hshort⟩ := cut?_eq_some hcut
      obtain ⟨inner, frame, control, outer⟩ := cut
      dsimp only at hframes hshort
      have hleave : ∀ {handler operation}, frame.hold? = none → frame.job = .execute →
          (w.cancellation? handler operation).map (fun reason => .reply (.error reason)) =
            some control →
          Advances task w (w.leaveCall task t.control ⟨inner, frame, control, outer⟩) := by
        intro handler operation hhold hjob hcancelled
        obtain ⟨reason, -, rfl⟩ := Option.map_eq_some_iff.1 hcancelled
        exact leaveOperation hfit ht hok hframes hhold hjob
      unfold cutShort? at hshort
      split at hshort
      next => exact hleave rfl rfl hshort
      next => exact hleave rfl rfl hshort
      next => exact hleave rfl rfl hshort
      next =>
        split at hshort
        next =>
          cases hshort
          exact leaveTeardown hfit ht hrest hok hframes (fun hcalls => ⟨false, hcalls⟩)
            fun _ heq => by cases heq
        next => cases hshort
      next td =>
        split at hshort
        next hinterrupted =>
          cases hshort
          refine leaveTeardown hfit ht hrest hok hframes
            (fun ⟨skipped, hcalls⟩ => ⟨skipped, false, hcalls⟩) fun outcome heq => ?_
          cases heq
          rw [verdict]
          cases td.endpoint with
          | none => rfl
          | some endpoint => exact (if_pos hinterrupted).symm
        next => cases hshort
      next => cases hshort
    next hcut =>
      refine .refl ⟨hfit, fun ht' => ?_⟩
      rw [ht] at ht'
      cases ht'
      refine hok.active hrest fun {td} hframe => ?_
      have hshort := cutShort?_of_cut?_eq_none hcut hframe
      simpa [cutShort?] using hshort

/-- A task that makes no step waits, if it is there. -/
theorem wait_of_step?_eq_none (hstep : w.step? task = none) {t : Task}
    (ht : w.task? task = some t) : ∃ wait, t.control = .wait wait ∧ w.ready? task wait = none := by
  unfold step? at hstep
  rw [ht] at hstep
  dsimp only at hstep
  split at hstep <;> first | cases hstep | skip
  next wait hcontrol => exact ⟨wait, hcontrol, by simpa using hstep⟩

/-- The look at what is overdue comes when the polled task waits. -/
theorem Acting.expireDrain (h : w.Acting task) (hstep : w.step? task = none) :
    Advances task w (w.expireDrain task) := by
  unfold World.expireDrain
  split
  next => exact .refl h
  next t ht =>
    split
    next => exact .refl h
    next cut hcut =>
      obtain ⟨hframes, td, deadline, -, hframe, hcontrol⟩ := overdue?_eq_some hcut
      obtain ⟨wait, hwait, -⟩ := wait_of_step?_eq_none hstep ht
      obtain ⟨inner, frame, control, outer⟩ := cut
      dsimp only at hframes hframe hcontrol ⊢
      subst hframe hcontrol
      refine Advances.quiet ?_ (quiet_drainTimeout _ td.client)
      exact leaveTeardown h.fits ht (by rw [hwait]; rfl) (h.active ht).toTaskOk hframes
        (fun hcalls => ⟨false, hcalls⟩) fun _ heq => by cases heq

/-- When the polled task waits, or has ended, no task is left out of the invariant. -/
theorem Acting.rest (h : w.Acting task) (hstep : w.step? task = none) : w.CallsFit none where
  toOrderly :=
    { h.fits.toOrderly with
      resting := fun {t} ht _ => by
        by_cases hactive : some task = some t.id
        · obtain rfl := Option.some.inj hactive
          have ht' := h.fits.task?_eq ht
          obtain ⟨wait, hwait, -⟩ := wait_of_step?_eq_none hstep ht'
          exact ⟨by rw [hwait]; rfl, (h.active ht').toTaskOk⟩
        · exact h.fits.resting ht hactive }
  clients := h.fits.clients

end Remoting.World
