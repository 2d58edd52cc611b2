import Mathlib.Data.List.Nodup
import Remoting.Proofs.CallsFit

/-!
# Steps inside a call

`Acting` is kept by a step of the polled task. This module has what all such steps share: a task
goes on with `goto`, which touches no other task, and a step that holds no lock keeps what the
enclosing calls hold. `At` is the situation before a step, `Advances` what a step leads to, and
`At.inner` the rule for steps that leave the clients alone.
-/

namespace Remoting.World

variable {w v u : World} {task : TaskId} {job : Job} {control control' : Control}
  {frames frames' : List Frame} {active : Option TaskId}

/-! ## Alike worlds -/

theorem interrupted_congr (hcancelled : u.cancelled = w.cancelled) (t : Teardown) :
    u.interrupted t = w.interrupted t := by
  rw [interrupted, interrupted, hcancelled]

theorem Parts.interruption (h : Parts w u) (hlength : u.endpoints.length = w.endpoints.length)
    (endpoint : EndpointId) : u.interruption endpoint = w.interruption endpoint := by
  rw [World.interruption, World.interruption, h.endpointName hlength]

theorem Parts.awaitPanic? (h : Parts w u) (hlength : u.endpoints.length = w.endpoints.length)
    (endpoint : EndpointId) : u.awaitPanic? endpoint = w.awaitPanic? endpoint := by
  rw [World.awaitPanic?, World.awaitPanic?, h.endpointPlan? hlength]

/-- The verdict on a teardown depends on nothing but tokens and endpoints. -/
theorem Parts.verdict (h : Parts w u) (hlength : u.endpoints.length = w.endpoints.length)
    (hcancelled : u.cancelled = w.cancelled) (t : Teardown) : u.verdict t = w.verdict t := by
  simp only [World.verdict, interrupted_congr hcancelled, h.interruption hlength,
    h.awaitPanic? hlength]

theorem Alike.verdict (h : Alike w u) (t : Teardown) : u.verdict t = w.verdict t :=
  h.toParts.verdict h.endpoints h.cancelled t

theorem Delivers.alike {reply : Reply} (h : Alike w u) (hdelivers : w.Delivers task job reply) :
    u.Delivers task job reply := by
  unfold Delivers at hdelivers ⊢
  split at hdelivers
  · rwa [h.owner]
  · exact h.finished hdelivers
  · exact hdelivers
  · exact fun channel hreply => (hdelivers channel hreply).grow h.grows
  · exact fun channel hreply => (hdelivers channel hreply).grow h.grows
  · exact hdelivers
  · exact hdelivers
  · rwa [h.toParts.awaitPanic? h.endpoints]
  · exact hdelivers
  · exact hdelivers
  · rwa [h.verdict, h.state, history_of_contacts h.contacts]
  · trivial

theorem Unwinds.alike {content : Panic} (h : Alike w u) (hunwinds : w.Unwinds job content) :
    u.Unwinds job content := by
  unfold Unwinds at hunwinds ⊢
  split at hunwinds
  · exact h.finished hunwinds
  · exact hunwinds
  · exact hunwinds
  · exact hunwinds
  · exact hunwinds
  · rwa [h.toParts.awaitPanic? h.endpoints]
  · trivial

theorem Typed.alike (h : Alike w u) (htyped : w.Typed task frames control) :
    u.Typed task frames control := by
  cases control with
  | call | wait => exact Stack.alike h htyped
  | reply reply =>
      obtain ⟨job, hstack, hdelivers⟩ := htyped
      exact ⟨job, hstack.alike h, hdelivers.alike h⟩
  | unwind content =>
      obtain ⟨job, hstack, hunwinds⟩ := htyped
      exact ⟨job, hstack.alike h, hunwinds.alike h⟩
  | lost =>
      obtain ⟨joined, hstack, hfinish⟩ := htyped
      exact ⟨joined, hstack.alike h, h.finished hfinish⟩

theorem Active.alike (hactive : w.Active task control frames) (h : Alike w u) :
    u.Active task control frames where
  typed := hactive.typed.alike h
  callHolds hhold := (hactive.callHolds hhold).alike h
  frameHolds hframe hhold := (hactive.frameHolds hframe hhold).alike h
  verdict hcontrol := by
    rw [h.verdict]
    exact hactive.verdict hcontrol
  uninterrupted hframe := by
    rw [interrupted_congr h.cancelled]
    exact hactive.uninterrupted hframe

/-! ## Going on -/

theorem task?_mem {t : Task} (h : w.task? task = some t) : t ∈ w.tasks ∧ t.id = task :=
  ⟨List.mem_of_find?_eq_some h, by simpa using List.find?_some h⟩

/-- A task is found by its number. -/
theorem Orderly.task?_eq (h : w.Orderly active) {t : Task} (ht : t ∈ w.tasks) :
    w.task? t.id = some t := by
  cases hfind : w.task? t.id with
  | none =>
      have hnone := List.find?_eq_none.1 hfind t ht
      simp at hnone
  | some other =>
      obtain ⟨hother, hid⟩ := task?_mem hfind
      exact congrArg some (List.inj_on_of_nodup_map h.nodup hother ht hid)

theorem mem_goto {t : Task} : t ∈ (w.goto task control frames).tasks ↔
    ∃ t' ∈ w.tasks, t = if t'.id = task then { t' with control, frames } else t' := by
  simp only [goto, List.mem_map, eq_comm]

theorem goto_id (t : Task) :
    (if t.id = task then { t with control, frames } else t).id = t.id := by
  split <;> rfl

theorem task?_goto (w : World) (task : TaskId) (control : Control) (frames : List Frame) :
    (w.goto task control frames).task? task =
      (w.task? task).map fun t => { t with control, frames } := by
  simp only [World.task?, goto, List.find?_map]
  have hcomp : ((fun t : Task => decide (t.id = task)) ∘
      fun t : Task => if t.id = task then { t with control, frames } else t) =
        fun t => decide (t.id = task) := by
    funext t
    simp only [Function.comp, goto_id]
  rw [hcomp]
  cases hfind : w.tasks.find? fun t => decide (t.id = task) with
  | none => rfl
  | some t =>
      have hid : t.id = task := by simpa using List.find?_some hfind
      simp [hid]

theorem alike_goto (w : World) (task : TaskId) (control : Control) (frames : List Frame) :
    Alike w (w.goto task control frames) := by
  refine
    { toParts := .of_eq rfl rfl rfl
      nextTask := Nat.le_refl _
      started := ?_
      finished := fun h => h
      ended := .inr
      contacts := rfl
      lock := fun _ => rfl
      state := fun _ => rfl
      closed := fun _ => rfl
      cancelled := rfl
      endpoints := rfl }
  rintro other (⟨t, ht, hid⟩ | hfinish)
  · exact .inl ⟨_, mem_goto.2 ⟨t, ht, rfl⟩, (goto_id t).trans hid⟩
  · exact .inr hfinish

theorem Orderly.goto (h : w.Orderly (some task)) (control : Control) (frames : List Frame) :
    (w.goto task control frames).Orderly (some task) where
  nodup := by
    have hids : (w.goto task control frames).tasks.map Task.id = w.tasks.map Task.id := by
      simp only [World.goto, List.map_map]
      exact List.map_congr_left fun t _ => goto_id t
    rw [hids]
    exact h.nodup
  fresh ht := by
    obtain ⟨t', ht', rfl⟩ := mem_goto.1 ht
    rw [goto_id]
    exact h.fresh ht'
  unfinished ht := by
    obtain ⟨t', ht', rfl⟩ := mem_goto.1 ht
    rw [goto_id]
    exact h.unfinished ht'
  past := h.past
  handed := h.handed
  unheld ht hhanded := by
    obtain ⟨t', ht', rfl⟩ := mem_goto.1 ht
    rw [goto_id] at hhanded
    have hhandle := h.unheld ht' hhanded
    split <;> exact hhandle
  -- a task that rests is not the one that goes on
  resting ht hactive := by
    obtain ⟨t', ht', rfl⟩ := mem_goto.1 ht
    rw [goto_id] at hactive ⊢
    have hne : t'.id ≠ task := fun heq => hactive (congrArg some heq.symm)
    rw [if_neg hne]
    obtain ⟨hrest, hok⟩ := h.resting ht' hactive
    refine ⟨hrest, hok.of_respects ?_ hactive (h.fresh ht') hrest⟩
    exact (alike_goto w task control frames).respects _

theorem CallsFit.goto (h : w.CallsFit (some task)) (control : Control) (frames : List Frame) :
    (w.goto task control frames).CallsFit (some task) where
  toOrderly := h.toOrderly.goto control frames
  clients client := (h.clients client).alike (alike_goto w task control frames)

/-- The polled task goes on in a world whose calls fit. -/
theorem Acting.goto (h : w.CallsFit (some task)) (hactive : w.Active task control frames) :
    (w.goto task control frames).Acting task where
  fits := h.goto control frames
  active ht := by
    rw [task?_goto, Option.map_eq_some_iff] at ht
    obtain ⟨t, -, rfl⟩ := ht
    exact hactive.alike (alike_goto w task control frames)

/-- A quiet change keeps what is known while a task is polled. -/
theorem Acting.quiet (h : w.Acting task) (hquiet : Quiet w u) : u.Acting task where
  fits := h.fits.quiet hquiet
  active {t} ht := by
    have ht' : w.task? task = some t := by rwa [World.task?, hquiet.same.tasks] at ht
    exact (h.active ht').alike hquiet.toAlike

/-! ## Steps -/

/-- The polled task is about to do something, on the frames around it. -/
structure At (w : World) (task : TaskId) (control : Control) (frames : List Frame) : Prop where
  fits : w.CallsFit (some task)
  active : w.Active task control frames
  present : ∃ t, w.task? task = some t ∧ t.control = control ∧ t.frames = frames

/-- What a step of the polled task leads to. -/
structure Advances (task : TaskId) (w u : World) : Prop extends Continues w u where
  acting : u.Acting task

theorem Acting.at (h : w.Acting task) {t : Task} (ht : w.task? task = some t) :
    w.At task t.control t.frames :=
  ⟨h.fits, h.active ht, t, ht, rfl, rfl⟩

theorem At.fresh (h : w.At task control frames) : task < w.nextTask := by
  obtain ⟨t, ht, -, -⟩ := h.present
  obtain ⟨hmem, hid⟩ := task?_mem ht
  exact hid ▸ h.fits.fresh hmem

/-- The polled task has not ended. -/
theorem At.unfinished (h : w.At task control frames) : w.finish? task = none := by
  obtain ⟨t, ht, -, -⟩ := h.present
  obtain ⟨hmem, hid⟩ := task?_mem ht
  exact hid ▸ h.fits.unfinished hmem

theorem At.typed (h : w.At task control frames) : w.Typed task frames control :=
  h.active.typed

/-- What a part of a step leads to: the invariant may not hold of the polled task yet. -/
structure Proceeds (task : TaskId) (w u : World) : Prop extends Continues w u where
  fits : u.CallsFit (some task)

theorem Proceeds.trans (h : Proceeds task w v) (h' : Proceeds task v u) : Proceeds task w u :=
  ⟨h.toContinues.trans h'.toContinues, h'.fits⟩

theorem Quiet.proceeds (h : Quiet w u) (hfit : w.CallsFit (some task)) : Proceeds task w u :=
  ⟨h.continues, hfit.quiet h⟩

/-- A step that ends with what the task does next. -/
theorem Advances.goto (h : Proceeds task w v) (hactive : v.Active task control frames) :
    Advances task w (v.goto task control frames) where
  toContinues := h.toContinues.trans (alike_goto v task control frames).continues
  acting := .goto h.fits hactive

/-- A task that holds no lock with the calls it is inside of. -/
theorem Active.outer (htyped : w.Typed task frames control)
    (hframes : ∀ frame ∈ frames, frame.hold? = none)
    (hholds : ∀ {client hold}, control.hold? = some (client, hold) → w.Held task client hold)
    (hcontrol : ∀ t outcome, control ≠ .call (.teardown t (.finish outcome))) :
    w.Active task control frames where
  typed := htyped
  callHolds := hholds
  frameHolds hframe hsome := by
    rw [hframes _ hframe] at hsome
    cases hsome
  verdict hcall := absurd hcall (hcontrol _ _)
  uninterrupted hframe := by
    have hnone := hframes _ hframe
    cases hnone

/-- A task that holds no lock. -/
theorem Active.free (htyped : w.Typed task frames control)
    (hframes : ∀ frame ∈ frames, frame.hold? = none) (hcontrol : control.hold? = none) :
    w.Active task control frames := by
  refine .outer htyped hframes (fun hsome => ?_) fun t outcome hcall => ?_
  · rw [hcontrol] at hsome
    cases hsome
  · rw [hcall] at hcontrol
    cases hcontrol

/-- A task that holds one lock, with the innermost call that it is inside of. -/
theorem Active.holding {frame : Frame} {client : ClientId} {hold : Hold}
    (htyped : w.Typed task (frame :: frames) control) (hcontrol : control.hold? = none)
    (hhold : frame.hold? = some (client, hold)) (hheld : w.Held task client hold)
    (hframes : ∀ frame ∈ frames, frame.hold? = none)
    (huninterrupted : ∀ {t}, frame = .teardown t .endpoint → w.interrupted t = false) :
    w.Active task control (frame :: frames) where
  typed := htyped
  callHolds hsome := by
    rw [hcontrol] at hsome
    cases hsome
  frameHolds hframe hsome := by
    rcases List.mem_cons.1 hframe with rfl | hframe
    · rw [hhold] at hsome
      cases hsome
      exact hheld
    · rw [hframes _ hframe] at hsome
      cases hsome
  verdict hcall := by
    rw [hcall] at hcontrol
    cases hcontrol
  uninterrupted hframe := by
    rcases List.mem_cons.1 hframe with heq | hframe
    · exact huninterrupted heq.symm
    · have hnone := hframes _ hframe
      cases hnone

/-- A step that leaves the clients alone and takes no lock. -/
theorem At.inner (h : w.At task control frames) (hquiet : Quiet w v) (hhold : control'.hold? = none)
    (hframes : ∀ frame ∈ frames', frame ∈ frames ∨ frame.hold? = none)
    (htyped : w.Typed task frames' control') :
    Advances task w (v.goto task control' frames') := by
  have hkept : ∀ {frame client hold}, frame ∈ frames' → frame.hold? = some (client, hold) →
      frame ∈ frames := by
    intro frame client hold hframe hsome
    rcases hframes frame hframe with hframe | hnone
    · exact hframe
    · rw [hnone] at hsome
      cases hsome
  refine .goto (hquiet.proceeds h.fits) (Active.alike ?_ hquiet.toAlike)
  exact
    { typed := htyped
      callHolds := fun hsome => by
        rw [hhold] at hsome
        cases hsome
      frameHolds := fun hframe hsome => h.active.frameHolds (hkept hframe hsome) hsome
      verdict := fun hcontrol => by
        rw [hcontrol] at hhold
        cases hhold
      uninterrupted := fun hframe => h.active.uninterrupted (hkept hframe rfl) }

/-- A step that keeps the enclosing calls. -/
theorem At.stay (h : w.At task control frames) (hquiet : Quiet w v) (hhold : control'.hold? = none)
    (htyped : w.Typed task frames control') : Advances task w (v.goto task control' frames) :=
  h.inner hquiet hhold (fun _ hframe => .inl hframe) htyped

/-- A step into an inner call. -/
theorem At.push {frame : Frame} (h : w.At task control frames) (hquiet : Quiet w v)
    (hhold : control'.hold? = none) (hframe : frame.hold? = none)
    (htyped : w.Typed task (frame :: frames) control') :
    Advances task w (v.goto task control' (frame :: frames)) := by
  refine h.inner hquiet hhold (fun other hother => ?_) htyped
  rcases List.mem_cons.1 hother with rfl | hother
  · exact .inr hframe
  · exact .inl hother

/-- A step out of an inner call. -/
theorem At.pop {frame : Frame} (h : w.At task control (frame :: frames)) (hquiet : Quiet w v)
    (hhold : control'.hold? = none) (htyped : w.Typed task frames control') :
    Advances task w (v.goto task control' frames) :=
  h.inner hquiet hhold (fun _ hother => .inl (List.mem_cons_of_mem _ hother)) htyped

/-- What a reply to the innermost frame says about the call that has replied. -/
theorem At.reply {reply : Reply} {frame : Frame} (h : w.At task (.reply reply) (frame :: frames)) :
    ∃ job, w.Awaits frame job ∧ w.Stack task frame.job frames ∧ w.Delivers task job reply := by
  obtain ⟨job, ⟨hawaits, hstack⟩, hdelivers⟩ := h.typed
  exact ⟨job, hawaits, hstack, hdelivers⟩

end Remoting.World
