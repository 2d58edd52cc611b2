import Remoting.Proofs.Acting

/-!
# The life of tasks

What a start, the drop of a handle and the end of a task keep. A started task waits for its first
poll and holds no lock. A task that ends leaves nothing behind that another task relies on; if it
ran a teardown, what it ends with is what its client has noted.
-/

namespace Remoting.World

variable {w v u : World} {task : TaskId} {active : Option TaskId}

/-- The ends of tasks after one more. -/
theorem finish?_noteFinish (w : World) (task : TaskId) (finish : Finish) (other : TaskId) :
    (w.noteFinish task finish).finish? other =
      if other = task then some finish else w.finish? other := by
  simp only [World.finish?, noteFinish, List.lookup_cons]
  by_cases heq : other = task
  · rw [if_pos heq, beq_iff_eq.2 heq]
  · rw [if_neg heq, beq_false_of_ne heq]

/-! ## Starting -/

theorem alike_addTask (w : World) (control : Control) (frames : List Frame)
    (handle : Option ClientId) (owner : Option EndpointId) :
    Alike w (w.addTask control frames handle owner).2 where
  toParts := .of_eq rfl rfl rfl
  nextTask := Nat.le_succ _
  started hstarted := by
    rcases hstarted with ⟨t, ht, hid⟩ | hfinish
    · exact .inl ⟨t, List.mem_append_left _ ht, hid⟩
    · exact .inr hfinish
  finished hfinish := hfinish
  ended hfinish := .inr hfinish
  contacts := rfl
  lock _ := rfl
  state _ := rfl
  closed _ := rfl
  cancelled := rfl
  endpoints := rfl

/-- A new task that waits for its first poll keeps the tasks in order. -/
theorem Orderly.new (h : w.Orderly active) (hrespects : Respects active w u) {t : Task}
    (hid : t.id = w.nextTask) (htasks : u.tasks = w.tasks ++ [t])
    (hnext : u.nextTask = w.nextTask + 1) (hfinished : u.finished = w.finished)
    (hhandle : t.handle = none ∨ ∀ {client td}, (client, .teardown t.id td) ∉ u.contacts)
    (hrest : t.control.resting = true) (hok : u.TaskOk t.id t.control t.frames) :
    u.Orderly active where
  nodup := by
    rw [htasks, List.map_append, List.nodup_append]
    refine ⟨h.nodup, List.nodup_singleton _, fun id hmem other hother => ?_⟩
    obtain ⟨t', ht', rfl⟩ := List.mem_map.1 hmem
    obtain rfl := List.mem_singleton.1 hother
    rw [hid]
    exact Nat.ne_of_lt (h.fresh ht')
  fresh ht := by
    rw [htasks, List.mem_append, List.mem_singleton] at ht
    rw [hnext]
    rcases ht with ht | rfl
    · exact Nat.lt_succ_of_lt (h.fresh ht)
    · rw [hid]
      exact Nat.lt_succ_self _
  unfinished {other} ht := by
    rw [htasks, List.mem_append, List.mem_singleton] at ht
    rw [finish?, hfinished]
    rcases ht with ht | rfl
    · exact h.unfinished ht
    · cases hfinish : w.finish? other.id with
      | none => exact hfinish
      | some finish => exact absurd (h.past hfinish) (by rw [hid]; exact Nat.lt_irrefl _)
  past hfinish := by
    rw [finish?, hfinished] at hfinish
    rw [hnext]
    exact Nat.lt_succ_of_lt (h.past hfinish)
  handed hhanded := by
    rcases hrespects.handed hhanded with hhanded | ⟨-, hlt⟩
    · rw [hnext]
      exact Nat.lt_succ_of_lt (h.handed hhanded)
    · exact hlt
  unheld ht hhanded := by
    rw [htasks, List.mem_append, List.mem_singleton] at ht
    rcases ht with ht | rfl
    · rcases hrespects.handed hhanded with hhanded | ⟨hle, -⟩
      · exact h.unheld ht hhanded
      · exact absurd (h.fresh ht) (Nat.not_lt.2 hle)
    · rcases hhandle with hhandle | hnone
      · exact hhandle
      · exact absurd hhanded hnone
  resting ht hactive := by
    rw [htasks, List.mem_append, List.mem_singleton] at ht
    rcases ht with ht | rfl
    · obtain ⟨hrest, hok⟩ := h.resting ht hactive
      exact ⟨hrest, hok.of_respects hrespects hactive (h.fresh ht) hrest⟩
    · exact ⟨hrest, hok⟩

/-- A new task that is lost at once keeps the tasks in order. -/
theorem Orderly.lose (h : w.Orderly active) (hrespects : Respects active w u)
    (htasks : u.tasks = w.tasks) (hnext : u.nextTask = w.nextTask + 1)
    (hfinished : u.finished = (w.noteFinish w.nextTask .aborted).finished) : u.Orderly active where
  nodup := by
    rw [htasks]
    exact h.nodup
  fresh ht := by
    rw [htasks] at ht
    rw [hnext]
    exact Nat.lt_succ_of_lt (h.fresh ht)
  unfinished {t} ht := by
    rw [htasks] at ht
    rw [finish?, hfinished]
    refine (finish?_noteFinish w _ _ _).trans ?_
    rw [if_neg (Nat.ne_of_lt (h.fresh ht))]
    exact h.unfinished ht
  past {other finish} hfinish := by
    rw [finish?, hfinished] at hfinish
    have hfinish := (finish?_noteFinish w _ _ _).symm.trans hfinish
    rw [hnext]
    split at hfinish
    next heq =>
      rw [heq]
      exact Nat.lt_succ_self _
    next => exact Nat.lt_succ_of_lt (h.past hfinish)
  handed hhanded := by
    rcases hrespects.handed hhanded with hhanded | ⟨-, hlt⟩
    · rw [hnext]
      exact Nat.lt_succ_of_lt (h.handed hhanded)
    · exact hlt
  unheld ht hhanded := by
    rw [htasks] at ht
    rcases hrespects.handed hhanded with hhanded | ⟨hle, -⟩
    · exact h.unheld ht hhanded
    · exact absurd (h.fresh ht) (Nat.not_lt.2 hle)
  resting ht hactive := by
    rw [htasks] at ht
    obtain ⟨hrest, hok⟩ := h.resting ht hactive
    exact ⟨hrest, hok.of_respects hrespects hactive (h.fresh ht) hrest⟩

/-- The start of a call that holds no lock keeps the tasks in order. -/
theorem Orderly.addTask (h : w.Orderly active) {call : Call} {frames : List Frame}
    (hhold : (Control.call call).hold? = none) (hframes : ∀ frame ∈ frames, frame.hold? = none)
    (hstack : w.Stack w.nextTask call.job frames) (handle : Option ClientId)
    (owner : Option EndpointId) :
    (w.addTask (.call call) frames handle owner).2.Orderly active := by
  have halike := alike_addTask w (.call call) frames handle owner
  have hnone : ∀ {client td}, (client, .teardown w.nextTask td) ∉
      (w.addTask (.call call) frames handle owner).2.contacts := fun hhanded =>
    Nat.lt_irrefl _ (h.handed hhanded)
  refine h.new (t := ⟨w.nextTask, .call call, frames, handle, owner⟩) (halike.respects active) rfl
    rfl rfl rfl (.inr hnone) ?_ ?_
  · cases call with
    | teardown => cases hhold
    | _ => rfl
  · exact
      { typed := Stack.alike halike hstack
        callHolds := fun hsome => by
          rw [hhold] at hsome
          cases hsome
        frameHolds := fun hframe hsome => by
          rw [hframes _ hframe] at hsome
          cases hsome }

/-- A number that no task has yet was not handed a teardown. -/
theorem Orderly.rooted (h : w.Orderly active) {job : Job} (hjob : job ≠ .spawn false) :
    w.Rooted w.nextTask job :=
  ⟨hjob, fun _ _ hhanded => absurd (h.handed hhanded) (Nat.lt_irrefl _)⟩

theorem alike_spawn (h : w.Orderly active) (control : Control) (frames : List Frame)
    (handle : Option ClientId) (owner : Option EndpointId) :
    Alike w (w.spawn control frames handle owner).2 := by
  unfold World.spawn
  split
  · exact alike_addTask w control frames handle owner
  · have hlookup := finish?_noteFinish w w.nextTask .aborted
    have hkept : ∀ {task finish}, w.finish? task = some finish → task ≠ w.nextTask :=
      fun hfinish => Nat.ne_of_lt (h.past hfinish)
    exact
      { toParts := .of_eq rfl rfl rfl
        nextTask := Nat.le_succ _
        started := fun hstarted => by
          rcases hstarted with hmem | ⟨finish, hfinish⟩
          · exact .inl hmem
          · refine .inr ⟨finish, ?_⟩
            exact (hlookup _).trans ((if_neg (hkept hfinish)).trans hfinish)
        finished := fun hfinish => (hlookup _).trans ((if_neg (hkept hfinish)).trans hfinish)
        ended := fun {task finish} hfinish => by
          have hfinish := (hlookup task).symm.trans hfinish
          split at hfinish
          · exact .inl (Option.some.inj hfinish).symm
          · exact .inr hfinish
        contacts := rfl
        lock := fun _ => rfl
        state := fun _ => rfl
        closed := fun _ => rfl
        cancelled := rfl
        endpoints := rfl }

/-- The calls of a world still fit after the start of one, also where nothing runs any more. -/
theorem CallsFit.spawn (h : w.CallsFit active) {call : Call} (hpublic : call.isPublic = true)
    (handle : Option ClientId) (owner : Option EndpointId) :
    (w.spawn (.call call) [] handle owner).2.CallsFit active := by
  have halike := alike_spawn h.toOrderly (.call call) [] handle owner
  have hstack : w.Stack w.nextTask call.job [] := h.rooted (Call.job_of_isPublic hpublic)
  refine ⟨?_, fun client => (h.clients client).alike halike⟩
  unfold World.spawn at halike ⊢
  split
  · exact h.toOrderly.addTask (Call.hold?_of_isPublic hpublic) (by simp) hstack handle owner
  next hrunning =>
    rw [if_neg hrunning] at halike
    exact h.toOrderly.lose (halike.respects active) rfl rfl rfl

/-- An endpoint that takes over a task keeps its name. -/
theorem name_of_spawn {owned taken : LocalEndpoint} {task : TaskId}
    (h : owned.spawn task = .ok taken) : taken.name = owned.name := by
  simp only [LocalEndpoint.spawn] at h
  split at h
  · cases h
  · cases h
    rfl

theorem spawnOwned_spec (h : w.CallsFit active) (endpoint : EndpointId) (script : List OwnedStep) :
    Alike w (w.spawnOwned endpoint script).2 ∧
      (w.spawnOwned endpoint script).2.CallsFit active := by
  unfold spawnOwned
  split
  next => exact ⟨(Quiet.refl w).toAlike, h⟩
  next owned howned =>
    split
    next => exact ⟨(Quiet.refl w).toAlike, h⟩
    next taken hspawn =>
      have hquiet : Quiet w (w.setLocal endpoint taken) :=
        quiet_setLocal w fun hcell => (name_of_spawn hspawn).trans (name_of_local? howned hcell)
      have hfit := h.quiet hquiet
      exact ⟨hquiet.toAlike.trans (alike_spawn hfit.toOrderly _ _ _ _),
        hfit.spawn rfl none (some endpoint)⟩

theorem startOwned_spec (h : w.CallsFit active) (endpoint : EndpointId) (tasks : List Nat) :
    Alike w (w.startOwned endpoint tasks) ∧ (w.startOwned endpoint tasks).CallsFit active := by
  unfold startOwned
  induction tasks generalizing w with
  | nil => exact ⟨(Quiet.refl w).toAlike, h⟩
  | cons ms tasks ih =>
      obtain ⟨halike, hfit⟩ := spawnOwned_spec h endpoint [.shutdown, .sleep ms]
      obtain ⟨halike', hfit'⟩ := ih hfit
      exact ⟨halike.trans halike', hfit'⟩

/-! ## Dropping handles -/

/-- What the start of a close in the background does to the tasks. -/
structure Backgrounds (active : Option TaskId) (w u : World) : Prop extends Alike w u where
  orderly : u.Orderly active
  finish? : ∀ task, u.finish? task = w.finish? task
  tasks : ∀ {t : Task}, t ∈ u.tasks → t ∈ w.tasks ∨ t.id = w.nextTask

theorem Quiet.backgrounds (h : Quiet w u) (horderly : w.Orderly active) :
    Backgrounds active w u where
  toAlike := h.toAlike
  orderly := horderly.of_respects h.same (h.respects active)
  finish? := h.same.finish?
  tasks ht := .inl (by rwa [h.same.tasks] at ht)

theorem backgrounds_spawnBackgroundClose (h : w.Orderly active) (client : ClientId) :
    Backgrounds active w (w.spawnBackgroundClose client) := by
  have hstack : w.Stack w.nextTask (Call.close client none).job [.background client] :=
    ⟨rfl, h.rooted nofun⟩
  unfold spawnBackgroundClose
  split
  · exact
      { toAlike := alike_addTask w _ _ _ _
        orderly := h.addTask rfl (by simp [Frame.hold?]) hstack none none
        finish? := fun _ => rfl
        tasks := fun ht => by
          rcases List.mem_append.1 ht with ht | ht
          · exact .inl ht
          · rw [List.mem_singleton.1 ht]
            exact .inr rfl }
  · exact (quiet_strand w client).backgrounds h

/-- The loss of a handle at most starts a close in the background. -/
theorem backgrounds_dropHandle (h : w.Orderly active) (client : ClientId) :
    Backgrounds active w (w.dropHandle client).1 := by
  unfold dropHandle
  split
  next => exact (Quiet.refl w).backgrounds h
  next c _ =>
    split
    next => exact (Quiet.refl w).backgrounds h
    next =>
      have hquiet := quiet_reportLeak w client c.trace
      split
      next hreport =>
        rw [hreport] at hquiet
        exact hquiet.backgrounds h
      next v hreport =>
        rw [hreport] at hquiet
        have hbackgrounds := backgrounds_spawnBackgroundClose
          (h.of_respects hquiet.same (hquiet.respects active)) client
        exact
          { toAlike := hquiet.toAlike.trans hbackgrounds.toAlike
            orderly := hbackgrounds.orderly
            finish? := fun task => (hbackgrounds.finish? task).trans (hquiet.same.finish? task)
            tasks := fun ht => by
              have hmem := hbackgrounds.tasks ht
              rwa [hquiet.same.tasks, hquiet.same.nextTask] at hmem }

theorem CallsFit.dropHandle (h : w.CallsFit active) (client : ClientId) :
    (w.dropHandle client).1.CallsFit active where
  toOrderly := (backgrounds_dropHandle h.toOrderly client).orderly
  clients other := (h.clients other).alike (backgrounds_dropHandle h.toOrderly client).toAlike

/-! ## Ending -/

/-- The end of the polled task. -/
structure Finishes (task : TaskId) (finish : Finish) (w u : World) : Prop extends Grows w u where
  fits : u.CallsFit (some task)
  gone : u.task? task = none
  started : ∀ {other : TaskId}, w.Started other → u.Started other
  contacts_eq : u.contacts = w.contacts
  ended : ∀ {client : ClientId} {other : TaskId} {t : Teardown} {finish' : Finish},
    (client, .teardown other t) ∈ w.contacts → u.finish? other = some finish' →
      w.finish? other = some finish' ∨ other = task ∧ finish' = finish

/-- The tasks without the polled one are in order. -/
theorem Orderly.remove (h : w.Orderly (some task)) :
    (w.removeTask task).Orderly (some task) where
  nodup := h.nodup.sublist (List.filter_sublist.map _)
  fresh ht := h.fresh (List.mem_filter.1 ht).1
  unfinished ht := h.unfinished (List.mem_filter.1 ht).1
  past := h.past
  handed := h.handed
  unheld ht := h.unheld (List.mem_filter.1 ht).1
  resting ht hactive := by
    have hmem := (List.mem_filter.1 ht).1
    obtain ⟨hrest, hok⟩ := h.resting hmem hactive
    refine ⟨hrest, hok.of_respects ?_ hactive (h.fresh hmem) hrest⟩
    exact ⟨⟨.of_eq rfl rfl rfl, List.prefix_rfl, .inl, fun h => h, Nat.le_refl _⟩,
      fun howner _ => ⟨howner, rfl, rfl⟩⟩

/-- Noting the end of a task that is gone. -/
theorem Orderly.noteFinish (h : w.Orderly (some task)) (hgone : ∀ {t}, t ∈ w.tasks → t.id ≠ task)
    (hnone : w.finish? task = none) (hfresh : task < w.nextTask) (finish : Finish) :
    (w.noteFinish task finish).Orderly (some task) where
  nodup := h.nodup
  fresh := h.fresh
  unfinished ht := by
    rw [finish?_noteFinish, if_neg (hgone ht)]
    exact h.unfinished ht
  past hfinish := by
    rw [finish?_noteFinish] at hfinish
    split at hfinish
    next heq =>
      rw [heq]
      exact hfresh
    next => exact h.past hfinish
  handed := h.handed
  unheld := h.unheld
  resting ht hactive := by
    obtain ⟨hrest, hok⟩ := h.resting ht hactive
    refine ⟨hrest, hok.of_respects ?_ hactive (h.fresh ht) hrest⟩
    refine ⟨⟨.of_eq rfl rfl rfl, List.prefix_rfl, .inl, fun {other finish'} hfinish => ?_,
      Nat.le_refl _⟩, fun howner _ => ⟨howner, rfl, rfl⟩⟩
    rw [finish?_noteFinish, if_neg]
    · exact hfinish
    · rintro rfl
      rw [hnone] at hfinish
      cases hfinish

theorem Backgrounds.quiet (h : Backgrounds active w v) (hquiet : Quiet v u) :
    Backgrounds active w u where
  toAlike := h.toAlike.trans hquiet.toAlike
  orderly := h.orderly.of_respects hquiet.same (hquiet.respects active)
  finish? other := (hquiet.same.finish? other).trans (h.finish? other)
  tasks ht := h.tasks (by rwa [hquiet.same.tasks] at ht)

theorem backgrounds_dropHeld (h : w.Orderly active) (finish : Finish) (handle : Option ClientId) :
    Backgrounds active w (w.dropHeld finish handle).1 := by
  unfold dropHeld
  split
  next => exact (Quiet.refl w).backgrounds h
  next client =>
    have hdropped := backgrounds_dropHandle h client
    split
    next hdrop => rwa [hdrop] at hdropped
    next hdrop => rwa [hdrop] at hdropped

theorem quiet_leaveOwner (w : World) (task : TaskId) (owner : Option EndpointId) :
    Quiet w (w.leaveOwner task owner) := by
  cases owner with
  | none => exact .refl w
  | some endpoint => exact quiet_leaveEndpoint w task endpoint

section Removed

variable {finish : Finish} (h : Backgrounds (some task) (w.removeTask task) v)

include h

/-- The ends of tasks after the end of the polled one is noted. -/
theorem Backgrounds.finish?_noteFinish (other : TaskId) :
    (v.noteFinish task finish).finish? other =
      if other = task then some finish else w.finish? other := by
  rw [World.finish?_noteFinish, h.finish? other]
  rfl

theorem Backgrounds.gone (hfresh : task < w.nextTask) {t : Task} (ht : t ∈ v.tasks) :
    t.id ≠ task := by
  rcases h.tasks ht with hold | hnew
  · simpa using (List.mem_filter.1 hold).2
  · rw [hnew]
    exact (Nat.ne_of_lt hfresh).symm

theorem Backgrounds.grows_noteFinish (hnone : w.finish? task = none) :
    Grows w (v.noteFinish task finish) where
  toParts := by
    have hremove : Parts w (w.removeTask task) := .of_eq rfl rfl rfl
    have hnote : Parts v (v.noteFinish task finish) := .of_eq rfl rfl rfl
    exact (hremove.trans h.toParts).trans hnote
  contacts := h.contacts ▸ List.prefix_rfl
  handed hentry := .inl (h.contacts ▸ hentry)
  finished {other finish} hfinish := by
    rw [h.finish?_noteFinish, if_neg]
    · exact hfinish
    · rintro rfl
      rw [hnone] at hfinish
      cases hfinish
  nextTask := h.nextTask

theorem Backgrounds.started_noteFinish {other : TaskId} (hstarted : w.Started other) :
    (v.noteFinish task finish).Started other := by
  by_cases hother : other = task
  · exact .inr ⟨finish, (h.finish?_noteFinish other).trans (if_pos hother)⟩
  rcases hstarted with ⟨t, ht, hid⟩ | ⟨f, hf⟩
  · have hkept : t ∈ (w.removeTask task).tasks :=
      List.mem_filter.2 ⟨ht, by simpa [hid] using hother⟩
    rcases h.started (.inl ⟨t, hkept, hid⟩) with hmem | ⟨f, hf⟩
    · exact .inl hmem
    · exact .inr ⟨f, by rw [World.finish?_noteFinish, if_neg hother, hf]⟩
  · exact .inr ⟨f, by rw [h.finish?_noteFinish, if_neg hother, hf]⟩

end Removed

/-- The end of the polled task, which ends as its client has noted if it ran a teardown. -/
theorem finishTask_spec (h : w.CallsFit (some task)) {t : Task} (ht : w.task? task = some t)
    {finish : Finish}
    (hended : ∀ {client outcome td}, w.Closing client outcome task td →
      w.Ended client outcome td finish) :
    Finishes task finish w (w.finishTask task finish) := by
  obtain ⟨hmem, hid⟩ := task?_mem ht
  have hnone : w.finish? task = none := hid ▸ h.unfinished hmem
  have hfresh : task < w.nextTask := hid ▸ h.fresh hmem
  -- only the drop of a handle can replace the result, and a teardown holds none
  have hresult : ∀ {client td}, (client, .teardown task td) ∈ w.contacts →
      ((w.removeTask task).dropHeld finish t.handle).2 = finish := by
    intro client td hhanded
    rw [h.unheld hmem (hid ▸ hhanded)]
    rfl
  have hdropped := (backgrounds_dropHeld h.toOrderly.remove finish t.handle).quiet
    (quiet_leaveOwner _ task t.owner)
  simp only [finishTask, ht]
  generalize ((w.removeTask task).dropHeld finish t.handle).2 = finish' at hresult ⊢
  generalize ((w.removeTask task).dropHeld finish t.handle).1.leaveOwner task t.owner = v
    at hdropped ⊢
  have hnoted : (v.noteFinish task finish').Orderly (some task) :=
    hdropped.orderly.noteFinish (hdropped.gone hfresh) ((hdropped.finish? task).trans hnone)
      (Nat.lt_of_lt_of_le hfresh hdropped.nextTask) finish'
  have hquiet := quiet_signal (v.noteFinish task finish') (.finished task)
  generalize (v.noteFinish task finish').signal (.finished task) = u at hquiet ⊢
  have hgrows : Grows w u := (hdropped.grows_noteFinish hnone).trans hquiet.toAlike.grows
  have hstarted : ∀ {other}, w.Started other → u.Started other := fun hstarted =>
    hquiet.started (hdropped.started_noteFinish hstarted)
  have hcontacts : u.contacts = w.contacts := hquiet.contacts.trans hdropped.contacts
  have hends : ∀ {client other td f}, (client, .teardown other td) ∈ w.contacts →
      u.finish? other = some f → w.finish? other = some f ∨ other = task ∧ f = finish := by
    intro client other td f hhanded hf
    rw [hquiet.same.finish?, hdropped.finish?_noteFinish] at hf
    split at hf
    next heq =>
      subst heq
      exact .inr ⟨rfl, (Option.some.inj hf).symm.trans (hresult hhanded)⟩
    next => exact .inl hf
  exact
    { toGrows := hgrows
      fits :=
        { toOrderly := hnoted.of_respects hquiet.same (hquiet.respects _)
          clients := fun client =>
            (h.clients client).grow hgrows ((hquiet.state client).trans (hdropped.state client))
              ((hquiet.closed client).trans (hdropped.closed client))
              (history_of_contacts hcontacts client) hstarted fun hclosing hf => by
                rcases hends (mem_history.1 hclosing.handed) hf with hf | ⟨rfl, rfl⟩
                · exact hclosing.ended hf
                · exact hended hclosing }
      gone := by
        refine List.find?_eq_none.2 fun t' ht' => ?_
        rw [hquiet.same.tasks] at ht'
        simpa using hdropped.gone hfresh ht'
      started := hstarted
      contacts_eq := hcontacts
      ended := hends }

/-! ## Steps that end a task -/

theorem Finishes.acting {finish : Finish} (h : Finishes task finish w u) : u.Acting task where
  fits := h.fits
  active ht := by
    rw [h.gone] at ht
    cases ht

/-- The polled task ends in a way that is no end of a teardown. -/
theorem Finishes.advances {finish : Finish} (h : Finishes task finish w u)
    (hlost : finish = .aborted ∨ ∀ client td, (client, .teardown task td) ∉ w.contacts) :
    Advances task w u where
  toGrows := h.toGrows
  started := h.started
  ended hhanded hfinish := by
    rw [h.contacts_eq] at hhanded
    rcases h.ended hhanded hfinish with hfinish | ⟨rfl, rfl⟩
    · exact .inr ⟨hhanded, hfinish⟩
    · rcases hlost with haborted | hnone
      · exact .inl haborted
      · exact absurd hhanded (hnone _ _)
  acting := h.acting

/-- A task whose outermost call has replied ends with the reply. -/
theorem At.finishReply {reply : Reply} (h : w.At task (.reply reply) []) :
    Finishes task (.value (reply.map w.present)) w
      (w.finishTask task (.value (reply.map w.present))) := by
  obtain ⟨t, ht, -, -⟩ := h.present
  refine finishTask_spec h.fits ht fun {client outcome td} hclosing => ?_
  obtain ⟨job, hrooted, hdelivers⟩ := h.typed
  obtain rfl := hrooted.2 _ _ (mem_history.1 hclosing.handed)
  obtain ⟨rfl, -, hstate, hcalls⟩ := hdelivers
  rw [hclosing.client_eq] at hstate hcalls
  have houtcome := hclosing.state.symm.trans hstate
  simp only [Option.some.injEq, ClientState.closed.injEq] at houtcome
  refine .inr ⟨w.verdict td, ?_, houtcome, hcalls⟩
  cases w.verdict td <;> rfl

/-- A task whose outermost call has panicked ends with the panic. It is no teardown. -/
theorem At.finishUnwind {content : Panic} (h : w.At task (.unwind content) []) :
    Advances task w (w.finishTask task (.panicked content)) := by
  obtain ⟨t, ht, -, -⟩ := h.present
  have hnone : ∀ client td, (client, .teardown task td) ∉ w.contacts := by
    intro client td hhanded
    obtain ⟨job, hrooted, hunwinds⟩ := h.typed
    obtain rfl := hrooted.2 _ _ hhanded
    exact hunwinds
  refine (finishTask_spec h.fits ht fun hclosing => ?_).advances (.inr hnone)
  exact absurd (mem_history.1 hclosing.handed) (hnone _ _)

/-- A task that has waited for a lost task ends as lost. -/
theorem At.finishLost (h : w.At task .lost []) :
    Advances task w (w.finishTask task .aborted) := by
  obtain ⟨t, ht, -, -⟩ := h.present
  exact (finishTask_spec h.fits ht fun _ => .inl rfl).advances (.inl rfl)

end Remoting.World
