import Remoting.Proofs.Custody
import Remoting.Proofs.Order

/-!
# Closes in the background

A close in the background holds no handle of its client. Unless somebody else closes a client
without a handle, it is the only call that can still close the client once the last handle is lost:
all others are made by tasks that hold one. `isStray` picks out the tasks that would break this, and
no move brings one about. Nor does a move bring about a close in the background that waits for the
lock but has not begun.
-/

namespace Remoting

/-- Whether a task is a close of a client in the background that has not taken the lock. -/
def Task.aims (client : ClientId) (t : Task) : Bool :=
  match t.control, t.frames with
  | .call (.close closed none), [.background _] => closed = client
  | _, [.closeLock closed none, .background _] => closed = client
  | _, _ => false

/-- Whether a task is a close of a client in the background that has asked for the lock. -/
def Task.isLocking (client : ClientId) (t : Task) : Bool :=
  match t.frames with
  | [.closeLock closed _, .background _] => closed = client
  | _ => false

/-- Whether a task may close a client without a handle of it and is no close in the background. -/
def Task.isStray (client : ClientId) (t : Task) : Bool :=
  t.control.spawns client ||
    t.mayClose client && decide (t.handle ≠ some client) && !t.aims client

theorem Control.mayClose_of_spawns {control : Control} {client : ClientId}
    (h : control.spawns client = true) : control.mayClose client = true := by
  cases control with
  | call made =>
      cases made with
      | spawn call => exact h
      | _ => cases h
  | _ => cases h

/-- Only a close is a part of a close. -/
theorem Frame.mayClose_of_job {frame : Frame} {client closed : ClientId}
    (hjob : frame.job = .close closed) (hmay : frame.mayClose client = true) :
    closed = client ∧ ∃ interrupt, frame = .closeLock closed interrupt := by
  cases frame with
  | closeLock other interrupt =>
      cases hjob
      exact ⟨by simpa using hmay, interrupt, rfl⟩
  | closeJoin | recordLock => cases hmay
  | _ => cases hjob

theorem Task.isLocking_iff {client : ClientId} {t : Task} : t.isLocking client = true ↔
    ∃ interrupt closed, t.frames = [.closeLock client interrupt, .background closed] := by
  unfold Task.isLocking
  split
  next other interrupt closed hframes => simp [hframes]
  next hother =>
    refine iff_of_false Bool.false_ne_true ?_
    rintro ⟨interrupt, closed, hframes⟩
    exact hother _ _ _ hframes

/-- Where a close is that has not taken the lock. -/
theorem Task.aims_iff {client : ClientId} {t : Task} : t.aims client = true ↔
    (t.control = .call (.close client none) ∧ ∃ closed, t.frames = [.background closed]) ∨
      ∃ closed, t.frames = [.closeLock client none, .background closed] := by
  unfold Task.aims
  split
  next closed background hcontrol hframes => simp [hcontrol, hframes]
  next closed background _ _ hframes => simp [hframes]
  next hlocking hcalled =>
    refine iff_of_false Bool.false_ne_true ?_
    rintro (⟨hcontrol, closed, hframes⟩ | ⟨closed, hframes⟩)
    · exact hcalled _ _ hcontrol hframes
    · exact hlocking _ _ hframes

namespace World

variable {may : ClientId → Bool} {shut : EndpointId → Prop} {w v u : World} {task : TaskId}
  {t : Task} {client : ClientId}

/-- A close in the background is the outermost call, and around it is at most one frame. -/
theorem Stack.background {job : Job} {frames : List Frame} {closed : ClientId}
    (hstack : w.Stack task job frames) (hmem : .background closed ∈ frames) :
    (frames = [.background closed] ∧ job = .close closed) ∨
      ∃ frame, frames = [frame, .background closed] ∧ frame.job = .close closed := by
  induction frames generalizing job with
  | nil => cases hmem
  | cons frame frames ih =>
      obtain ⟨hawaits, hstack⟩ := hstack
      rcases List.mem_cons.1 hmem with rfl | hmem
      · obtain rfl : frames = [] := hstack.eq_nil fun _ hwaiter => hwaiter
        exact .inl ⟨rfl, hawaits⟩
      · rcases ih hstack hmem with ⟨rfl, hjob⟩ | ⟨frame', rfl, hjob⟩
        · exact .inr ⟨frame, rfl, hjob⟩
        · -- the frame of a close waits for the lock or for a task, not for another call
          have hwait : ∃ wait, frame.job = .wait wait := by
            cases frame' with
            | closeLock => exact ⟨_, hstack.1⟩
            | closeJoin => exact ⟨_, hstack.1.choose_spec.choose_spec.1⟩
            | recordLock => exact ⟨_, hstack.1.1⟩
            | _ => cases hjob
          obtain ⟨wait, hwait⟩ := hwait
          exact absurd hwait (Frame.job_ne_wait frame wait)

/-! ## Steps -/

/-- A step goes on in frames of the task. -/
theorem stepFrames_sublist (control : Control) (frames : List Frame) :
    (stepFrames control frames).Sublist frames := by
  unfold stepFrames
  split
  · exact .refl _
  · exact .refl _
  · exact List.tail_sublist _

/-- What a step leads to closes no client that the task could not have closed before. -/
theorem mayClose_of_fits {control : Control} {inner : List Frame}
    (h : Fits (stepMay t.control t.frames) control inner)
    (hmay : ({ t with control := control, frames := inner ++ stepFrames t.control t.frames } :
      Task).mayClose client = true) : t.mayClose client = true := by
  rw [Task.mayClose, List.any_append, ← Bool.or_assoc, Bool.or_eq_true] at hmay
  rw [Task.mayClose, Bool.or_eq_true]
  rcases hmay with hmay | hmay
  · have hstep := h.closes client hmay
    cases hcontrol : t.control with
    | call made =>
        rw [hcontrol] at hstep
        exact .inl hstep
    | reply reply =>
        rw [hcontrol] at hstep
        cases hframes : t.frames with
        | nil =>
            rw [hframes] at hstep
            cases hstep
        | cons frame frames =>
            rw [hframes] at hstep
            rw [List.any_cons, Bool.or_eq_true]
            exact .inr (.inl hstep)
    | _ =>
        rw [hcontrol] at hstep
        cases hstep
  · obtain ⟨frame, hframe, hclose⟩ := List.any_eq_true.1 hmay
    exact .inr (List.any_eq_true.2 ⟨frame, (stepFrames_sublist _ _).subset hframe, hclose⟩)

/-- A step of a close in the background that has not taken the lock: it goes on like that, or takes
the lock, and then it can close nothing more. -/
theorem aims_step {t' : Task} (hat : w.At task t.control t.frames) (ht : w.task? task = some t)
    (haims : t.aims client = true) (hstep : w.step? task = some u) (ht' : u.task? task = some t') :
    (t'.aims client = true ∧ ∀ reply, t.control ≠ .reply reply) ∨ t'.mayClose client = false := by
  have hgoto : ∀ {v : World} {control frames}, v.task? task = some t →
      u = v.goto task control frames → t' = { t with control := control, frames := frames } := by
    rintro v control frames hv rfl
    rw [task?_goto, hv, Option.map_some, Option.some.injEq] at ht'
    exact ht'.symm
  rw [World.step?, ht] at hstep
  dsimp only at hstep
  rcases Task.aims_iff.1 haims with ⟨hcontrol, closed, hframes⟩ | ⟨closed, hframes⟩
  · -- it asks for the lock
    rw [hcontrol, hframes] at hstep
    cases hstep
    have hlock : Passes (fun _ => false) (fun _ => True) w (w.requestLock task client) :=
      passes_requestLock w task client
    rw [hgoto (hlock.task? ht) rfl]
    exact .inl ⟨Task.aims_iff.2 (.inr ⟨closed, rfl⟩),
      fun reply heq => by cases hcontrol.symm.trans heq⟩
  · have hsame : ∀ control, ({ t with control := control, frames := t.frames } : Task).aims client =
        true := fun control => Task.aims_iff.2 (.inr ⟨closed, hframes⟩)
    have htyped := hat.typed
    rw [hframes] at htyped
    cases hcontrol : t.control with
    | call call =>
        rw [hcontrol] at htyped hstep
        have hjob : call.job = .wait (.lock client) := htyped.1
        cases call with
        | await wait =>
            cases hstep
            rw [hgoto ht rfl]
            exact .inl ⟨hsame _, fun reply heq => by cases heq⟩
        | _ => cases hjob
    | wait wait =>
        rw [hcontrol] at hstep
        obtain ⟨control, -, rfl⟩ := Option.map_eq_some_iff.1 hstep
        rw [hgoto ht rfl]
        exact .inl ⟨hsame _, fun reply heq => by cases heq⟩
    | reply reply =>
        rw [hcontrol, hframes] at hstep
        cases hstep
        refine .inr ?_
        have hgoes : ClosesOnly (fun _ => false) (fun _ => false) (fun _ => True) task _ w
            (w.lockedClose task client none [.background closed]) :=
              closesOnly_lockedClose w task client none _
        obtain ⟨v, control, inner, heq, hpasses, hfits⟩ := hgoes
        rw [hgoto (hpasses.task? ht) heq, Task.mayClose, List.any_append, ← Bool.or_assoc,
          Bool.eq_false_iff.2 fun hmay => Bool.false_ne_true (hfits.closes client hmay)]
        rfl
    | unwind content =>
        rw [hcontrol] at htyped
        obtain ⟨job, ⟨rfl, -⟩, hunwinds⟩ := htyped
        exact hunwinds.elim
    | lost =>
        rw [hcontrol] at htyped
        obtain ⟨joined, ⟨hawaits, -⟩, -⟩ := htyped
        cases hawaits

/-- A step brings about no stray task. -/
theorem isStray_step {control : Control} {inner : List Frame}
    (hat : w.At task t.control t.frames) (ht : w.task? task = some t)
    (hstep : w.step? task = some u) (hfits : Fits (stepMay t.control t.frames) control inner)
    (hgoto : u.task? task =
      some { t with control := control, frames := inner ++ stepFrames t.control t.frames })
    (hnot : t.isStray client = false) :
    ({ t with control := control, frames := inner ++ stepFrames t.control t.frames } :
      Task).isStray client = false := by
  obtain ⟨-, hclosers⟩ := Bool.or_eq_false_iff.1 hnot
  rw [Task.isStray, Bool.or_eq_false_iff]
  constructor
  · cases control with
    | call made =>
        cases made with
        | spawn call => exact absurd rfl (hfits.spawn call)
        | _ => rfl
    | _ => rfl
  · refine Bool.eq_false_iff.2 fun hstray => ?_
    simp only [Bool.and_eq_true, decide_eq_true_eq, Bool.not_eq_true'] at hstray
    obtain ⟨⟨hmay, hhandle⟩, hlost⟩ := hstray
    have haims : t.aims client = true := by
      simpa [mayClose_of_fits hfits hmay, hhandle] using hclosers
    rcases aims_step hat ht haims hstep hgoto with ⟨hkept, -⟩ | hdone
    · exact Bool.false_ne_true (hlost.symm.trans hkept)
    · exact Bool.false_ne_true (hdone.symm.trans hmay)

/-- A close in the background that waits for the lock has begun or begins with a step. -/
theorem isLocking_step {control : Control} {inner : List Frame}
    (hat : w.At task t.control t.frames) (hfits : Fits (stepMay t.control t.frames) control inner)
    (hlocking : ({ t with control := control, frames := inner ++ stepFrames t.control t.frames } :
      Task).isLocking client = true) : t.isLocking client = true ∨ t.isPending client = true := by
  obtain ⟨interrupt, closed, hframes⟩ := Task.isLocking_iff.1 hlocking
  dsimp only at hframes
  obtain ⟨job, hstack⟩ := hat.typed.stack
  have hmem : .background closed ∈ t.frames := by
    have hlast : .background closed ∈ inner ++ stepFrames t.control t.frames := by simp [hframes]
    rcases List.mem_append.1 hlast with hinner | hrest
    · exact absurd hinner (hfits.background closed)
    · exact (stepFrames_sublist _ _).subset hrest
  -- the frame of the lock was there or is new, and then the task could close the client
  have hmay : inner ≠ [] → stepMay t.control t.frames client = true := fun hne => by
    refine hfits.closes client ?_
    obtain ⟨frame, rest, rfl⟩ := List.exists_cons_of_ne_nil hne
    obtain ⟨rfl, -⟩ := List.cons.inj hframes
    simp
  have hlength := congrArg List.length hframes
  rw [List.length_append] at hlength
  rcases hstack.background hmem with ⟨hsingle, -⟩ | ⟨frame, hpair, hjob⟩
  · have hrest := (stepFrames_sublist t.control t.frames).length_le
    rw [hsingle] at hrest
    have hstep := hmay (by rintro rfl; simp_all)
    cases hcontrol : t.control with
    | call made =>
        have htyped := hat.typed
        rw [hcontrol, hsingle] at htyped
        rw [hcontrol] at hstep
        have hclose : made.job = .close closed := htyped.1
        cases made with
        | close other interrupt =>
            cases hclose
            obtain rfl : closed = client := by simpa [stepMay] using hstep
            exact .inr (by simp [Task.isPending, hcontrol, hsingle])
        | _ => cases hclose
    | _ =>
        rw [hcontrol, hsingle] at hstep
        cases hstep
  · refine .inl (Task.isLocking_iff.2 ?_)
    by_cases hinner : inner = []
    · have hsame : stepFrames t.control t.frames = t.frames :=
        (stepFrames_sublist _ _).eq_of_length (by simp_all)
      rw [hinner, hsame] at hframes
      exact ⟨interrupt, closed, hframes⟩
    · have hstep := hmay hinner
      cases hcontrol : t.control with
      | reply reply =>
          rw [hcontrol, hpair] at hstep
          obtain ⟨rfl, interrupt', rfl⟩ := Frame.mayClose_of_job hjob hstep
          exact ⟨interrupt', closed, hpair⟩
      | call | wait =>
          rw [hcontrol, hpair] at hlength
          exact absurd (by simpa [stepFrames] using hlength) hinner
      | _ =>
          rw [hcontrol] at hstep
          cases hstep

/-- A call that is left brings about no stray task. -/
theorem isStray_cut {cut : Cut} (hcut : w.cut? t.frames = some cut ∨ w.overdue? t.frames = some cut)
    (hnot : t.isStray client = false) :
    ({ t with control := cut.control, frames := cut.outer } : Task).isStray client = false := by
  obtain ⟨hframes, hplain, hbackground, hlock⟩ := Moment.of_cut hcut
  have hmem : cut.frame ∈ t.frames := by simp [hframes]
  obtain ⟨-, hclosers⟩ := Bool.or_eq_false_iff.1 hnot
  rw [Task.isStray, Bool.or_eq_false_iff]
  refine ⟨Bool.eq_false_iff.2 fun hspawns => ?_, Bool.eq_false_iff.2 fun hstray => ?_⟩
  · have hmay := Control.mayClose_of_spawns hspawns
    rw [Control.mayClose_of_isPlain hplain] at hmay
    cases hmay
  · simp only [Bool.and_eq_true, decide_eq_true_eq, Bool.not_eq_true'] at hstray
    obtain ⟨⟨hmay, hhandle⟩, -⟩ := hstray
    rw [Task.mayClose, Control.mayClose_of_isPlain hplain, Bool.false_or] at hmay
    obtain ⟨frame, hframe, hclose⟩ := List.any_eq_true.1 hmay
    have hbefore : t.mayClose client = true := by
      rw [Task.mayClose, Bool.or_eq_true]
      exact .inr (List.any_eq_true.2 ⟨frame, by simp [hframes, hframe], hclose⟩)
    have haims : t.aims client = true := by simpa [hbefore, hhandle] using hclosers
    rcases Task.aims_iff.1 haims with ⟨-, closed, hsingle⟩ | ⟨closed, hpair⟩
    · rw [hsingle] at hmem
      exact hbackground closed (List.mem_singleton.1 hmem)
    · rw [hpair] at hmem
      rcases List.mem_pair.1 hmem with heq | heq
      · exact hlock _ _ heq
      · exact hbackground _ heq

/-- A call that is left is not inside of a close in the background. -/
theorem isLocking_cut {cut : Cut} (htyped : w.Typed task t.frames t.control)
    (hcut : w.cut? t.frames = some cut ∨ w.overdue? t.frames = some cut) :
    ({ t with control := cut.control, frames := cut.outer } : Task).isLocking client = false := by
  obtain ⟨hframes, -⟩ := Moment.of_cut hcut
  refine Bool.eq_false_iff.2 fun hlocking => ?_
  obtain ⟨interrupt, closed, hpair⟩ := Task.isLocking_iff.1 hlocking
  dsimp only at hpair
  obtain ⟨job, hstack⟩ := htyped.stack
  have hlength := congrArg List.length hframes
  rw [hpair, List.length_append] at hlength
  have hmem : .background closed ∈ t.frames := by simp [hframes, hpair]
  rcases hstack.background hmem with ⟨hsingle, -⟩ | ⟨frame, hframe, -⟩
  · simp [hsingle] at hlength
  · simp [hframe] at hlength

/-! ## Counts -/

/-- A property that no task has when it starts. -/
structure Ignores (client : ClientId) (q : Task → Bool) : Prop where
  fresh : ∀ t : Task, t.frames = [] → (t.control.mayClose client = true →
    t.handle = some client ∧ t.control.spawns client = false) → q t = false
  background : ∀ id closed,
    q ⟨id, .call (.close closed none), [.background closed], none, none⟩ = false

theorem ignores_isStray (client : ClientId) : Ignores client (Task.isStray client) where
  fresh t hframes hmay := by
    cases hcontrol : t.control.mayClose client with
    | true =>
        obtain ⟨hhandle, hspawns⟩ := hmay hcontrol
        simp [Task.isStray, hhandle, hspawns]
    | false =>
        have hspawns : t.control.spawns client = false := Bool.eq_false_iff.2 fun hspawns =>
          Bool.false_ne_true (hcontrol.symm.trans (Control.mayClose_of_spawns hspawns))
        have hclose : t.mayClose client = false := by
          rw [Task.mayClose, hcontrol, hframes]
          rfl
        simp [Task.isStray, hclose, hspawns]
  background id closed := by
    by_cases heq : closed = client <;>
      simp [Task.isStray, Control.spawns, Call.spawns, Task.mayClose, Task.aims, heq]

theorem ignores_isLocking (client : ClientId) : Ignores client (Task.isLocking client) where
  fresh t hframes _ := by simp [Task.isLocking, hframes]
  background id closed := rfl

section Counts

variable {q : Task → Bool}

theorem Passes.countP (h : Passes may shut w u) (hq : Ignores client q)
    (hmay : may client = false) :
    u.tasks.countP q = w.tasks.countP q := by
  obtain ⟨new, htasks, hnew⟩ := h.tasks
  have hnone : new.countP q = 0 := List.countP_eq_zero.2 fun t ht => by
    rw [hq.fresh t (hnew t ht).2.1 fun hclose => ?_]
    · exact Bool.false_ne_true
    · rw [(hnew t ht).2.2 client hclose] at hmay
      cases hmay
  rw [htasks, List.countP_append, hnone, Nat.add_zero]

theorem countP_spawnBackgroundClose (w : World) (hq : Ignores client q) (dropped : ClientId) :
    (w.spawnBackgroundClose dropped).tasks.countP q = w.tasks.countP q := by
  unfold spawnBackgroundClose
  split
  · simp [addTask, signal, hq.background]
  · rfl

theorem countP_dropHandle (w : World) (hq : Ignores client q) (dropped : ClientId) :
    (w.dropHandle dropped).1.tasks.countP q = w.tasks.countP q := by
  unfold dropHandle
  split
  next => rfl
  next c _ =>
    split
    next => rfl
    next =>
      obtain ⟨-, htasks, -⟩ := reportLeak_eq w dropped c.trace
      split
      next hreport =>
        rw [hreport] at htasks
        rw [htasks]
      next v hreport =>
        rw [hreport] at htasks
        rw [countP_spawnBackgroundClose v hq, htasks]

theorem countP_finishTask (hq : Ignores client q) (hnodup : (w.tasks.map Task.id).Nodup)
    (ht : w.task? task = some t) (finish : Finish) :
    (w.finishTask task finish).tasks.countP q ≤ w.tasks.countP q := by
  have hdrop : ((w.removeTask task).dropHeld finish t.handle).1.tasks.countP q ≤
      w.tasks.countP q := by
    have hremove := countP_removeTask hnodup ht q
    rw [dropHeld_fst]
    cases t.handle with
    | none =>
        show (w.removeTask task).tasks.countP q ≤ _
        omega
    | some dropped =>
        show ((w.removeTask task).dropHandle dropped).1.tasks.countP q ≤ _
        rw [countP_dropHandle _ hq]
        omega
  have hleave : Passes (fun _ => false) (fun _ => True) _ _ :=
    passes_leaveOwner ((w.removeTask task).dropHeld finish t.handle).1 task t.owner
  simp only [finishTask, ht]
  exact (Nat.le_of_eq (hleave.countP hq rfl)).trans hdrop

theorem countP_abortTask (hq : Ignores client q) (h : w.CallsFit none) (task : TaskId) :
    (w.abortTask task).tasks.countP q ≤ w.tasks.countP q := by
  unfold abortTask
  split
  next => exact Nat.le_refl _
  next t ht =>
    have hnodup := (h.dropTask (task?_mem ht).1).fits.nodup
    unfold dropTask at hnodup ⊢
    split at hnodup
    next closed _ _ _ _ =>
      have hfind : (w.strand closed).task? task = some t := ht
      exact countP_finishTask hq hnodup hfind .aborted
    next =>
      have hdrop : Passes (fun _ => false) (fun _ => True) w
          ((w.dropControl t.id t.control).dropFrames t.id t.frames) :=
        (passes_dropControl w t.id t.control).trans (passes_dropFrames _ t.id t.frames)
      exact (countP_finishTask hq hnodup (hdrop.task? ht) .aborted).trans
        (Nat.le_of_eq (hdrop.countP hq rfl))

theorem countP_help (w : World) (hq : Ignores client q) :
    w.help.tasks.countP q = w.tasks.countP q := by
  have hspawn : ∀ (clients : List ClientId) (v : World),
      (clients.foldl spawnBackgroundClose v).tasks.countP q = v.tasks.countP q := by
    intro clients
    induction clients with
    | nil => exact fun _ => rfl
    | cons dropped rest ih =>
        exact fun v => (ih _).trans (countP_spawnBackgroundClose v hq dropped)
  exact hspawn w.stranded _

theorem Comes.countP (h : Comes may shut w u) (hq : Ignores client q) (hmay : may client = false) :
    u.tasks.countP q = w.tasks.countP q := by
  cases h with
  | passes h => exact h.countP hq hmay
  | @starts other c call hc held shut spawns =>
      have hnone : ∀ id, q ⟨id, .call call, [], some other, none⟩ = false := fun id => by
        refine hq.fresh _ rfl fun hclose => ⟨congrArg some (shut client hclose).symm, ?_⟩
        cases call with
        | spawn made => exact absurd rfl (spawns made)
        | _ => rfl
      unfold World.spawn
      split
      · simp [addTask, signal, hnone]
      · rfl
  | drops hc held => exact countP_dropHandle _ hq _

/-- A part of a move, and then the task goes on. -/
theorem Passes.countP_goto (h : Passes may shut w v) (hq : Ignores client q)
    (hmay : may client = false) (ht : w.task? task = some t) {control : Control}
    {frames : List Frame} (hnodup : ((v.goto task control frames).tasks.map Task.id).Nodup) :
    (v.goto task control frames).tasks.countP q + (q t).toNat =
      w.tasks.countP q + (q { t with control := control, frames := frames }).toNat := by
  rw [ids_goto] at hnodup
  rw [World.countP_goto hnodup (h.task? ht), h.countP hq hmay]

end Counts

end World

namespace Moment

variable {m after last : Moment} {move : Move} {client : ClientId}

/-- A move that nothing stray is involved in adds to a count of tasks at most the polled one. -/
theorem next_countP {q r : Task → Bool} (h : m.CallsFit) (hnext : m.next move = some after)
    (hmay : move.mayClose client = false)
    (hstray : m.world.tasks.countP (Task.isStray client) = 0) (hq : World.Ignores client q)
    (hcut : ∀ {t : Task} {cut : World.Cut}, t ∈ m.world.tasks →
      (m.world.cut? t.frames = some cut ∨ m.world.overdue? t.frames = some cut) →
        q { t with control := cut.control, frames := cut.outer } = true → q t = true)
    (hgoes : ∀ {t : Task} {control : Control} {inner : List Frame},
      m.world.At t.id t.control t.frames → m.polled? = some t →
      m.world.step? t.id = some after.world →
      Fits (World.stepMay t.control t.frames) control inner →
      after.world.task? t.id = some
        { t with control := control, frames := inner ++ World.stepFrames t.control t.frames } →
      q { t with control := control, frames := inner ++ World.stepFrames t.control t.frames } =
        true → q t = true ∨ r t = true) :
    after.world.tasks.countP q ≤ m.world.tasks.countP q + m.stepsOf r move := by
  obtain ⟨active, hafter⟩ := (h.next hnext).fits.exists_callsFit
  obtain ⟨active', hfit⟩ := h.exists_callsFit
  have hnodup := hafter.nodup
  have hle : ∀ {n k : Nat}, n ≤ m.world.tasks.countP q → n ≤ m.world.tasks.countP q + k :=
    fun h => h.trans (Nat.le_add_right _ _)
  cases next_does h hnext with
  | comes hmove h => exact hle (Nat.le_of_eq (h.countP hq hmay))
  | builds spec trace hmove h =>
      obtain ⟨v, c, heq, hpasses, -⟩ : ∃ v c, m.world.addClient spec trace = _ ∧
          World.Passes (fun _ => false) (fun _ => True) m.world v ∧ _ :=
        World.addClient_eq m.world spec trace
      rw [h, heq]
      exact hle (Nat.le_of_eq (hpasses.countP hq rfl))
  | helps hmove h =>
      rw [h]
      exact hle (Nat.le_of_eq (World.countP_help m.world hq))
  | aborts task hmove hfit h =>
      rw [h]
      exact hle (World.countP_abortTask hq hfit task)
  | @leaves hmove task t cut v ht hleft hpasses hgoto =>
      rw [hgoto] at hnodup ⊢
      have hcount := hpasses.countP_goto hq rfl ht hnodup
      have hkept := hcut (World.task?_mem ht).1 hleft
      refine hle ?_
      cases hafter : q { t with control := cut.control, frames := cut.outer } with
      | true => rw [hafter, hkept hafter] at hcount; omega
      | false => rw [hafter] at hcount; simp at hcount; omega
  | @goes polling t hmove hpolling ht hstep h' =>
      obtain ⟨hmem, hid⟩ := World.task?_mem ht
      obtain ⟨v, control, inner, hgoto, hpasses, hfits⟩ := h'
      have hpolled : m.polled? = some t := by rw [polled?, hpolling]; exact ht
      have hnot : t.isStray client = false :=
        Bool.eq_false_iff.2 (List.countP_eq_zero.1 hstray _ hmem)
      rw [← hid] at hstep hgoto
      have hkept := hgoes (h.polled hpolled) hpolled hstep hfits
        (by rw [hgoto, World.task?_goto, hpasses.task? (hid ▸ ht), Option.map_some])
      rw [hgoto] at hnodup ⊢
      have hcount := hpasses.countP_goto hq (Bool.or_eq_false_iff.1 hnot).1 (hid ▸ ht) hnodup
      subst hmove
      simp only [stepsOf, hpolled, Option.any_some]
      cases hq' : q { t with
          control := control, frames := inner ++ World.stepFrames t.control t.frames } with
      | true =>
          rw [hq'] at hcount
          rcases hkept hq' with hbefore | hbefore <;>
            simp only [hbefore, Bool.toNat_true] at hcount ⊢ <;> omega
      | false =>
          rw [hq'] at hcount
          simp only [Bool.toNat_false] at hcount
          omega
  | ends hmove hpolling ht hframes h =>
      rw [h]
      exact hle (World.countP_finishTask hq hfit.nodup ht _)

/-- No move brings about a stray task. -/
theorem next_isStray (h : m.CallsFit) (hnext : m.next move = some after)
    (hmay : move.mayClose client = false)
    (hstray : m.world.tasks.countP (Task.isStray client) = 0) :
    after.world.tasks.countP (Task.isStray client) = 0 := by
  have hnone : ∀ {t}, t ∈ m.world.tasks → t.isStray client = false := fun ht =>
    Bool.eq_false_iff.2 (List.countP_eq_zero.1 hstray _ ht)
  have hcount := next_countP (q := Task.isStray client) (r := fun _ => false) h hnext hmay hstray
    (World.ignores_isStray client)
    (fun ht hcut hafter => by
      rw [World.isStray_cut hcut (hnone ht)] at hafter
      cases hafter)
    (fun hat hpolled hstep hfits hgoto hafter => by
      obtain ⟨hmem, -⟩ := World.task?_mem (polled?_task? hpolled)
      rw [World.isStray_step hat (polled?_task? hpolled) hstep hfits hgoto (hnone hmem)] at hafter
      cases hafter)
  rw [hstray] at hcount
  cases move <;> simpa [stepsOf] using hcount

/-- A close in the background that waits for the lock has begun. -/
theorem next_isLocking (h : m.CallsFit) (hnext : m.next move = some after)
    (hmay : move.mayClose client = false)
    (hstray : m.world.tasks.countP (Task.isStray client) = 0) :
    after.world.tasks.countP (Task.isLocking client) ≤
      m.world.tasks.countP (Task.isLocking client) + m.begins client move :=
  next_countP h hnext hmay hstray (World.ignores_isLocking client)
    (fun ht hcut hafter => by
      rw [World.isLocking_cut (h.taskOk ht).typed hcut] at hafter
      cases hafter)
    (fun hat _ _ hfits _ hafter => World.isLocking_step hat hfits hafter)

end Moment

end Remoting
