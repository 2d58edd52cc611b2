import Mathlib.Data.List.Basic
import Remoting.Proofs.Moving
import Remoting.Proofs.Returning

/-!
# Who stands in the queue of a lock

The queue of a lock is the task that has it and then the tasks that wait for it. A task stands in
the queue of a client's lock only while one of its calls asks for the lock or holds it, and no other
task puts it there or takes it out. `Seated` says this of a part of a step, with the locks that the
calls of the task may ask for or hold, and `Seats` of a world.
-/

namespace Remoting

namespace Lock

/-- The task that has a lock and then those that wait for it. -/
def queue (lock : Lock) : List TaskId :=
  lock.owner.toList ++ lock.waiting

/-- Nobody waits for a lock that nobody has, and nobody stands in the queue twice. -/
structure SingleFile (lock : Lock) : Prop where
  idle : lock.owner = none → lock.waiting = []
  nodup : lock.queue.Nodup

variable {lock : Lock} {task id next : TaskId}

theorem free_singleFile : free.SingleFile :=
  ⟨fun _ => rfl, .nil⟩

theorem request_of_owner {owner : TaskId} (howner : lock.owner = some owner) (task : TaskId) :
    lock.request task = if task ∈ lock.queue then lock
      else { lock with waiting := lock.waiting ++ [task] } := by
  obtain ⟨owner', waiting⟩ := lock
  cases howner
  by_cases h : owner = task
  · simp [request, queue, h]
  · by_cases hwaiting : task ∈ waiting <;> simp [request, queue, h, Ne.symm h, hwaiting]

theorem mem_queue_request (h : lock.SingleFile) :
    id ∈ (lock.request task).queue ↔ id ∈ lock.queue ∨ id = task := by
  cases howner : lock.owner with
  | none => simp [request, queue, howner, h.idle howner]
  | some owner =>
      rw [request_of_owner howner]
      split
      next hmem => exact ⟨.inl, fun hid => hid.elim (fun hid => hid) (· ▸ hmem)⟩
      next => simp [queue, or_assoc]

theorem SingleFile.request (h : lock.SingleFile) (task : TaskId) : (lock.request task).SingleFile :=
    by
  cases howner : lock.owner with
  | none =>
      have heq : lock.request task = ⟨some task, []⟩ := by
        simp [Lock.request, howner, h.idle howner]
      rw [heq]
      exact ⟨(fun heq => by cases heq), List.nodup_singleton task⟩
  | some owner =>
      rw [request_of_owner howner]
      split
      next => exact h
      next hnot =>
        refine ⟨fun hnone => absurd (howner.symm.trans hnone) (Option.some_ne_none _), ?_⟩
        show (lock.owner.toList ++ (lock.waiting ++ [task])).Nodup
        rw [← List.append_assoc]
        exact List.nodup_append.2 ⟨h.nodup, List.nodup_singleton task, fun a ha b hb heq =>
          hnot (List.mem_singleton.1 hb ▸ heq ▸ ha)⟩

/-- Whoever leaves is taken out of the queue. -/
theorem queue_leave (h : lock.SingleFile) (task : TaskId) :
    (lock.leave task).queue = lock.queue.erase task := by
  obtain ⟨owner, waiting⟩ := lock
  cases owner with
  | none =>
      obtain rfl : waiting = [] := h.idle rfl
      rfl
  | some owner =>
      by_cases howner : owner = task
      · subst howner
        cases waiting <;> simp [leave, queue]
      · simp [leave, queue, howner]

theorem mem_queue_leave (h : lock.SingleFile) :
    id ∈ (lock.leave task).queue ↔ id ∈ lock.queue ∧ id ≠ task := by
  rw [queue_leave h, h.nodup.mem_erase_iff, and_comm]

theorem SingleFile.leave (h : lock.SingleFile) (task : TaskId) : (lock.leave task).SingleFile where
  nodup := by
    rw [queue_leave h]
    exact h.nodup.erase task
  idle hnone := by
    obtain ⟨owner, waiting⟩ := lock
    unfold Lock.leave at hnone ⊢
    split at hnone
    next howner =>
      rw [if_pos howner]
      cases waiting with
      | nil => rfl
      | cons first rest => cases hnone
    next howner =>
      obtain rfl : owner = none := hnone
      obtain rfl : waiting = [] := h.idle rfl
      rfl

/-- The owner's place in the queue goes to the task that it hands the lock to. -/
theorem queue_give (howner : lock.owner = some task) (next : TaskId) :
    lock.queue = task :: lock.waiting ∧ (lock.give next).queue = next :: lock.waiting := by
  simp [queue, give, howner]

theorem mem_queue_give (h : lock.SingleFile) (howner : lock.owner = some task)
    (hnext : next ∉ lock.queue) :
    id ∈ (lock.give next).queue ↔ id = next ∨ id ∈ lock.queue ∧ id ≠ task := by
  obtain ⟨hqueue, hgiven⟩ := queue_give howner next
  have hnodup := h.nodup
  rw [hqueue] at hnodup hnext ⊢
  rw [hgiven, List.mem_cons, List.mem_cons]
  have hnot := (List.nodup_cons.1 hnodup).1
  constructor
  · rintro (rfl | hid)
    · exact .inl rfl
    · exact .inr ⟨.inr hid, fun heq => hnot (heq ▸ hid)⟩
  · rintro (rfl | ⟨rfl | hid, hne⟩)
    · exact .inl rfl
    · exact absurd rfl hne
    · exact .inr hid

theorem SingleFile.give (h : lock.SingleFile) (howner : lock.owner = some task)
    (hnext : next ∉ lock.queue) :
    (lock.give next).SingleFile := by
  obtain ⟨hqueue, hgiven⟩ := queue_give howner next
  refine ⟨(fun heq => by cases heq), ?_⟩
  have hnodup := h.nodup
  rw [hqueue] at hnodup hnext
  rw [hgiven]
  exact List.nodup_cons.2 ⟨fun hmem => hnext (List.mem_cons_of_mem _ hmem),
    (List.nodup_cons.1 hnodup).2⟩

end Lock

/-- The client whose lock an enclosing call holds. -/
def Frame.claim? : Frame → Option ClientId
  | .creation client _ _ | .channel client _ _ => some client
  | .teardown t _ => some t.client
  | _ => none

/-- The client whose lock a call waits for. -/
def Frame.ask? : Frame → Option ClientId
  | .getLock client | .closeLock client _ | .recordLock client _ => some client
  | _ => none

/-- The client whose lock a call holds that a task is about to make, or whose lock its innermost
call waits for or has just got. -/
def Control.claim? : Control → List Frame → Option ClientId
  | .call (.connect client _), _ | .call (.openChannel client _), _ => some client
  | .call (.teardown t _), _ => some t.client
  | .wait (.lock _), frame :: _ | .reply _, frame :: _ => frame.ask?
  | _, _ => none

/-- A call around what a task does holds the lock of a client. -/
def Framed (frames : List Frame) (client : ClientId) : Prop :=
  ∃ frame ∈ frames, frame.claim? = some client

/-- A task waits for the lock of a client, has just got it or holds it. -/
def Claims (control : Control) (frames : List Frame) (client : ClientId) : Prop :=
  control.claim? frames = some client ∨ Framed frames client

theorem not_framed_nil (client : ClientId) : ¬ Framed [] client := by
  rintro ⟨frame, hframe, -⟩
  cases hframe

theorem Framed.mono {frames frames' : List Frame} {client : ClientId} (h : Framed frames client)
    (hframes : ∀ frame ∈ frames, frame ∈ frames' ∨ frame.claim? = none) :
    Framed frames' client := by
  obtain ⟨frame, hframe, hclaim⟩ := h
  rcases hframes frame hframe with hmem | hnone
  · exact ⟨frame, hmem, hclaim⟩
  · rw [hnone] at hclaim
    cases hclaim

theorem Claims.framed {control : Control} {frames : List Frame} {client : ClientId}
    (h : Claims control frames client) (hcontrol : control.claim? frames = none) :
    Framed frames client := by
  refine h.resolve_left fun hclaim => ?_
  rw [hcontrol] at hclaim
  cases hclaim

/-- The claims of the frames are kept. -/
theorem Claims.mono {control control' : Control} {frames frames' : List Frame} {client : ClientId}
    (h : Claims control frames client) (hcontrol : control.claim? frames = none)
    (hframes : ∀ frame ∈ frames, frame ∈ frames' ∨ frame.claim? = none) :
    Claims control' frames' client :=
  .inr ((h.framed hcontrol).mono hframes)

namespace World

variable {w v u : World} {task : TaskId} {client : ClientId} {control control' : Control}
  {frames frames' : List Frame} {claims claims' : ClientId → Prop}

/-- The queue of a client's lock. -/
def queue (w : World) (client : ClientId) : List TaskId :=
  ((w.lock? client).map Lock.queue).getD []

theorem queue_of_lock? {lock : Lock} (h : w.lock? client = some lock) :
    w.queue client = lock.queue := by
  rw [queue, h]
  rfl

theorem queue_congr (h : u.lock? client = w.lock? client) : u.queue client = w.queue client := by
  rw [queue, queue, h]

theorem exists_lock_of_mem {id : TaskId} (h : id ∈ w.queue client) :
    ∃ lock, w.lock? client = some lock ∧ id ∈ lock.queue := by
  unfold queue at h
  cases hlock : w.lock? client with
  | none =>
      rw [hlock] at h
      cases h
  | some lock =>
      rw [hlock] at h
      exact ⟨lock, rfl, h⟩

theorem lock?_modifyClient (w : World) (client : ClientId) (change : Client → Client)
    (other : ClientId) : (w.modifyClient client change).lock? other =
      w.clients[other]?.map fun c => if client = other then (change c).lock else c.lock := by
  simp only [lock?, modifyClient, List.getElem?_modify]
  cases w.clients[other]? with
  | none => rfl
  | some c => by_cases h : client = other <;> simp [h]

/-- A change of a client that leaves its lock alone. -/
theorem lock?_modifyClient_of_eq (w : World) (client : ClientId) (change : Client → Client)
    (hlock : ∀ c, (change c).lock = c.lock) (other : ClientId) :
    (w.modifyClient client change).lock? other = w.lock? other := by
  rw [lock?_modifyClient, lock?]
  congr 1
  funext c
  rw [hlock, ite_self]

/-- A change of the lock of a client. -/
theorem lock?_modifyLock (w : World) (client : ClientId) (change : Lock → Lock) (other : ClientId) :
    (w.modifyClient client fun c => { c with lock := change c.lock }).lock? other =
      (w.lock? other).map fun lock => if client = other then change lock else lock := by
  rw [lock?_modifyClient, lock?, Option.map_map]
  rfl

theorem lock?_leaveLock (w : World) (task : TaskId) (client other : ClientId) :
    (w.leaveLock task client).lock? other =
      (w.lock? other).map fun lock => if client = other then lock.leave task else lock := by
  rw [← lock?_modifyLock]
  unfold leaveLock
  dsimp only
  split
  · exact (quiet_signal _ _).lock other
  · rfl

theorem lock?_giveLock (w : World) (client : ClientId) (next : TaskId) (other : ClientId) :
    (w.giveLock client next).lock? other =
      (w.lock? other).map fun lock => if client = other then lock.give next else lock :=
  lock?_modifyLock w client (·.give next) other

/-- The owner of a lock is the first in its queue. -/
theorem mem_queue_of_owner? (h : w.owner? client = some task) : task ∈ w.queue client := by
  obtain ⟨lock, hlock, howner⟩ := Option.bind_eq_some_iff.1 ((owner?_eq w client).symm.trans h)
  rw [queue_of_lock? hlock, Lock.queue, howner]
  exact List.mem_append_left _ (List.mem_singleton_self _)

section Giving

variable {next : TaskId}
  (hfile : ∀ {client lock}, w.lock? client = some lock → lock.SingleFile)
  (howner : w.owner? client = some task) (hnew : next ∉ w.queue client)
include hfile howner hnew

/-- Tasks still stand in single file for a lock when its owner hands it to one that is not in the
queue. -/
theorem singleFile_giveLock {other : ClientId} {lock : Lock}
    (h : (w.giveLock client next).lock? other = some lock) : lock.SingleFile := by
  rw [lock?_giveLock] at h
  obtain ⟨before, hbefore, rfl⟩ := Option.map_eq_some_iff.1 h
  split
  next heq =>
    subst heq
    rw [owner?_eq, hbefore] at howner
    rw [queue_of_lock? hbefore] at hnew
    exact (hfile hbefore).give howner hnew
  next => exact hfile hbefore

/-- The new owner stands in the queue in place of the one before. The queues of other locks stay. -/
theorem mem_queue_giveLock {other : ClientId} {id : TaskId} :
    id ∈ (w.giveLock client next).queue other ↔
      if client = other then id = next ∨ id ∈ w.queue other ∧ id ≠ task
      else id ∈ w.queue other := by
  have hlock := lock?_giveLock w client next other
  split
  next heq =>
    subst heq
    obtain ⟨lock, hsome, hlockOwner⟩ :=
      Option.bind_eq_some_iff.1 ((owner?_eq w client).symm.trans howner)
    rw [hsome, Option.map_some, if_pos rfl] at hlock
    rw [queue_of_lock? hsome] at hnew ⊢
    rw [queue_of_lock? hlock]
    exact Lock.mem_queue_give (hfile hsome) hlockOwner hnew
  next hne =>
    simp only [hne, if_false, Option.map_id'] at hlock
    rw [queue_congr hlock]

end Giving

/-! ## Parts of steps -/

/-- Between two points of a task the queues have changed by nothing but what the task does, and it
stands in the queues of no other locks than those of the given clients. -/
structure Seated (w u : World) (task : TaskId) (claims : ClientId → Prop) : Prop where
  singleFile : ∀ {client lock}, u.lock? client = some lock → lock.SingleFile
  others : ∀ {client id}, id ≠ task → (id ∈ u.queue client ↔ id ∈ w.queue client)
  own : ∀ {client}, task ∈ u.queue client → claims client

theorem Seated.weaken (h : Seated w u task claims)
    (himp : ∀ client, claims client → claims' client) :
    Seated w u task claims' :=
  ⟨h.singleFile, h.others, fun hmem => himp _ (h.own hmem)⟩

theorem Seated.locks (h : Seated w v task claims)
    (hlock : ∀ client, u.lock? client = v.lock? client) :
    Seated w u task claims where
  singleFile hsome := h.singleFile ((hlock _).symm.trans hsome)
  others hne := by
    rw [queue_congr (hlock _)]
    exact h.others hne
  own hmem := h.own (by rwa [queue_congr (hlock _)] at hmem)

/-- A change of one lock. -/
theorem Seated.relock (h : Seated w v task claims) {change : Lock → Lock}
    (hlock : ∀ other, u.lock? other =
      (v.lock? other).map fun lock => if client = other then change lock else lock)
    (hfile : ∀ {lock}, v.lock? client = some lock → lock.SingleFile → (change lock).SingleFile)
    (hothers : ∀ {lock id}, v.lock? client = some lock → lock.SingleFile → id ≠ task →
      (id ∈ (change lock).queue ↔ id ∈ lock.queue))
    (hown : ∀ {other}, task ∈ v.queue other → claims other → other ≠ client → claims' other)
    (hclient : ∀ {lock}, v.lock? client = some lock → lock.SingleFile →
      task ∈ (change lock).queue → claims' client) :
    Seated w u task claims' where
  singleFile {other lock} hsome := by
    rw [hlock] at hsome
    obtain ⟨before, hbefore, rfl⟩ := Option.map_eq_some_iff.1 hsome
    split
    next heq =>
      subst heq
      exact hfile hbefore (h.singleFile hbefore)
    next => exact h.singleFile hbefore
  others {other id} hne := by
    -- the change is only about the lock of one client, so the queues differ there at most
    rw [← h.others hne]
    cases hbefore : v.lock? other with
    | none => simp [queue, hlock, hbefore]
    | some before =>
        rw [queue_of_lock? hbefore, queue_of_lock? (by rw [hlock, hbefore]; rfl)]
        split
        next heq =>
          subst heq
          exact hothers hbefore (h.singleFile hbefore) hne
        next => exact Iff.rfl
  own {other} hmem := by
    obtain ⟨lock, hsome, hin⟩ := exists_lock_of_mem hmem
    rw [hlock] at hsome
    obtain ⟨before, hbefore, rfl⟩ := Option.map_eq_some_iff.1 hsome
    split at hin
    next heq =>
      subst heq
      exact hclient hbefore (h.singleFile hbefore) hin
    next hne =>
      have hqueue : task ∈ v.queue other := by rwa [queue_of_lock? hbefore]
      exact hown hqueue (h.own hqueue) (Ne.symm hne)

/-- A task that asks for a lock may stand in its queue. -/
theorem Seated.request (h : Seated w v task claims) (client : ClientId) :
    Seated w (v.requestLock task client) task fun other => claims other ∨ other = client :=
  h.relock (lock?_modifyLock v client (·.request task)) (fun _ hfile => hfile.request task)
    (fun _ hfile hne => (Lock.mem_queue_request hfile).trans (or_iff_left hne))
    (fun _ hclaims _ => .inl hclaims) fun _ _ _ => .inr rfl

/-- A task that gives up a lock stands in its queue no longer. -/
theorem Seated.leave (h : Seated w v task claims) (client : ClientId) :
    Seated w (v.leaveLock task client) task fun other => claims other ∧ other ≠ client :=
  h.relock (lock?_leaveLock v task client) (fun _ hfile => hfile.leave task)
    (fun _ hfile hne => (Lock.mem_queue_leave hfile).trans (and_iff_left hne))
    (fun _ hclaims hne => ⟨hclaims, hne⟩)
    fun _ hfile hmem => absurd rfl ((Lock.mem_queue_leave hfile).1 hmem).2

/-! ## Steps -/

/-- A step of a task changes the queues by nothing but what the task does and what a new task does
that it hands a lock to, and leaves it in the queues of no other locks than those that its calls ask
for or hold. -/
structure Lands (w u : World) (task : TaskId) : Prop where
  singleFile : ∀ {client lock}, u.lock? client = some lock → lock.SingleFile
  others : ∀ {client id}, id ≠ task → id ∈ u.queue client → id ∈ w.queue client ∨
    ∃ t, u.task? id = some t ∧ Claims t.control t.frames client
  stays : ∀ {client id}, id ≠ task → id ∈ w.queue client → id ∈ u.queue client
  own : ∀ {client t}, task ∈ u.queue client → u.task? task = some t →
    Claims t.control t.frames client

/-- The task goes on with the claims that it has. -/
theorem Seated.goto (h : Seated w v task (Claims control frames)) :
    Lands w (v.goto task control frames) task where
  singleFile := h.singleFile
  others hne hmem := .inl ((h.others hne).1 hmem)
  stays hne hmem := (h.others hne).2 hmem
  own hmem ht := by
    obtain ⟨rfl, rfl⟩ := of_task?_goto ht
    exact h.own hmem

/-- A step that leaves all locks alone keeps the claims of the frames that it does not take off. -/
theorem Seated.inner (h : Seated w w task (Claims control frames))
    (hcontrol : control.claim? frames = none) (hlock : ∀ client, v.lock? client = w.lock? client)
    (hframes : ∀ frame ∈ frames, frame ∈ frames' ∨ frame.claim? = none) :
    Lands w (v.goto task control' frames') task :=
  ((h.weaken fun _ hclaims => hclaims.mono hcontrol hframes).locks hlock).goto

theorem Seated.stay (h : Seated w w task (Claims control frames))
    (hcontrol : control.claim? frames = none) (hlock : ∀ client, v.lock? client = w.lock? client) :
    Lands w (v.goto task control' frames) task :=
  h.inner hcontrol hlock fun _ hframe => .inl hframe

theorem Seated.push {frame : Frame} (h : Seated w w task (Claims control frames))
    (hcontrol : control.claim? frames = none) (hlock : ∀ client, v.lock? client = w.lock? client) :
    Lands w (v.goto task control' (frame :: frames)) task :=
  h.inner hcontrol hlock fun _ hframe => .inl (List.mem_cons_of_mem _ hframe)

theorem Seated.pop {frame : Frame} (h : Seated w w task (Claims control (frame :: frames)))
    (hcontrol : control.claim? (frame :: frames) = none) (hframe : frame.claim? = none)
    (hlock : ∀ client, v.lock? client = w.lock? client) :
    Lands w (v.goto task control' frames) task :=
  h.inner hcontrol hlock (List.forall_mem_cons.2 ⟨.inr hframe, fun _ hmem => .inl hmem⟩)

end World

end Remoting
