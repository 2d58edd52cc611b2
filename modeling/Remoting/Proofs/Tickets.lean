import Remoting.Proofs.Handling
import Remoting.Proofs.Moments

/-!
# Who holds a ticket

Every operation in flight belongs to a call of some task, and its ticket is in the frame of that
call. So the record of a handler and the frames of the tasks say the same: `Tracks` states that the
tickets in frames are those of the record. A move of a run is seen by a handler as a list of deeds,
`Moment.deeds`, and `Spends` says how deeds change hands with the tickets of one task: an admitted
operation gives it a ticket, and only an operation whose ticket it holds can end. Runs in which
somebody reaches into a record are left out, since no user of a handler can do that.
-/

namespace Remoting

/-- The handler whose record an action reaches into. -/
def Action.reaches? : Action → Option HandlerId
  | .register handler _ | .bind handler .. | .cancelAll handler _ | .cancelChannel handler ..
  | .dropTicket handler _ | .dropReceiver handler _ | .pollReceiver handler _ => some handler
  | _ => none

/-- Whether a move leaves the record of a handler to the handler. -/
def Move.Spares (handler : HandlerId) (move : Move) : Prop :=
  ∀ action, move = .act action → action.reaches? ≠ some handler

namespace Move

/-! Only an action can reach into a record. -/

theorem spares_abort (task : TaskId) (handler : HandlerId) : (abort task).Spares handler :=
  fun _ heq => by cases heq

theorem spares_poll (task : TaskId) (handler : HandlerId) : (poll task).Spares handler :=
  fun _ heq => by cases heq

theorem spares_step (handler : HandlerId) : step.Spares handler :=
  fun _ heq => by cases heq

theorem spares_expire (handler : HandlerId) : expire.Spares handler :=
  fun _ heq => by cases heq

instance (handler : HandlerId) (move : Move) : Decidable (move.Spares handler) :=
  match move with
  | act action =>
    decidable_of_iff (action.reaches? ≠ some handler)
      ⟨fun h _ heq => by cases heq; exact h, fun h => h action rfl⟩
  | build .. | pass _ | halt | help | rest => .isTrue fun _ heq => by cases heq
  | abort task => .isTrue (spares_abort task handler)
  | poll task => .isTrue (spares_poll task handler)
  | step => .isTrue (spares_step handler)
  | expire => .isTrue (spares_expire handler)

end Move

/-- A deed at a record that goes along with the tickets of one task: an admitted operation gives it
a ticket, and only an operation whose ticket it holds ends. -/
inductive Spend (tracker : Tracker) : List OperationId → Deed → List OperationId → Prop where
  | accept {ids} : tracker.accepting = true → Spend tracker ids .accept (tracker.nextId :: ids)
  | refuse {ids} : tracker.accepting = false → Spend tracker ids .accept ids
  | bind {ids} (id : OperationId) (channel : ChannelId) : Spend tracker ids (.bind id channel) ids
  | finish {id ids} : Spend tracker (id :: ids) (.finish id) ids
  | stop {ids} : Spend tracker ids .stop ids
  | cancel {ids} (notice : Notice) : Spend tracker ids (.cancel notice) ids

/-- Tickets and receivers stay paired, and the record goes on to hold the tickets of this task and
of the others. -/
theorem Spend.paired {tracker : Tracker} {ids ids' others : List OperationId} {deed : Deed}
    (h : Spend tracker ids deed ids') (hpaired : tracker.Paired)
    (hperm : (ids ++ others).Perm tracker.tickets) :
    (tracker.after deed).Paired ∧ (ids' ++ others).Perm (tracker.after deed).tickets := by
  rw [Tracker.tickets_after]
  cases h with
  | accept haccepting =>
      refine ⟨hpaired.accept, ?_⟩
      rw [if_pos haccepting, List.cons_append]
      exact (hperm.cons _).trans (List.perm_append_singleton _ _).symm
  | refuse haccepting =>
      refine ⟨hpaired.accept, ?_⟩
      rwa [if_neg (by simp [haccepting])]
  | bind id channel => exact ⟨hpaired.bind id channel, hperm⟩
  | @finish id ids =>
      have hmem : id ∈ tracker.tickets := hperm.subset (List.mem_cons_self ..)
      exact ⟨hpaired.finish hmem,
        List.Perm.cons_inv (hperm.trans (List.perm_cons_erase hmem))⟩
  | stop => exact ⟨{ hpaired with }, hperm⟩
  | cancel notice => exact ⟨hpaired.cancel notice, hperm⟩

/-- Deeds at a record that go along with the tickets of one task. -/
inductive Spends : Tracker → List OperationId → List Deed → Tracker → List OperationId → Prop where
  | nil {tracker ids} : Spends tracker ids [] tracker ids
  | cons {tracker ids deed middle deeds tracker' ids'} : Spend tracker ids deed middle →
      Spends (tracker.after deed) middle deeds tracker' ids' →
      Spends tracker ids (deed :: deeds) tracker' ids'

namespace Spends

variable {tracker tracker' : Tracker} {ids ids' others : List OperationId} {deeds : List Deed}

theorem tracker_eq (h : Spends tracker ids deeds tracker' ids') :
    tracker' = deeds.foldl Tracker.after tracker := by
  induction h with
  | nil => rfl
  | cons _ _ ih => exact ih

theorem paired (h : Spends tracker ids deeds tracker' ids') (hpaired : tracker.Paired)
    (hperm : (ids ++ others).Perm tracker.tickets) :
    tracker'.Paired ∧ (ids' ++ others).Perm tracker'.tickets := by
  induction h with
  | nil => exact ⟨hpaired, hperm⟩
  | cons hspend _ ih =>
      obtain ⟨hpaired, hperm⟩ := hspend.paired hpaired hperm
      exact ih hpaired hperm

/-- The end of all operations of some calls. -/
theorem drops (tracker : Tracker) (dropped ids : List OperationId) :
    ∃ tracker', Spends tracker (dropped ++ ids) (dropped.map .finish) tracker' ids := by
  induction dropped generalizing tracker with
  | nil => exact ⟨tracker, .nil⟩
  | cons id dropped ih =>
      obtain ⟨tracker', h⟩ := ih (tracker.after (.finish id))
      exact ⟨tracker', .cons .finish h⟩

end Spends

/-- Whether deeds only tell a handler something. -/
def Deed.Tells : Deed → Prop
  | .stop | .cancel _ => True
  | _ => False

theorem Deed.tells_nil : ∀ deed ∈ ([] : List Deed), deed.Tells :=
  fun _ hdeed => absurd hdeed List.not_mem_nil

theorem Spends.tells {deeds : List Deed} (h : ∀ deed ∈ deeds, deed.Tells) (tracker : Tracker)
    (ids : List OperationId) : ∃ tracker', Spends tracker ids deeds tracker' ids := by
  induction deeds generalizing tracker with
  | nil => exact ⟨tracker, .nil⟩
  | cons deed deeds ih =>
      obtain ⟨tracker', hrest⟩ := ih (fun deed hdeed => h deed (List.mem_cons_of_mem _ hdeed))
        (tracker.after deed)
      have htells := h deed (List.mem_cons_self ..)
      refine ⟨tracker', .cons ?_ hrest⟩
      cases deed with
      | stop => exact .stop
      | cancel notice => exact .cancel notice
      | _ => exact absurd htells id

namespace World

variable {lines : LogLine → Prop} {handler : HandlerId} {deeds : List Deed} {w v u : World}
  {task : TaskId} {frames : List Frame} {ids : List OperationId}

/-- The tickets of a handler that are in frames. -/
def held (handler : HandlerId) (frames : List Frame) : List OperationId :=
  frames.filterMap (Frame.ticket? handler)

theorem dropDeeds_eq (handler : HandlerId) (frames : List Frame) :
    dropDeeds handler frames = (held handler frames).map .finish :=
  rfl

theorem mem_held {frame : Frame} {id : OperationId} (hframe : frame ∈ frames)
    (hticket : frame.ticket? handler = some id) : id ∈ held handler frames :=
  List.mem_filterMap.2 ⟨frame, hframe, hticket⟩

/-- A task that is inside a frame with a ticket holds the ticket. -/
theorem mem_held_of_inside {inner outer : List Frame} {frame : Frame} {id : OperationId}
    (hframes : frames = inner ++ frame :: outer) (hticket : frame.ticket? handler = some id) :
    id ∈ held handler frames := by
  refine mem_held ?_ hticket
  rw [hframes]
  exact List.mem_append_right _ (List.mem_cons_self ..)

/-- The innermost frame is one that a task is inside of. -/
theorem mem_held_of_head? {frame : Frame} {id : OperationId} (hframe : frames.head? = some frame)
    (hticket : frame.ticket? handler = some id) : id ∈ held handler frames :=
  mem_held (List.mem_of_head? hframe) hticket

/-! ## The tickets of all tasks -/

/-- The tickets of all tasks are those of one task and those of the others. -/
theorem tickets_perm (hnodup : (w.tasks.map Task.id).Nodup) {t : Task}
    (ht : w.task? task = some t) (handler : HandlerId) :
    (w.tickets handler).Perm (held handler t.frames ++ w.ticketsBut task handler) := by
  obtain ⟨hmem, rfl⟩ := task?_mem ht
  obtain ⟨first, last, hsplit⟩ := List.append_of_mem hmem
  -- no other task has the number of this one
  have hother : ∀ t' ∈ first ++ last, t'.id ≠ t.id := by
    intro t' ht' heq
    rw [hsplit, List.map_append, List.map_cons] at hnodup
    have hnot := (List.nodup_cons.1 (List.perm_middle.nodup hnodup)).1
    rw [← List.map_append] at hnot
    exact hnot (heq ▸ List.mem_map_of_mem ht')
  have hbut : w.tasks.filter (·.id ≠ t.id) = first ++ last := by
    rw [hsplit, List.filter_append, List.filter_cons_of_neg (by simp), ← List.filter_append,
      List.filter_eq_self]
    exact fun t' ht' => by simpa using hother t' ht'
  rw [tickets, ticketsBut, hbut, hsplit, List.flatMap_append, List.flatMap_cons,
    List.flatMap_append]
  exact List.perm_append_comm_assoc _ _ _

theorem ticketsBut_goto (w : World) (task : TaskId) (control : Control) (frames : List Frame)
    (handler : HandlerId) :
    (w.goto task control frames).ticketsBut task handler = w.ticketsBut task handler := by
  simp only [ticketsBut, goto, List.filter_map]
  have hpred : (fun t : Task => decide (t.id ≠ task)) ∘
      (fun t => if t.id = task then { t with control, frames } else t) =
        fun t => decide (t.id ≠ task) := by
    funext t
    simp only [Function.comp, goto_id]
  rw [hpred, List.flatMap_map]
  refine List.flatMap_congr fun t ht => ?_
  have hne : t.id ≠ task := by simpa using (List.mem_filter.1 ht).2
  rw [if_neg hne]

theorem tickets_removeTask (w : World) (task : TaskId) (handler : HandlerId) :
    (w.removeTask task).tickets handler = w.ticketsBut task handler :=
  rfl

/-- A part of a step keeps every task. -/
theorem Deals.task? (h : Deals lines handler deeds w u) {t : Task} (ht : w.task? task = some t) :
    u.task? task = some t := by
  obtain ⟨new, hnew, -⟩ := h.tasks
  rw [World.task?, hnew, List.find?_append]
  simp [show w.tasks.find? (fun t => decide (t.id = task)) = some t from ht]

/-- A part of a step lets no ticket change hands. -/
theorem Deals.tickets (h : Deals lines handler deeds w u) :
    u.tickets handler = w.tickets handler := by
  obtain ⟨new, hnew, hnone⟩ := h.tasks
  rw [World.tickets, hnew, List.flatMap_append, List.flatMap_eq_nil_iff.2 hnone, List.append_nil,
    World.tickets]

theorem Deals.ticketsBut (h : Deals lines handler deeds w u) (task : TaskId) :
    u.ticketsBut task handler = w.ticketsBut task handler := by
  obtain ⟨new, hnew, hnone⟩ := h.tasks
  have hnone' : (new.filter (·.id ≠ task)).flatMap (Task.tickets handler) = [] :=
    List.flatMap_eq_nil_iff.2 fun t ht => hnone t (List.mem_filter.1 ht).1
  rw [World.ticketsBut, hnew, List.filter_append, List.flatMap_append, hnone', List.append_nil,
    World.ticketsBut]

/-- A step of a task leaves the tickets of the others alone. -/
theorem Runs.ticketsBut (h : Runs lines handler deeds ids task frames w u) :
    u.ticketsBut task handler = w.ticketsBut task handler := by
  obtain ⟨v, control, inner, rfl, -, hdeals⟩ := h
  rw [ticketsBut_goto, hdeals.ticketsBut]

/-- What a task has after a step. -/
theorem Runs.task? (h : Runs lines handler deeds ids task frames w u) {t : Task}
    (ht : w.task? task = some t) : ∃ control inner, held handler inner = ids ∧
      u.task? task = some { t with control, frames := inner ++ frames } := by
  obtain ⟨v, control, inner, rfl, hids, hdeals⟩ := h
  refine ⟨control, inner, hids, ?_⟩
  rw [task?_goto, hdeals.task? ht]
  rfl

theorem Runs.tickets (h : Runs lines handler deeds ids task frames w u)
    (hnodup : (u.tasks.map Task.id).Nodup) {t : Task} (ht : w.task? task = some t) :
    (u.tickets handler).Perm ((ids ++ held handler frames) ++ w.ticketsBut task handler) := by
  obtain ⟨control, inner, hids, hu⟩ := h.task? ht
  have hperm := tickets_perm hnodup hu handler
  rwa [h.ticketsBut, show held handler (inner ++ frames) = ids ++ held handler frames from by
    rw [held, List.filterMap_append, ← hids]; rfl] at hperm

theorem Runs.lasts (h : Runs lines handler deeds ids task frames w u) : Lasts w u := by
  obtain ⟨v, control, inner, rfl, -, hdeals⟩ := h
  exact hdeals.toLasts.trans (.of_eq rfl rfl rfl rfl rfl rfl rfl (List.Subset.refl _))

theorem Runs.tracker (h : Runs lines handler deeds ids task frames w u) :
    u.tracker? handler =
      (w.tracker? handler).map fun tracker => deeds.foldl Tracker.after tracker := by
  obtain ⟨v, control, inner, rfl, -, hdeals⟩ := h
  exact hdeals.tracker

theorem Runs.now (h : Runs lines handler deeds ids task frames w u) : u.now = w.now := by
  obtain ⟨v, control, inner, rfl, -, hdeals⟩ := h
  exact hdeals.now

theorem Runs.traces (h : Runs lines handler deeds ids task frames w u) : u.traces = w.traces := by
  obtain ⟨v, control, inner, rfl, -, hdeals⟩ := h
  exact hdeals.traces

theorem Runs.log (h : Runs lines handler deeds ids task frames w u) : Writes lines w u := by
  obtain ⟨v, control, inner, rfl, -, hdeals⟩ := h
  exact hdeals.log.trans (.of_eq rfl)

/-! ## Leaving calls -/

theorem runs_leaveCall (w : World) (task : TaskId) (control : Control) (cut : Cut)
    (hfail : ∀ td deadline, .teardown td (.drain deadline) ∈ cut.inner →
      MayFail lines (td.client + 1)) :
    Runs lines handler (dropDeeds handler (cut.inner ++ [cut.frame])) [] task cut.outer w
      (w.leaveCall task control cut) := by
  have hcontrol : Deals lines handler [] w _ := deals_dropControl w task control
  have hinner := hcontrol.trans (deals_dropFrames (w.dropControl task control) task cut.inner hfail)
  rw [List.nil_append] at hinner
  unfold leaveCall
  dsimp only
  split
  next t pause hcut =>
    rw [hcut, dropDeeds_append]
    have hsame : ∀ v, Deals lines handler (dropDeeds handler [Frame.teardown t pause]) v v := .refl
    exact (hinner.trans (hsame _)).runs task _ cut.outer
  next hcut =>
    have hframe := hinner.trans (deals_dropFrame _ task cut.frame
      fun t deadline heq => absurd heq (hcut t (.drain deadline)))
    rw [← dropDeeds_append] at hframe
    exact hframe.runs task _ cut.outer

/-- A call that is left because its time limit is over. -/
theorem runs_expire {t : Task} {cut : Cut} (ht : w.task? task = some t)
    (hcut : w.overdue? t.frames = some cut)
    (hfail : ∀ td deadline, .teardown td (.drain deadline) ∈ cut.inner →
      MayFail lines (td.client + 1))
    (hlate : ∀ td pause, cut.frame = .teardown td pause → MayMiss lines (td.client + 1)) :
    Runs lines handler (dropDeeds handler (cut.inner ++ [cut.frame])) [] task cut.outer w
      (w.expireDrain task) := by
  have hleave : Runs lines handler _ _ _ _ _ _ := runs_leaveCall w task t.control cut hfail
  unfold expireDrain
  rw [ht]
  dsimp only
  rw [hcut]
  dsimp only
  split
  next td pause hframe =>
    obtain ⟨v, control, inner, heq, hids, hdeals⟩ := hleave
    rw [heq]
    exact ⟨v.drainTimeout td.client, control, inner, rfl, hids,
      hdeals.and (deals_drainTimeout v (hlate td pause hframe))⟩
  next => exact hleave

end World

end Remoting
