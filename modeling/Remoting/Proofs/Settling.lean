import Remoting.Proofs.Aftermath
import Remoting.Proofs.Minding

/-!
# Where nothing can happen any more

In a world that stands still every task waits in vain, and none for a time to come. A call that has
the lock there waits for a collaborator that never answers, so that its turn is over and has no end;
every other call that has had the lock has ended as its turn has. If all turns have an end, nobody
is left in the queue of the lock: every call that was started has had it.
-/

namespace Remoting

namespace World

/-- A task waits in vain, and not for a time to come. -/
structure Stuck (w : World) (t : Task) (wait : Wait) : Prop where
  control : t.control = .wait wait
  vain : w.ready? t.id wait = none
  sleepless : ∀ deadline, wait ≠ .sleep deadline
  drainless : ∀ td deadline, Frame.teardown td (.drain deadline) ∉ t.frames

/-- No task gets on any more. -/
def Still (w : World) : Prop :=
  ∀ t ∈ w.tasks, ∃ wait, w.Stuck t wait

end World

namespace Serial

variable {s : Serial} {outcome : Option Ending} {inner : List Frame} {wait : Wait}

/-- A collaborator that does not answer in time never does. -/
theorem Acts.eq_none (h : Acts outcome (.wait wait) inner)
    (hsleep : ∀ deadline, wait ≠ .sleep deadline) :
    outcome = none := by
  cases h with
  | sleeps behaviour h =>
      rcases h with ⟨deadline, heq⟩ | ⟨reply, heq⟩
      · cases heq
        exact absurd rfl (hsleep deadline)
      · cases heq
  | silent => rfl

/-- The call with the lock does not wait for it. -/
theorem Busy.ne_lock {control : Control} {frames : List Frame} {turn : Turn}
    (h : s.Busy control frames turn) (client : ClientId) : control ≠ .wait (.lock client) := by
  have hacts : ∀ {outcome control inner}, Acts outcome control inner →
      control ≠ .wait (.lock client) := by
    intro outcome control inner h heq
    cases h with
    | sleeps behaviour h =>
        rcases h with ⟨deadline, rfl⟩ | ⟨reply, rfl⟩ <;> cases heq
    | _ => cases heq
  cases h with
  | connect | openChannel | stage => exact fun heq => by cases heq
  | creation _ _ _ h | channel _ h | strategy _ _ h => exact hacts h
  | drain _ h =>
      cases h with
      | acts h => exact hacts h
      | _ => exact fun heq => by cases heq
  | endpoint _ _ h =>
      cases h with
      | acts h => exact hacts h
      | lingers h => cases h <;> exact fun heq => by cases heq
      | _ => exact fun heq => by cases heq

end Serial

namespace World

variable {w : World} {s first : Serial} {task : TaskId} {t : Task} {wait : Wait}
  {polled : Option TaskId} {charge : Option (TaskId × Option Finish)}
  {started order : List (TaskId × Use)} {turns : List Serial.Turn} {turn : Serial.Turn}
  {result : Option Finish} {finish : Finish} {use : Use}

/-! ## The endpoint -/

/-- The tasks of the endpoint are where they were left. -/
theorem Serves.isOwned (h : w.Serves first started order polled charge)
    (horderly : w.Orderly polled) (ht : t ∈ w.tasks) (howner : t.owner = some 0) : t.IsOwned := by
  have hnot : t.owner ≠ none := fun hnone => by cases howner.symm.trans hnone
  rcases h.spots t ht with
    ⟨-, hnone, -⟩ | howned | ⟨result, hcharge⟩ | ⟨-, hnone, -⟩ | ⟨-, hnone, -⟩
  · exact absurd hnone hnot
  · exact howned
  · have hphase := h.phase
    rw [hcharge] at hphase
    generalize first.play (order.map Prod.snd) = turns at hphase
    cases hphase with
    | busy hends ht' hnone =>
        cases (horderly.task?_eq ht).symm.trans ht'
        exact absurd hnone hnot
  · exact absurd hnone hnot
  · exact absurd hnone hnot

/-- A task of an endpoint that was told to close goes on sooner or later. -/
theorem Stuck.not_isOwned (h : w.Stuck t wait) (hshows : w.view.Shows s)
    {plan : Option EndpointPlan}
    (hendpoint : s.endpoint = some plan) (hasked : s.asked = true) : ¬ t.IsOwned := by
  intro howned
  obtain ⟨cell, hcell, -, -, hcancelled⟩ := exists_endpoint hshows hendpoint
  have hlocal : w.local? 0 = some cell.endpoint := by
    rw [local?, hcell]
    rfl
  have hminds := howned.minds
  rw [h.control] at hminds
  generalize t.frames = frames at hminds
  cases hminds with
  | order ms =>
      have hvain := h.vain
      rw [ready?, hlocal, Option.any_some, hcancelled, hasked, if_pos rfl] at hvain
      cases hvain
  | sleep deadline => exact h.sleepless deadline rfl

/-- An endpoint that was told to close has no tasks left. -/
theorem Serves.owned_eq_nil (h : w.Serves first started order polled charge)
    (horderly : w.Orderly polled) (hstill : w.Still) (hshows : w.view.Shows s)
    {plan : Option EndpointPlan} (hendpoint : s.endpoint = some plan) (hasked : s.asked = true) :
    w.view.owned = [] := by
  refine List.eq_nil_iff_forall_not_mem.2 fun id hid => ?_
  obtain ⟨t, ht, -, howner⟩ := h.listed.owned id hid
  obtain ⟨wait, hstuck⟩ := hstill t ht
  exact hstuck.not_isOwned hshows hendpoint hasked (h.isOwned horderly ht howner)

/-- Whoever waits for the tasks of an endpoint waits in vain only if it was never told to close. -/
theorem Stuck.not_asked {inner : List Frame} (h : w.Stuck t wait) (hshows : w.view.Shows s)
    {plan : Option EndpointPlan} (hendpoint : s.endpoint = some plan)
    (hgone : s.asked = true → w.view.owned = [])
    (hlingers : Serial.Lingers s.asked (.wait wait) inner) : s.asked = false := by
  obtain ⟨cell, hcell, -, hrequested, -⟩ := exists_endpoint hshows hendpoint
  have hlocal : w.local? 0 = some cell.endpoint := by
    rw [local?, hcell]
    rfl
  have hvain := h.vain
  rw [Bool.eq_false_iff]
  intro hasked
  rw [hasked] at hrequested
  cases hlingers with
  | request =>
      rw [ready?, hlocal, Option.any_some, hrequested, if_pos rfl] at hvain
      cases hvain
  | tasks =>
      have htasks : cell.endpoint.tasks = [] := (owned_eq hcell).symm.trans (hgone hasked)
      rw [ready?, hlocal, Option.any_some, LocalEndpoint.isDrained, hrequested, htasks,
        List.isEmpty_nil, Bool.and_self, if_pos rfl] at hvain
      cases hvain

/-! ## The call with the lock -/

/-- The call with the lock waits for a collaborator that never answers. -/
theorem Stuck.hangs (h : w.Stuck t wait) (hshows : w.view.Shows s)
    (hgone : ∀ {plan}, s.endpoint = some plan → s.asked = true → w.view.owned = [])
    (hbusy : s.Busy t.control t.frames turn) : turn = s.hangs := by
  have hdrain := h.drainless
  rw [h.control] at hbusy
  generalize t.frames = frames at hbusy hdrain
  cases hbusy with
  | creation _ _ _ hacts =>
      rw [hacts.eq_none h.sleepless]
      rfl
  | channel _ hacts =>
      rw [hacts.eq_none h.sleepless]
      rfl
  | strategy _ _ hacts =>
      rw [hacts.eq_none h.sleepless]
      rfl
  | drain => exact absurd (List.mem_append_right _ (List.mem_singleton_self _)) (hdrain _ _)
  | endpoint _ hsome hawaits =>
      cases hawaits with
      | acts hacts =>
          rw [hacts.eq_none h.sleepless]
          rfl
      | lingers hlingers =>
          rw [Serial.lingering, h.not_asked hshows hsome (hgone hsome) hlingers]
          rfl

/-- Where nothing gets on, the turn of the call with the lock is over and has no end. -/
theorem Serves.phase_eq (h : w.Serves first started order none charge) (horderly : w.Orderly none)
    (hstill : w.Still) :
    w.calls 0 = (first.play (order.map Prod.snd)).flatMap (fun turn => turn.calls) ∧
      (∀ {task result}, charge = some (task, result) →
        result = none ∧ ∃ turn ∈ first.play (order.map Prod.snd), turn.result = none) := by
  have hphase := h.phase
  generalize first.play (order.map Prod.snd) = turns at hphase
  cases hphase with
  | idle hends calls shows => exact ⟨calls, fun heq => by cases heq⟩
  | @busy turns rest s task t made hends ht howner hbusy calls shows =>
      obtain ⟨wait, hstuck⟩ := hstill t (task?_mem ht).1
      obtain rfl := hstuck.hangs shows
        (fun hendpoint hasked => h.owned_eq_nil horderly hstill shows hendpoint hasked) hbusy
      refine ⟨?_, fun heq => ?_⟩
      · rw [calls, List.flatMap_append]
        simp [Serial.Turn.behind, Serial.hangs]
      · cases heq
        exact ⟨rfl, _, List.mem_append_right _ (List.mem_singleton_self _), rfl⟩

/-- Where nothing gets on, a call that has had the lock has ended as its turn has. -/
theorem Stands.finish?_eq (h : w.Stands none charge result task) (horderly : w.Orderly none)
    (hstill : w.Still) (hcharge : ∀ {task result}, charge = some (task, result) →
      result = none ∧ ∃ t, w.task? task = some t) : w.finish? task = result := by
  induction h with
  | finished hfinish hresult => rw [hfinish, hresult]
  | ends _ _ hpolled => cases hpolled
  | busy h =>
      obtain ⟨hnone, t, ht⟩ := hcharge h
      rw [hnone, horderly.finish?_eq ht]
  | joins ht _ hcontrol _ _ _ ih =>
      obtain ⟨wait, hstuck⟩ := hstill _ (task?_mem ht).1
      obtain rfl : wait = _ := by
        have hwait := hstuck.control.symm.trans hcontrol
        cases hwait
        rfl
      have hvain := hstuck.vain
      rw [ready?, Option.map_eq_none_iff, ih] at hvain
      rw [hvain, horderly.finish?_eq ht]

/-! ## The queue of the lock -/

/-- Every task that waits for the lock of the client stands in its queue. -/
def LinedUp (w : World) : Prop :=
  ∀ t ∈ w.tasks, t.control = .wait (.lock 0) → t.id ∈ w.queue 0

/-- A task that asks for the lock of the client stands in its queue. -/
theorem Seats.mem_queue_request (h : w.Seats) (hshows : w.view.Shows s) (task : TaskId)
    (control : Control) (frames : List Frame) :
    task ∈ ((w.requestLock task 0).goto task control frames).queue 0 := by
  obtain ⟨c, hc, -⟩ := exists_client hshows
  have hlock : w.lock? 0 = some c.lock := by
    rw [lock?, hc]
    rfl
  have hafter : ((w.requestLock task 0).goto task control frames).lock? 0 =
      some (c.lock.request task) := by
    refine (lock?_modifyLock w 0 (·.request task) 0).trans ?_
    rw [hlock, Option.map_some, if_pos rfl]
  rw [queue_of_lock? hafter]
  exact (Lock.mem_queue_request (h.singleFile hlock)).2 (.inr rfl)

/-- A call that has not gone on with the lock goes on with it now, or stands in its queue if it
waits for it after a step. -/
theorem Seats.queued_step {u : World} {t' : Task} (h : w.Seats) (hshows : w.view.Shows s)
    (ht : w.task? task = some t) (hqueued : Serial.Queued use t.control t.frames)
    (hstep : w.step? task = some u) (ht' : u.task? task = some t')
    (hcontrol : t'.control = .wait (.lock 0)) :
    t.takes? = some (task, use) ∨ task ∈ u.queue 0 := by
  obtain ⟨-, rfl⟩ := task?_mem ht
  -- a task that gets the lock does not wait for it any more
  have hgranted : t.control = .wait (.lock 0) → False := by
    intro hlock
    rw [step?_wait ht hlock] at hstep
    obtain ⟨control, hready, rfl⟩ := Option.map_eq_some_iff.1 hstep
    cases ht'.symm.trans (task?_goto_self ht control t.frames)
    obtain rfl : control = .wait (.lock 0) := hcontrol
    simp only [ready?] at hready
    split at hready <;> cases hready
  obtain ⟨id, control, frames, handle, owner⟩ := t
  cases hqueued with
  | get | close =>
      rw [step?_call ht rfl] at hstep
      cases hstep
      exact .inr (h.mem_queue_request hshows id _ _)
  | getLock hlock | closeLock _ hlock =>
      rcases hlock with rfl | ⟨reply, rfl⟩
      · exact (hgranted rfl).elim
      · exact .inl rfl

/-- No time limit is due for a call that has not gone on with the lock. -/
theorem expireDrain_eq (ht : w.task? task = some t)
    (hqueued : Serial.Queued use t.control t.frames) :
    w.expireDrain task = w := by
  refine expireDrain_eq_self ht ?_
  generalize t.control = control at hqueued
  generalize t.frames = frames at hqueued
  cases hqueued <;> rfl

/-- A call that has had the lock does not wait for it. -/
theorem Serves.not_queued {use' : Use} (h : w.Serves first started order polled charge)
    (horderly : w.Orderly polled) (ht : w.task? task = some t) (hmem : (task, use) ∈ order) :
    ¬ Serial.Queued use' t.control t.frames := by
  intro hqueued
  obtain ⟨i, hi⟩ := List.mem_iff_getElem?.1 hmem
  obtain ⟨turn, -, hstands⟩ := h.stands_at hi
  exact hstands.not_queued ht (horderly.finish?_eq ht) (h.phase.not_charged ht hqueued.free) hqueued

/-- A task that waits for the lock is a call that was started. -/
theorem Serves.exists_queued (h : w.Serves first started order polled charge)
    (horderly : w.Orderly polled) (ht : t ∈ w.tasks) (hcontrol : t.control = .wait (.lock 0)) :
    ∃ use, (t.id, use) ∈ started ∧ Serial.Queued use t.control t.frames := by
  rcases h.spots t ht with ⟨use, -, hstarted, hqueued⟩ | howned | ⟨result, hcharge⟩ |
    ⟨finish, -, -, hends⟩ | ⟨joined, -, hjoin, -⟩
  · exact ⟨use, hstarted, hqueued⟩
  · have hminds := howned.minds
    rw [hcontrol] at hminds
    cases hminds
  · have hphase := h.phase
    rw [hcharge] at hphase
    generalize first.play (order.map Prod.snd) = turns at hphase
    cases hphase with
    | busy hends ht' _ hbusy =>
        cases (horderly.task?_eq ht).symm.trans ht'
        exact absurd hcontrol (hbusy.ne_lock 0)
  · rw [hcontrol] at hends
    cases hends
  · cases hcontrol.symm.trans hjoin

/-- Where nothing gets on and no call has the lock, nobody stands in its queue. -/
theorem Serves.queue_eq_nil (h : w.Serves first started order none none) (hstill : w.Still)
    (hseats : w.Seats) : w.queue 0 = [] := by
  refine List.eq_nil_iff_forall_not_mem.2 fun id hid => ?_
  obtain ⟨owner, t, howner, ht, hclaims⟩ := hseats.exists_owner hid
  obtain ⟨hmem, rfl⟩ := task?_mem ht
  obtain ⟨wait, hstuck⟩ := hstill t hmem
  have hvain := hstuck.vain
  rw [hstuck.control] at hclaims
  rcases h.spots t hmem with ⟨use, -, -, hqueued⟩ | howned | ⟨result, hcharge⟩ |
    ⟨finish, -, hpolled, -⟩ | ⟨joined, -, hjoin, hframes, -⟩
  · have hgranted : wait = .lock 0 → False := by
      rintro rfl
      rw [ready?, if_pos (ownsLock_of_owner? howner)] at hvain
      cases hvain
    rw [hstuck.control] at hqueued
    generalize t.frames = frames at hqueued
    cases hqueued with
    | getLock hcontrol | closeLock _ hcontrol =>
        rcases hcontrol with hcontrol | ⟨reply, hcontrol⟩
        · cases hcontrol
          exact hgranted rfl
        · cases hcontrol
  · have hminds := howned.minds
    rw [hstuck.control] at hminds
    generalize t.frames = frames at hminds hclaims
    cases hminds <;> simp [Claims, Framed, Control.claim?, Frame.claim?] at hclaims
  · cases hcharge
  · cases hpolled
  · cases hstuck.control.symm.trans hjoin
    rw [hframes] at hclaims
    simp [Claims, Framed, Control.claim?, Frame.claim?] at hclaims

/-- Where nothing gets on and all turns have an end, every call that was started has had the
lock. -/
theorem Serves.subset (h : w.Serves first started order none charge) (horderly : w.Orderly none)
    (hstill : w.Still) (hseats : w.Seats) (hlined : w.LinedUp)
    (hends : ∀ turn ∈ first.play (order.map Prod.snd), turn.result ≠ none) : started ⊆ order := by
  have hnone : charge = none := by
    rw [Option.eq_none_iff_forall_ne_some]
    rintro ⟨task, result⟩ heq
    obtain ⟨-, turn, hturn, hresult⟩ := (h.phase_eq horderly hstill).2 heq
    exact hends turn hturn hresult
  subst hnone
  rintro ⟨task, use⟩ hmem
  rcases h.waits hmem with horder | ⟨t, ht, hqueued⟩
  · exact horder
  · obtain ⟨hthere, -⟩ := task?_mem ht
    obtain ⟨wait, hstuck⟩ := hstill t hthere
    have hlock : t.control = .wait (.lock 0) := by
      have hcontrol := hstuck.control
      rw [hcontrol] at hqueued ⊢
      generalize t.frames = frames at hqueued
      cases hqueued with
      | getLock h | closeLock _ h =>
          rcases h with h | ⟨reply, h⟩
          · exact h
          · cases h
    have hin := hlined t hthere hlock
    rw [h.queue_eq_nil hstill hseats] at hin
    cases hin

end World

namespace Moment

variable {m : Moment}

/-- In a settled moment no task gets on any more. -/
theorem Settled.still (h : m.Settled) (hfit : m.CallsFit) : m.world.Still := by
  intro t ht
  obtain ⟨wait, hcontrol, hready, -⟩ := h.idle.waits hfit ht
  have htimes := (h.2 t ht).2
  refine ⟨wait, hcontrol, hready, ?_, fun td deadline hmem => htimes deadline ?_⟩
  · rintro deadline rfl
    refine htimes deadline ?_
    rw [Schedule.watched, hcontrol]
    exact List.mem_append_left _ (List.mem_singleton_self _)
  · exact List.mem_append_right _ (List.mem_flatMap_of_mem hmem (List.mem_cons_self ..))

end Moment

end Remoting
