import Remoting.Proofs.Custody
import Remoting.Proofs.Draining
import Remoting.Proofs.Taking

/-!
# A client that serves many calls

While calls for a channel and closes use one client at the same time, at most one task is at work
for the client: the one with the lock. `Serves` is the invariant. The calls that have had the lock
are those of a client that is used by one call at a time, `Phase`; each of them has ended as it has
to, is about to, or waits for the task that is at work, `Stands`; and every other task waits for the
lock or is owned by the endpoint, `Spot`.
-/

namespace Remoting

/-- Whether a frame is one of a collaborator or of a wait inside the call with the lock. -/
def Frame.isInner : Frame → Bool
  | .behaviour _ | .completion _ | .endpointClosed _ | .localRequest _ | .localTasks _ => true
  | _ => false

/-- Whether a frame is one of the call with the lock. -/
def Frame.isBusy (frame : Frame) : Bool :=
  frame.isInner || frame.hold?.isSome

/-- Whether a frame is one of a call that waits for the lock. -/
def Frame.isWaiting : Frame → Bool
  | .getLock _ | .closeLock .. => true
  | _ => false

namespace Serial

/-- The client after some turns. -/
def reached (s : Serial) : List Turn → Serial
  | [] => s
  | turn :: turns => turn.after.reached turns

theorem reached_append (s : Serial) (turns : List Turn) (turn : Turn) :
    s.reached (turns ++ [turn]) = turn.after := by
  induction turns generalizing s with
  | nil => rfl
  | cons first turns ih => exact ih first.after

/-- One more call after calls that have all ended. -/
theorem play_append {s : Serial} {uses : List Use}
    (hends : ∀ turn ∈ s.play uses, turn.result.isSome = true) (use : Use) :
    s.play (uses ++ [use]) = s.play uses ++ [(s.reached (s.play uses)).turn use] := by
  induction uses generalizing s with
  | nil => simp only [List.nil_append, play, reached, ite_self]
  | cons first uses ih =>
      have hfirst : (s.turn first).result.isSome = true := hends _ (List.mem_cons_self ..)
      simp only [List.cons_append, play, hfirst, if_true, reached] at hends ⊢
      rw [ih fun turn hturn => hends turn (List.mem_cons_of_mem _ hturn)]

/-- A close that ends, ends with the reply of a close. -/
theorem closeReply_of_close {s : Serial} {finish : Finish} (h : s.close.result = some finish) :
    ∃ outcome, finish = .value (World.closeReply outcome) := by
  have hreply : ∀ {outcome}, some (Finish.value (World.closeReply outcome)) = some finish →
      ∃ outcome, finish = .value (World.closeReply outcome) :=
    fun h => ⟨_, (Option.some.inj h).symm⟩
  have hawait : ∀ s : Serial, s.awaitEndpoint.result = some finish →
      ∃ outcome, finish = .value (World.closeReply outcome) := by
    intro s h
    unfold awaitEndpoint at h
    split at h
    · exact hreply h
    · next endpoint _ =>
      cases hclosure : s.closure? endpoint with
      | none =>
          rw [hclosure] at h
          cases h
      | some ending =>
          rw [hclosure] at h
          cases ending <;> exact hreply h
  have hclosed : ∀ (s : Serial) (ending : Option Ending), (s.closedStrategy ending).result =
      some finish → ∃ outcome, finish = .value (World.closeReply outcome) := by
    intro s ending h
    cases ending with
    | none => cases h
    | some ending => exact hawait _ h
  unfold close closeStrategy at h
  split at h
  · exact hreply h
  · split at h
    · exact hclosed _ _ h
    · exact hclosed _ _ h

/-- Where a call is that has not gone on with the lock. -/
inductive Queued : Use → Control → List Frame → Prop
  | get : Queued .get (.call (.getChannel 0)) []
  | getLock {control : Control} (h : control = .wait (.lock 0) ∨ ∃ reply, control = .reply reply) :
      Queued .get control [.getLock 0]
  | close (interrupt : Option TokenName) : Queued .close (.call (.close 0 interrupt)) []
  | closeLock (interrupt : Option TokenName) {control : Control}
      (h : control = .wait (.lock 0) ∨ ∃ reply, control = .reply reply) :
      Queued .close control [.closeLock 0 interrupt]

/-- A task does not hold the lock of a client. -/
def Free (control : Control) (frames : List Frame) : Prop :=
  control.hold? = none ∧ ∀ frame ∈ frames, frame.hold? = none

theorem Queued.free {use : Use} {control : Control} {frames : List Frame}
    (h : Queued use control frames) : Free control frames := by
  cases h with
  | get => exact ⟨rfl, by simp⟩
  | close interrupt => exact ⟨rfl, by simp⟩
  | getLock h =>
      refine ⟨?_, by simp [Frame.hold?]⟩
      rcases h with rfl | ⟨reply, rfl⟩ <;> rfl
  | closeLock interrupt h =>
      refine ⟨?_, by simp [Frame.hold?]⟩
      rcases h with rfl | ⟨reply, rfl⟩ <;> rfl

/-- What a waiting call is for is known from where it is. -/
theorem Queued.use_eq {use use' : Use} {control : Control} {frames : List Frame}
    (h : Queued use control frames) (h' : Queued use' control frames) : use' = use := by
  cases h <;> cases h' <;> rfl

theorem Minds.not_queued {use : Use} {control : Control} {frames : List Frame}
    (h : Minds control frames) : ¬ Queued use control frames := by
  intro hqueued
  cases h <;> cases hqueued

theorem Minds.not_isWaiting {control : Control} {frames : List Frame} (h : Minds control frames) :
    ∀ frame ∈ frames, frame.isWaiting = false := by
  cases h <;> simp [Frame.isWaiting]

theorem Minds.free {control : Control} {frames : List Frame} (h : Minds control frames) :
    Free control frames := by
  cases h <;> exact ⟨rfl, by simp [Frame.hold?]⟩

/-- The call with the lock holds it. -/
theorem Busy.holds {s : Serial} {control : Control} {frames : List Frame} {turn : Turn}
    (h : s.Busy control frames turn) : (∃ hold, control.hold? = some (0, hold)) ∨
      ∃ frame ∈ frames, ∃ hold, frame.hold? = some (0, hold) := by
  cases h with
  | connect => exact .inl ⟨_, rfl⟩
  | openChannel => exact .inl ⟨_, rfl⟩
  | stage => exact .inl ⟨_, rfl⟩
  | creation | channel | strategy | drain | endpoint =>
      exact .inr ⟨_, List.mem_append_right _ (List.mem_singleton_self _), _, rfl⟩

section Frames

variable {s : Serial} {control : Control} {frames inner outer : List Frame} {turn : Turn}
  {ending : Option Ending} {td : Teardown} {deadline : Nat}

theorem Acts.isInner (h : Acts ending control frames) : ∀ frame ∈ frames, frame.isInner = true := by
  cases h <;> simp [Frame.isInner]

theorem Drains.isInner (h : Drains control frames) : ∀ frame ∈ frames, frame.isInner = true := by
  cases h with
  | acts h completed => exact List.forall_mem_append.2 ⟨h.isInner, by simp [Frame.isInner]⟩
  | _ => simp [Frame.isInner]

theorem Awaits.isInner {plan : Option EndpointPlan} (h : s.Awaits plan ending control frames) :
    ∀ frame ∈ frames, frame.isInner = true := by
  cases h with
  | acts h => exact List.forall_mem_append.2 ⟨h.isInner, by simp [Frame.isInner]⟩
  | lingers h houter => cases h <;> rcases houter with rfl | rfl <;> simp [Frame.isInner]
  | _ => simp [Frame.isInner]

/-- What a frame of the call with the lock is. -/
theorem Busy.isBusy (h : s.Busy control frames turn) : ∀ frame ∈ frames, frame.isBusy = true := by
  have hsnoc : ∀ {inner : List Frame} {last : Frame}, (∀ frame ∈ inner, frame.isInner = true) →
      last.isBusy = true → ∀ frame ∈ inner ++ [last], frame.isBusy = true := by
    intro inner last hinner hlast frame hframe
    rcases List.mem_append.1 hframe with hframe | hframe
    · rw [Frame.isBusy, hinner frame hframe, Bool.true_or]
    · rwa [List.mem_singleton.1 hframe]
  cases h with
  | connect | openChannel | stage => simp
  | creation _ _ _ h => exact hsnoc h.isInner rfl
  | channel _ h => exact hsnoc h.isInner rfl
  | strategy _ _ h => exact hsnoc h.isInner rfl
  | drain _ h => exact hsnoc h.isInner rfl
  | endpoint _ _ h => exact hsnoc h.isInner rfl

/-- The wait of the teardown for operations, if the call with the lock is in it. -/
theorem Busy.draining (h : s.Busy control frames turn)
    (hframes : frames = inner ++ .teardown td (.drain deadline) :: outer) :
    outer = [] ∧ turn = s.stage .release ∧ s.outcome.isSome = true ∧ Drains control inner ∧
      ∃ interrupt, td = s.taken interrupt := by
  have hlast : ∀ {inner' : List Frame} {last : Frame}, (∀ frame ∈ inner', frame.isInner = true) →
      inner' ++ [last] = inner ++ .teardown td (.drain deadline) :: outer →
        inner' = inner ∧ last = .teardown td (.drain deadline) ∧ outer = [] := by
    intro inner' last hinner heq
    rcases List.eq_nil_or_concat outer with rfl | ⟨between, final, rfl⟩
    · obtain ⟨hinner', hlast⟩ := List.append_inj' heq rfl
      exact ⟨hinner', List.head_eq_of_cons_eq hlast, rfl⟩
    · rw [List.concat_eq_append, ← List.cons_append, ← List.append_assoc] at heq
      obtain ⟨rfl, -⟩ := List.append_inj' heq rfl
      have hframe := hinner (.teardown td (.drain deadline)) (by simp)
      cases hframe
  cases h with
  | connect | openChannel | stage => simp at hframes
  | creation _ _ _ h => cases (hlast h.isInner hframes).2.1
  | channel _ h => cases (hlast h.isInner hframes).2.1
  | strategy _ _ h => cases (hlast h.isInner hframes).2.1
  | endpoint _ _ h => cases (hlast h.isInner hframes).2.1
  | drain hclosed h =>
      obtain ⟨rfl, hframe, rfl⟩ := hlast h.isInner hframes
      cases hframe
      exact ⟨rfl, rfl, hclosed, h, _, rfl⟩

end Frames

theorem Busy.not_free {s : Serial} {control : Control} {frames : List Frame} {turn : Turn}
    (h : s.Busy control frames turn) : ¬ Free control frames := by
  rintro ⟨hcontrol, hframes⟩
  rcases h.holds with ⟨hold, hhold⟩ | ⟨frame, hmem, hold, hhold⟩
  · cases hcontrol.symm.trans hhold
  · cases (hframes frame hmem).symm.trans hhold

end Serial

namespace World

variable {w v u : World} {s first : Serial} {task other : TaskId} {t : Task} {new : List Task}
  {polled : Option TaskId} {charge charge' : Option (TaskId × Option Finish)}
  {started order : List (TaskId × Use)} {turns : List Serial.Turn} {turn : Serial.Turn}
  {result : Option Finish} {finish : Finish} {control : Control} {frames : List Frame} {use : Use}

theorem Ends.free (h : Ends w control frames finish) : Serial.Free control frames := by
  cases h with
  | replies reply h | panics content h =>
      rcases h with rfl | rfl <;> exact ⟨rfl, by simp [Frame.hold?]⟩

theorem Ends.not_isWaiting (h : Ends w control frames finish) :
    ∀ frame ∈ frames, frame.isWaiting = false := by
  cases h with
  | replies reply h | panics content h => rcases h with rfl | rfl <;> simp [Frame.isWaiting]

theorem Ends.not_queued (h : Ends w control frames finish) :
    ¬ Serial.Queued use control frames := by
  intro hqueued
  cases hqueued <;> cases h <;> rename_i hframes <;> simp at hframes

/-- A task that is there has not ended. -/
theorem Orderly.finish?_eq (h : w.Orderly polled) (ht : w.task? task = some t) :
    w.finish? task = none := by
  obtain ⟨hmem, rfl⟩ := task?_mem ht
  exact h.unfinished hmem

/-- The call with the lock is the owner of the lock. -/
theorem Busy.owner {s : Serial} (h : s.Busy control frames turn)
    (hok : w.TaskOk task control frames) :
    w.owner? 0 = some task := by
  rcases h.holds with ⟨hold, hhold⟩ | ⟨frame, hmem, hold, hhold⟩
  · exact (hok.callHolds hhold).1
  · exact (hok.frameHolds hmem hhold).1

/-! ## The invariant -/

/-- What the client is being used for: nothing, or a call whose task is at work. Together with the
calls that have ended it has made the calls to collaborators. -/
inductive Phase (w : World) (first : Serial) :
    List Serial.Turn → Option (TaskId × Option Finish) → Prop
  | idle {turns : List Serial.Turn} (hends : ∀ turn ∈ turns, turn.result.isSome = true)
      (calls : w.calls 0 = turns.flatMap fun turn => turn.calls)
      (shows : w.view.Shows (first.reached turns)) : Phase w first turns none
  | busy {turns : List Serial.Turn} {rest : Serial.Turn} {s : Serial} {task : TaskId} {t : Task}
      {made : List Contact} (hends : ∀ turn ∈ turns, turn.result.isSome = true)
      (ht : w.task? task = some t) (howner : t.owner = none)
      (hbusy : s.Busy t.control t.frames rest)
      (calls : w.calls 0 = (turns.flatMap fun turn => turn.calls) ++ made)
      (shows : w.view.Shows s) :
      Phase w first (turns ++ [rest.behind made]) (some (task, rest.result))

/-- A call that has had the lock has ended as it has to, is about to, is the one with the lock, or
waits for the task that it has handed the lock to. -/
inductive Stands (w : World) (polled : Option TaskId) (charge : Option (TaskId × Option Finish))
    (result : Option Finish) : TaskId → Prop
  | finished {task : TaskId} {finish : Finish} (hfinish : w.finish? task = some finish)
      (hresult : result = some finish) : Stands w polled charge result task
  | ends {task : TaskId} {t : Task} {finish : Finish} (ht : w.task? task = some t)
      (howner : t.owner = none) (hpolled : polled = some task)
      (h : Ends w t.control t.frames finish) (hresult : result = some finish) :
      Stands w polled charge result task
  | busy {task : TaskId} (h : charge = some (task, result)) : Stands w polled charge result task
  | joins {task joined : TaskId} {t : Task} (ht : w.task? task = some t) (howner : t.owner = none)
      (hcontrol : t.control = .wait (.join joined)) (hframes : t.frames = [.closeJoin 0])
      (hreply : ∀ finish, result = some finish → ∃ outcome, finish = .value (closeReply outcome))
      (h : Stands w polled charge result joined) : Stands w polled charge result task

/-- Where a task is. -/
inductive Spot (w : World) (polled : Option TaskId) (charge : Option (TaskId × Option Finish))
    (started order : List (TaskId × Use)) (t : Task) : Prop
  | queued (use : Use) (howner : t.owner = none) (hstarted : (t.id, use) ∈ started)
      (h : Serial.Queued use t.control t.frames)
  | owned (h : t.IsOwned)
  | busy (result : Option Finish) (h : charge = some (t.id, result))
  | ends (finish : Finish) (howner : t.owner = none) (hpolled : polled = some t.id)
      (h : Ends w t.control t.frames finish)
  | joins (joined : TaskId) (howner : t.owner = none) (hcontrol : t.control = .wait (.join joined))
      (hframes : t.frames = [.closeJoin 0]) (horder : t.id ∈ order.map Prod.fst)

/-- The tasks that endpoints own are there, and are those of the endpoint of the client. -/
structure Listed (w : World) : Prop where
  nodup : w.view.owned.Nodup
  owned : ∀ id ∈ w.view.owned, ∃ t ∈ w.tasks, t.id = id ∧ t.owner = some 0

/-- What is known of a world in which some calls have been started and some of them have had the
lock, in the given order. -/
structure Serves (w : World) (first : Serial) (started order : List (TaskId × Use))
    (polled : Option TaskId) (charge : Option (TaskId × Option Finish)) : Prop where
  phase : w.Phase first (first.play (order.map Prod.snd)) charge
  spots : ∀ t ∈ w.tasks, w.Spot polled charge started order t
  stands : List.Forall₂ (fun entry turn => w.Stands polled charge turn.result entry.1) order
    (first.play (order.map Prod.snd))
  waits : ∀ {task use}, (task, use) ∈ started → (task, use) ∈ order ∨
    ∃ t, w.task? task = some t ∧ Serial.Queued use t.control t.frames
  started : order ⊆ started
  nodup : (order.map Prod.fst).Nodup
  listed : w.Listed

/-- How a call of the order stands. -/
theorem Serves.stands_at {entry : TaskId × Use} {i : Nat}
    (h : w.Serves first started order polled charge) (hentry : order[i]? = some entry) :
    ∃ turn, (first.play (order.map Prod.snd))[i]? = some turn ∧
      w.Stands polled charge turn.result entry.1 := by
  obtain ⟨hlt, rfl⟩ := List.getElem?_eq_some_iff.1 hentry
  have hlt' := h.stands.length_eq ▸ hlt
  exact ⟨_, List.getElem?_eq_getElem hlt', h.stands.get hlt hlt'⟩

/-! ## The other tasks -/

/-- A task has gone on or ended, and some tasks have been started. -/
structure Passage (task : TaskId) (new : List Task) (w u : World) : Prop where
  others : ∀ {other t}, other ≠ task → w.task? other = some t → u.task? other = some t
  finished : ∀ {other finish}, w.finish? other = some finish → u.finish? other = some finish
  tasks : ∀ t ∈ u.tasks, t.id ≠ task → t ∈ w.tasks ∨ t ∈ new

theorem passage_goto (htasks : v.tasks = w.tasks ++ new) (hfinished : v.finished = w.finished)
    (task : TaskId) (control : Control) (frames : List Frame) :
    Passage task new w (v.goto task control frames) where
  others hne ht := by
    rw [task?_goto_of_ne hne, task?, htasks, List.find?_append]
    rw [task?] at ht
    rw [ht]
    rfl
  finished hfinish := by
    rw [finish?] at hfinish ⊢
    rwa [show (v.goto task control frames).finished = w.finished from hfinished]
  tasks t ht hne := by
    obtain ⟨t', ht', rfl⟩ := mem_goto.1 ht
    have hid : t'.id ≠ task := fun heq => hne ((goto_id t').trans heq)
    rw [if_neg hid]
    rw [htasks] at ht'
    exact List.mem_append.1 ht'

/-- What a task without the lock does is no concern of the call with the lock. -/
theorem Phase.keep (h : w.Phase first turns charge) (hpassage : Passage task new w u)
    (hcharge : ∀ result, charge ≠ some (task, result)) (hcalls : u.calls 0 = w.calls 0)
    (hshows : ∀ s, w.view.Shows s → u.view.Shows s) : u.Phase first turns charge := by
  cases h with
  | idle hends calls shows => exact .idle hends (hcalls.trans calls) (hshows _ shows)
  | @busy turns rest s other t made hends ht howner hbusy calls shows =>
      have hne : other ≠ task := fun heq => hcharge rest.result (by rw [heq])
      exact .busy hends (hpassage.others hne ht) howner hbusy (hcalls.trans calls) (hshows _ shows)

/-- A task without the lock is not the one with the lock. -/
theorem Phase.not_charged (h : w.Phase first turns charge) (ht : w.task? task = some t)
    (hfree : Serial.Free t.control t.frames) : ∀ result, charge ≠ some (task, result) := by
  rintro result rfl
  cases h with
  | busy hends ht' howner hbusy calls shows =>
      cases ht.symm.trans ht'
      exact hbusy.not_free hfree

/-- What the frames of the task at work are. -/
theorem Phase.isBusy (h : w.Phase first turns (some (task, result))) (ht : w.task? task = some t) :
    ∀ frame ∈ t.frames, frame.isBusy = true := by
  cases h with
  | busy hends ht' howner hbusy calls shows =>
      cases ht.symm.trans ht'
      exact hbusy.isBusy

/-- How a call stands that has had the lock and has not ended. -/
theorem Stands.cases_of (h : w.Stands polled charge result task) (ht : w.task? task = some t)
    (hnone : w.finish? task = none) : charge = some (task, result) ∨
      (t.owner = none ∧ ∃ finish, Ends w t.control t.frames finish ∧ result = some finish) ∨
        ∃ joined, t.owner = none ∧ t.control = .wait (.join joined) ∧ t.frames = [.closeJoin 0] ∧
          (∀ finish, result = some finish → ∃ outcome, finish = .value (closeReply outcome)) ∧
            w.Stands polled charge result joined := by
  cases h with
  | finished hfinish => cases hnone.symm.trans hfinish
  | ends ht' howner hpolled h hresult =>
      cases ht.symm.trans ht'
      exact .inr (.inl ⟨howner, _, h, hresult⟩)
  | busy h => exact .inl h
  | joins ht' howner hcontrol hframes hreply h =>
      cases ht.symm.trans ht'
      exact .inr (.inr ⟨_, howner, hcontrol, hframes, hreply, h⟩)

/-- A call that has had the lock does not wait for it. -/
theorem Stands.not_queued (h : w.Stands polled charge result task) (ht : w.task? task = some t)
    (hnone : w.finish? task = none) (hcharge : ∀ result, charge ≠ some (task, result)) :
    ¬ Serial.Queued use t.control t.frames := by
  intro hqueued
  rcases h.cases_of ht hnone with heq | ⟨-, finish, hends, -⟩ | ⟨joined, -, hcontrol, hframes, -⟩
  · exact hcharge _ heq
  · exact hends.not_queued hqueued
  · rw [hcontrol, hframes] at hqueued
    cases hqueued

/-- A task of the endpoint is no call. -/
theorem IsOwned.not_stands (howned : t.IsOwned) (ht : w.task? task = some t)
    (hnone : w.finish? task = none) (hcharge : ∀ result, charge ≠ some (task, result)) :
    ¬ w.Stands polled charge result task := by
  intro h
  rcases h.cases_of ht hnone with heq | ⟨howner, -⟩ | ⟨joined, howner, -⟩
  · exact hcharge _ heq
  · cases howned.owner.symm.trans howner
  · cases howned.owner.symm.trans howner

/-- How the other calls stand after a task has gone on. -/
theorem Stands.alter (h : w.Stands (some task) charge result other)
    (hpassage : Passage task new w u)
    (hcharge : ∀ {other result}, charge = some (other, result) → other ≠ task →
      charge' = some (other, result))
    (hself : w.Stands (some task) charge result task → u.Stands (some task) charge' result task) :
    u.Stands (some task) charge' result other := by
  induction h with
  | finished hfinish hresult => exact .finished (hpassage.finished hfinish) hresult
  | ends ht howner hpolled h hresult =>
      cases hpolled
      exact hself (.ends ht howner rfl h hresult)
  | @busy other h =>
      by_cases hne : other = task
      · subst hne
        exact hself (.busy h)
      · exact .busy (hcharge h hne)
  | @joins other joined t ht howner hcontrol hframes hreply h ih =>
      by_cases hne : other = task
      · subst hne
        exact hself (.joins ht howner hcontrol hframes hreply h)
      · exact .joins (hpassage.others hne ht) howner hcontrol hframes hreply ih

/-- Where the other tasks are after a task has gone on. -/
theorem Spot.alter (h : w.Spot (some task) charge started order t) (hne : t.id ≠ task)
    (hcharge : ∀ {other result}, charge = some (other, result) → other ≠ task →
      charge' = some (other, result)) (extra : List (TaskId × Use)) :
    u.Spot (some task) charge' started (order ++ extra) t := by
  cases h with
  | queued use howner hstarted h => exact .queued use howner hstarted h
  | owned h => exact .owned h
  | busy result h => exact .busy result (hcharge h hne)
  | ends finish howner hpolled h => exact absurd (Option.some.inj hpolled).symm hne
  | joins joined howner hcontrol hframes horder =>
      refine .joins joined howner hcontrol hframes ?_
      rw [List.map_append]
      exact List.mem_append_left _ horder

end World

end Remoting
