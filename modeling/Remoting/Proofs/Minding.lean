import Remoting.Proofs.Advancing

/-!
# Moves of a client that serves many calls

Every move of a run in which one client serves calls for a channel and closes keeps `Serves`: each
step of a task, by cases on where the task is, and what comes between the steps.
-/

namespace Remoting

/-- Whether a frame is one of a call that is not at work, or of a task of an endpoint. -/
def Frame.isAside : Frame → Bool
  | .getLock _ | .closeLock .. | .closeJoin _ | .owned .. => true
  | _ => false

namespace World

variable {w v u : World} {s first : Serial} {task other : TaskId} {t : Task}
  {polled : Option TaskId} {charge : Option (TaskId × Option Finish)}
  {started order : List (TaskId × Use)} {turn : Serial.Turn}
  {result : Option Finish} {finish : Finish} {control : Control} {frames : List Frame} {use : Use}

/-! ## Tasks that are not at work -/

/-- A call goes on waiting for the lock. -/
theorem Serves.waiting (h : w.Serves first started order (some task) charge)
    (hfit : w.CallsFit (some task)) (hview : v.view = w.view) (hsame : SameTasks w v)
    (hcontacts : v.contacts = w.contacts)
    (horderly : (v.goto task control frames).Orderly (some task)) (ht : w.task? task = some t)
    (howner : t.owner = none) (hstarted : (t.id, use) ∈ started)
    (hqueued : Serial.Queued use t.control t.frames) (hnext : Serial.Queued use control frames) :
    (v.goto task control frames).Serves first started order (some task) charge := by
  have hcharge := h.phase.not_charged ht hqueued.free
  refine h.aside hsame.tasks hsame.finished hcontacts hview hcharge horderly
    (fun hstands => absurd hqueued (hstands.not_queued ht (hfit.finish?_eq ht) hcharge))
    (.queued use howner hstarted hnext) (fun use' hmem hnot => ?_) ht
  rw [hqueued.use_eq (h.queued hmem hnot ht)]
  exact hnext

/-- A task of the endpoint goes on. -/
theorem Serves.minding (h : w.Serves first started order (some task) charge)
    (hfit : w.CallsFit (some task)) (horderly : (w.goto task control frames).Orderly (some task))
    (ht : w.task? task = some t) (howned : t.IsOwned) (hminds : Serial.Minds control frames) :
    (w.goto task control frames).Serves first started order (some task) charge := by
  have hcharge := h.phase.not_charged ht howned.minds.free
  refine h.aside rfl rfl rfl rfl hcharge horderly (fun hstands => ?_)
    (.owned ⟨howned.handle, howned.owner, hminds⟩)
    (fun use hmem hnot => absurd (h.queued hmem hnot ht) howned.minds.not_queued) ht
  exact absurd hstands (IsOwned.not_stands howned ht (hfit.finish?_eq ht) hcharge)

/-- A step of a task of the endpoint. -/
theorem Serves.minds (h : w.Serves first started order (some task) charge)
    (hfit : w.CallsFit (some task)) (horderly : u.Orderly (some task)) (ht : w.task? task = some t)
    (howned : t.IsOwned) (hstep : w.step? task = some u) :
    u.Serves first started order (some task) charge := by
  have hgoes : ∀ {control frames}, u = w.goto task control frames → Serial.Minds control frames →
      u.Serves first started order (some task) charge := by
    rintro control frames rfl hminds
    exact h.minding hfit horderly ht howned hminds
  have hcharge := h.phase.not_charged ht howned.minds.free
  have hends : ∀ {result}, ¬ w.Stands (some task) charge result task :=
    IsOwned.not_stands howned ht (hfit.finish?_eq ht) hcharge
  have hnot : ∀ use, ¬ Serial.Queued use t.control t.frames := fun use => howned.minds.not_queued
  obtain ⟨id, control, frames, handle, owner⟩ := t
  obtain ⟨rfl, rfl, hminds⟩ := howned
  dsimp only at hminds hnot
  cases hminds with
  | called ms =>
      rw [step?_call ht rfl] at hstep
      exact hgoes (Option.some.inj hstep).symm (.order ms)
  | order ms =>
      rw [step?_wait ht rfl] at hstep
      obtain ⟨control, hready, rfl⟩ := Option.map_eq_some_iff.1 hstep
      simp only [ready?] at hready
      split at hready
      · cases hready
        exact hgoes rfl (.ordered ms _)
      · cases hready
  | ordered ms reply =>
      rw [step?_reply ht rfl rfl] at hstep
      exact hgoes (Option.some.inj hstep).symm (.told ms)
  | told ms =>
      rw [step?_call ht rfl] at hstep
      exact hgoes (Option.some.inj hstep).symm (.sleep _)
  | sleep deadline =>
      rw [step?_wait ht rfl] at hstep
      obtain ⟨control, hready, rfl⟩ := Option.map_eq_some_iff.1 hstep
      simp only [ready?] at hready
      split at hready
      · cases hready
        exact hgoes rfl (.slept _)
      · cases hready
  | slept reply =>
      rw [step?_reply ht rfl rfl] at hstep
      exact hgoes (Option.some.inj hstep).symm .done
  | done =>
      rw [step?_call ht rfl] at hstep
      exact hgoes (Option.some.inj hstep).symm (.ends _)
  | ends reply =>
      have hstep' : w.step? task = some (w.finishTask task (.value (reply.map w.present))) := by
        rw [step?, ht]
      obtain rfl := Option.some.inj (hstep'.symm.trans hstep)
      exact h.finishes hfit horderly ht (.inr rfl) hcharge (fun hstands => absurd hstands hends)
        hnot

/-! ## Calls that are about to end -/

theorem Ends.of_eq (h : Ends w control frames finish)
    (hclosed : u.closedChannels = w.closedChannels) :
    Ends u control frames finish := by
  have hpresent : u.present = w.present := by
    funext value
    cases value <;> simp only [present, isOpen, hclosed]
  cases h with
  | replies reply hframes =>
      rw [← hpresent]
      exact .replies reply hframes
  | panics content hframes => exact .panics content hframes

theorem Ends.unique {finish' : Finish} (h : Ends w control frames finish)
    (h' : Ends w control frames finish') : finish' = finish := by
  cases h <;> cases h' <;> rfl

/-- A step of a call that is about to end. -/
theorem Serves.ending (h : w.Serves first started order (some task) charge)
    (hfit : w.CallsFit (some task)) (horderly : u.Orderly (some task)) (ht : w.task? task = some t)
    (howner : t.owner = none) (hends : Ends w t.control t.frames finish)
    (hstep : w.step? task = some u) : u.Serves first started order (some task) charge := by
  have hcharge := h.phase.not_charged ht hends.free
  have hself : ∀ {result}, w.Stands (some task) charge result task → result = some finish := by
    intro result hstands
    rcases hstands.cases_of ht (hfit.finish?_eq ht) with heq | ⟨-, finish', hends', rfl⟩ |
      ⟨joined, -, hcontrol, -⟩
    · exact absurd heq (hcharge _)
    · rw [hends.unique hends']
    · rw [hcontrol] at hends
      cases hends
  have hnot : ∀ use, ¬ Serial.Queued use t.control t.frames := fun use => hends.not_queued
  have hgoes : ∀ {control frames}, u = w.goto task control frames → Ends w control frames finish →
      u.Serves first started order (some task) charge := by
    rintro control frames rfl hnext
    obtain ⟨-, hid⟩ := task?_mem ht
    have hfind := task?_goto_self ht control frames
    have hnext' : Ends (w.goto task control frames) control frames finish := hnext.of_eq rfl
    exact h.aside rfl rfl rfl rfl hcharge horderly
      (fun hstands => .ends hfind howner rfl hnext' (hself hstands))
      (.ends finish howner (by rw [hid]) hnext')
      (fun use hmem hwaits => absurd (h.queued hmem hwaits ht) (hnot use)) ht
  obtain ⟨id, control, frames, handle, owner⟩ := t
  dsimp only at hends hnot howner
  cases hends with
  | replies reply hframes =>
      rcases hframes with rfl | rfl
      · have hstep' : w.step? task = some (w.finishTask task (.value (reply.map w.present))) := by
          rw [step?, ht]
        obtain rfl := Option.some.inj (hstep'.symm.trans hstep)
        exact h.finishes hfit horderly ht (.inl howner) hcharge hself hnot
      · rw [step?_reply ht rfl rfl] at hstep
        exact hgoes (Option.some.inj hstep).symm (.replies reply (.inl rfl))
  | panics content hframes =>
      rcases hframes with rfl | rfl
      · have hstep' : w.step? task = some (w.finishTask task (.panicked content)) := by
          rw [step?, ht]
        obtain rfl := Option.some.inj (hstep'.symm.trans hstep)
        exact h.finishes hfit horderly ht (.inl howner) hcharge hself hnot
      · rw [step?_unwind ht rfl rfl] at hstep
        exact hgoes (Option.some.inj hstep).symm (.panics content (.inl rfl))

/-- What the end of a task is that a close waits for. -/
theorem Serves.finish_eq (h : w.Serves first started order polled charge)
    (horderly : w.Orderly polled)
    (hfinish : w.finish? task = some finish) (hstands : w.Stands polled charge result task) :
    result = some finish := by
  have hgone : ∀ {t}, w.task? task ≠ some t := fun ht => by
    cases (horderly.finish?_eq ht).symm.trans hfinish
  cases hstands with
  | finished hfinish' hresult =>
      cases hfinish.symm.trans hfinish'
      exact hresult
  | ends ht => exact absurd ht hgone
  | joins ht => exact absurd ht hgone
  | busy hcharge =>
      have hphase := h.phase
      rw [hcharge] at hphase
      generalize first.play (order.map Prod.snd) = turns at hphase
      cases hphase with
      | busy hends ht => exact absurd ht hgone

/-- A close that waits for the task of the teardown finds that this has ended. -/
theorem Serves.joining {joined : TaskId} (h : w.Serves first started order (some task) charge)
    (hfit : w.CallsFit (some task)) (horderly : u.Orderly (some task)) (ht : w.task? task = some t)
    (howner : t.owner = none) (hcontrol : t.control = .wait (.join joined))
    (hframes : t.frames = [.closeJoin 0]) (horder : t.id ∈ order.map Prod.fst)
    (hstep : w.step? task = some u) : u.Serves first started order (some task) charge := by
  obtain ⟨-, hid⟩ := task?_mem ht
  have hnone := hfit.finish?_eq ht
  have hfree : Serial.Free t.control t.frames := by
    rw [hcontrol, hframes]
    exact ⟨rfl, by simp [Frame.hold?]⟩
  have hcharge := h.phase.not_charged ht hfree
  rw [step?_wait ht hcontrol] at hstep
  obtain ⟨control, hready, rfl⟩ := Option.map_eq_some_iff.1 hstep
  obtain ⟨finish, hfinish, rfl⟩ := Option.map_eq_some_iff.1 hready
  -- the close stands as the task that it waits for, which has ended as it has to
  have hjoins : ∀ {result}, w.Stands (some task) charge result task → result = some finish ∧
      ∃ outcome, finish = .value (closeReply outcome) := by
    intro result hstands
    rcases hstands.cases_of ht hnone with heq | ⟨-, finish', hends, -⟩ |
      ⟨joined', -, hcontrol', -, hreply, hstands'⟩
    · exact absurd heq (hcharge _)
    · rw [hcontrol] at hends
      cases hends
    · cases hcontrol.symm.trans hcontrol'
      have hresult := h.finish_eq hfit.toOrderly hfinish hstands'
      exact ⟨hresult, hreply finish hresult⟩
  obtain ⟨entry, hentry, hfirst⟩ := List.mem_map.1 horder
  obtain ⟨i, hi⟩ := List.mem_iff_getElem?.1 hentry
  obtain ⟨turn, -, hstands⟩ := h.stands_at hi
  rw [hfirst, hid] at hstands
  obtain ⟨outcome, rfl⟩ := (hjoins hstands).2
  rw [hframes] at horderly ⊢
  have hends : Ends (w.goto task (.reply (closeReply outcome)) [.closeJoin 0])
      (.reply (closeReply outcome)) [.closeJoin 0] (.value (closeReply outcome)) := by
    have hends := Ends.replies (w := w.goto task (.reply (closeReply outcome)) [.closeJoin 0])
      (closeReply outcome) (.inr rfl)
    have hpresent : ∀ v : World, (closeReply outcome).map v.present = closeReply outcome :=
      fun v => by cases outcome <;> rfl
    rwa [hpresent] at hends
  refine h.aside rfl rfl rfl rfl hcharge horderly (fun hstands => ?_)
    (.ends _ howner (by rw [hid]) hends)
    (fun use hmem hwaits => ?_) ht
  · exact .ends (task?_goto_self ht _ _) howner rfl hends (hjoins hstands).1
  · have hqueued := h.queued hmem hwaits ht
    rw [hcontrol, hframes] at hqueued
    cases hqueued

/-! ## Steps -/

/-- A step of a call that has not gone on with the lock. -/
theorem Serves.queues (h : w.Serves first started order (some task) charge)
    (hacting : w.Acting task)
    (horderly : u.Orderly (some task)) (ht : w.task? task = some t) (howner : t.owner = none)
    (hstarted : (t.id, use) ∈ started) (hqueued : Serial.Queued use t.control t.frames)
    (hstep : w.step? task = some u) :
    ∃ charge', u.Serves first started (order ++ t.takes?.toList) (some task) charge' := by
  obtain ⟨-, hid⟩ := task?_mem ht
  have hwait : ∀ {v control frames}, u = v.goto task control frames → v.view = w.view →
      SameTasks w v → v.contacts = w.contacts → Serial.Queued use control frames →
        t.takes? = none →
          ∃ charge', u.Serves first started (order ++ t.takes?.toList) (some task) charge' := by
    rintro v control frames rfl hview hsame hcontacts hnext htakes
    rw [htakes, Option.toList_none, List.append_nil]
    exact ⟨charge, h.waiting hacting.fits hview hsame hcontacts horderly ht howner hstarted hqueued
      hnext⟩
  have hlock : ∀ {frame : Frame}, t.control = .wait (.lock 0) → t.frames = [frame] →
      Serial.Queued use (.reply (.ok .unit)) [frame] → t.takes? = none →
        ∃ charge', u.Serves first started (order ++ t.takes?.toList) (some task) charge' := by
    intro frame hcontrol hframes hnext htakes
    rw [step?_wait ht hcontrol, hframes] at hstep
    obtain ⟨control, hready, rfl⟩ := Option.map_eq_some_iff.1 hstep
    simp only [ready?] at hready
    split at hready
    · cases hready
      exact hwait rfl rfl ⟨rfl, rfl, rfl⟩ rfl hnext htakes
    · cases hready
  have hfree := hqueued.free
  have huncharged : ∀ {reply : Reply} {frame : Frame}, t.control = .reply reply →
    t.frames = [frame] →
      (frame = .getLock 0 ∨ ∃ interrupt, frame = .closeLock 0 interrupt) → charge = none :=
    fun hcontrol hframes hframe => h.phase.uncharged hacting ht
      (owner_of_granted hacting ht hcontrol hframes hframe) hfree
  have hqueued' := hqueued
  obtain ⟨id, control, frames, handle, owner⟩ := t
  obtain rfl : id = task := hid
  dsimp only at hqueued' hstarted
  cases hqueued' with
  | get =>
      rw [step?_call ht rfl] at hstep
      exact hwait (Option.some.inj hstep).symm (view_requestLock w id 0)
        (relocks_requestLock w id 0).same rfl (.getLock (.inl rfl)) rfl
  | close interrupt =>
      rw [step?_call ht rfl] at hstep
      exact hwait (Option.some.inj hstep).symm (view_requestLock w id 0)
        (relocks_requestLock w id 0).same rfl (.closeLock interrupt (.inl rfl)) rfl
  | getLock hcontrol =>
      rcases hcontrol with rfl | ⟨reply, rfl⟩
      · exact hlock rfl rfl (.getLock (.inr ⟨_, rfl⟩)) rfl
      · obtain rfl := huncharged rfl rfl (.inl rfl)
        rw [step?_reply ht rfl rfl] at hstep
        obtain rfl := Option.some.inj hstep
        exact h.enters hacting.fits horderly ht howner hstarted hqueued
          (gets_lockedChannel h.phase.of_none.2.2 id)
  | closeLock interrupt hcontrol =>
      rcases hcontrol with rfl | ⟨reply, rfl⟩
      · exact hlock rfl rfl (.closeLock interrupt (.inr ⟨_, rfl⟩)) rfl
      · obtain rfl := huncharged rfl rfl (.inr ⟨interrupt, rfl⟩)
        rw [step?_reply ht rfl rfl] at hstep
        obtain rfl := Option.some.inj hstep
        have hshows := h.phase.of_none.2.2
        cases houtcome : (first.reached (first.play (order.map Prod.snd))).outcome with
        | none => exact h.handsOver hacting.fits horderly ht howner hstarted hqueued houtcome
        | some outcome =>
            exact h.enters hacting.fits horderly ht howner hstarted hqueued
              (onward_lockedClose hshows houtcome id interrupt).gets

/-- Only a call that waits for the lock takes it. -/
theorem takes?_eq_none (h : ∀ frame ∈ t.frames, frame.isWaiting = false) : t.takes? = none := by
  unfold Task.takes?
  split
  next hframes =>
    have hframe := h _ (by rw [hframes]; exact List.mem_cons_self ..)
    cases hframe
  next hframes =>
    have hframe := h _ (by rw [hframes]; exact List.mem_cons_self ..)
    cases hframe
  next => rfl

/-- Every step of a task keeps the invariant. -/
theorem Serves.step (h : w.Serves first started order (some task) charge) (hacting : w.Acting task)
    (hafter : u.Acting task) (ht : w.task? task = some t) (hstep : w.step? task = some u) :
    ∃ charge', u.Serves first started (order ++ t.takes?.toList) (some task) charge' := by
  obtain ⟨hmem, hid⟩ := task?_mem ht
  have horderly := hafter.fits.toOrderly
  have hstay : (∀ frame ∈ t.frames, frame.isWaiting = false) →
      (∃ charge', u.Serves first started order (some task) charge') →
        ∃ charge', u.Serves first started (order ++ t.takes?.toList) (some task) charge' := by
    intro hframes hserves
    rw [takes?_eq_none hframes, Option.toList_none, List.append_nil]
    exact hserves
  rcases h.spots t hmem with ⟨use, howner, hstarted, hqueued⟩ | howned | ⟨result, hcharge⟩ |
    ⟨finish, howner, -, hends⟩ | ⟨joined, howner, hcontrol, hframes, horder⟩
  · exact h.queues hacting horderly ht howner hstarted hqueued hstep
  · exact hstay howned.minds.not_isWaiting ⟨charge, h.minds hacting.fits horderly ht howned hstep⟩
  · obtain rfl : t.id = task := hid
    subst hcharge
    refine hstay (fun frame hframe => ?_) (h.work hacting.fits horderly hstep)
    have hbusy := h.phase.isBusy ht frame hframe
    cases frame <;> first | rfl | cases hbusy
  · exact hstay hends.not_isWaiting
      ⟨charge, h.ending hacting.fits horderly ht howner hends hstep⟩
  · refine hstay (fun frame hframe => ?_)
      ⟨charge, h.joining hacting.fits horderly ht howner hcontrol hframes horder hstep⟩
    rw [hframes] at hframe
    rw [List.mem_singleton.1 hframe]
    rfl

/-! ## Between the steps -/

/-- What the frames of a task are. -/
theorem Spot.isAside (h : w.Spot polled charge started order t) :
    (∃ result, charge = some (t.id, result)) ∨ ∀ frame ∈ t.frames, frame.isAside = true := by
  rcases h with ⟨use, -, -, hqueued⟩ | howned | ⟨result, hcharge⟩ | ⟨finish, -, -, hends⟩ |
    ⟨joined, -, -, hframes, -⟩
  · refine .inr ?_
    generalize t.control = control at hqueued
    generalize t.frames = frames at hqueued
    cases hqueued <;> simp [Frame.isAside]
  · refine .inr ?_
    have hminds := howned.minds
    generalize t.control = control at hminds
    generalize t.frames = frames at hminds
    cases hminds <;> simp [Frame.isAside]
  · exact .inl ⟨result, hcharge⟩
  · refine .inr ?_
    generalize t.control = control at hends
    generalize t.frames = frames at hends
    cases hends with
    | replies reply h | panics content h => rcases h with rfl | rfl <;> simp [Frame.isAside]
  · refine .inr ?_
    rw [hframes]
    simp [Frame.isAside]

/-- Nothing is cut short where nothing has been interrupted. -/
theorem Serves.cutTask_eq (h : w.Serves first started order polled charge) (task : TaskId) :
    w.cutTask task = w := by
  unfold cutTask
  split
  next => rfl
  next t ht =>
    split
    next cut hcut =>
      obtain ⟨hmem, hid⟩ := task?_mem ht
      obtain ⟨hframes, hshort⟩ := cut?_eq_some hcut
      have hframe : cut.frame ∈ t.frames := by rw [hframes]; simp
      obtain ⟨s, hshows⟩ := h.phase.exists_shows
      rcases (h.spots t hmem).isAside with ⟨result, hcharge⟩ | haside
      · have hphase := h.phase
        rw [hcharge] at hphase
        have hbusy := hphase.isBusy (by rwa [hid]) cut.frame hframe
        generalize cut.frame = frame at hshort hbusy
        cases frame with
        | teardown td pause =>
            cases pause <;> simp [cutShort?, interrupted_eq hshows] at hshort
        | _ => first | cases hshort | cases hbusy
      · have haside := haside cut.frame hframe
        generalize cut.frame = frame at hshort haside
        cases frame <;> first | cases hshort | cases haside
    next => rfl

/-- Nothing is dropped with what a teardown waits for. -/
theorem Drains.dropped (h : Serial.Drains control frames) (hwait : ∃ wait, control = .wait wait)
    (w : World) (task : TaskId) : (w.dropControl task control).dropFrames task frames = w := by
  obtain ⟨wait, rfl⟩ := hwait
  cases h with
  | waits handler deadline => rfl
  | acts h completed =>
      cases h with
      | sleeps behaviour h =>
          rcases h with ⟨deadline, heq⟩ | ⟨reply, heq⟩
          · cases heq
            rfl
          · cases heq
      | silent => rfl

/-- The wait of a teardown for operations may be over because of its time limit. -/
theorem Serves.expires (h : w.Serves first started order (some task) charge)
    (hfit : w.CallsFit (some task)) (horderly : (w.expireDrain task).Orderly (some task))
    (hstep : w.step? task = none) :
    ∃ charge', (w.expireDrain task).Serves first started order (some task) charge' := by
  cases ht : w.task? task with
  | none =>
      have hsame : w.expireDrain task = w := by rw [expireDrain, ht]
      exact ⟨charge, hsame.symm ▸ h⟩
  | some t =>
      obtain ⟨hmem, rfl⟩ := task?_mem ht
      cases hcut : w.overdue? t.frames with
      | none =>
          have hsame : w.expireDrain t.id = w := by simp only [expireDrain, ht, hcut]
          exact ⟨charge, hsame.symm ▸ h⟩
      | some cut =>
          obtain ⟨hframes, td, deadline, -, hframe, hcontrol⟩ := overdue?_eq_some hcut
          rw [hframe] at hframes
          rcases (h.spots t hmem).isAside with ⟨result, rfl⟩ | haside
          · refine h.works hfit horderly fun {s t' rest} ht' hbusy hshows => ?_
            cases ht.symm.trans ht'
            obtain ⟨houter, rfl, hclosed, hdrains, interrupt, rfl⟩ := hbusy.draining hframes
            obtain ⟨wait, hwait, -⟩ := wait_of_step?_eq_none hstep ht
            have hexpire : w.expireDrain t.id = (w.drainTimeout 0).goto t.id
                (.call (.teardown (s.taken interrupt) .release)) [] := by
              simp only [expireDrain, ht, hcut, leaveCall, hframe,
                Drains.dropped hdrains ⟨wait, hwait⟩ w t.id, hcontrol, houter]
              rfl
            rw [hexpire]
            exact ((Acted.refl hshows).quiet (quiet_drainTimeout w 0)
              (view_drainTimeout w 0)).nextStage .release hclosed (by simp) t.id
          · have hmem' : Frame.teardown td (.drain deadline) ∈ t.frames := by rw [hframes]; simp
            cases haside _ hmem'

/-! ## Outside of polls -/

theorem Stands.poll {polled' : Option TaskId} (h : w.Stands polled charge result task)
    (hnot : ∀ {task t finish}, polled = some task → w.task? task = some t →
      ¬ Ends w t.control t.frames finish) : w.Stands polled' charge result task := by
  induction h with
  | finished hfinish hresult => exact .finished hfinish hresult
  | ends ht howner hpolled hends hresult => exact absurd hends (hnot hpolled ht)
  | busy hcharge => exact .busy hcharge
  | joins ht howner hcontrol hframes hreply _ ih =>
    exact .joins ht howner hcontrol hframes hreply ih

/-- A poll begins or ends, in which no call is about to end. -/
theorem Serves.poll {polled' : Option TaskId} (h : w.Serves first started order polled charge)
    (hnot : ∀ {task t finish}, polled = some task → w.task? task = some t →
      ¬ Ends w t.control t.frames finish) (horderly : w.Orderly polled) :
    w.Serves first started order polled' charge where
  phase := h.phase
  spots t ht := by
    rcases h.spots t ht with ⟨use, howner, hstarted, hqueued⟩ | howned | ⟨result, hcharge⟩ |
      ⟨finish, howner, hpolled, hends⟩ | ⟨joined, howner, hcontrol, hframes, horder⟩
    · exact .queued use howner hstarted hqueued
    · exact .owned howned
    · exact .busy result hcharge
    · exact absurd hends (hnot hpolled (horderly.task?_eq ht))
    · exact .joins joined howner hcontrol hframes horder
  stands := h.stands.imp fun _ _ hstands => hstands.poll hnot
  waits := h.waits
  started := h.started
  nodup := h.nodup
  listed := h.listed

theorem Stands.apart (h : w.Stands none charge result task)
    (htask : ∀ {task t}, w.task? task = some t → u.task? task = some t)
    (hfinished : u.finished = w.finished) : u.Stands none charge result task := by
  induction h with
  | finished hfinish hresult => exact .finished (by rwa [finish?, hfinished]) hresult
  | ends ht howner hpolled hends hresult => cases hpolled
  | busy hcharge => exact .busy hcharge
  | joins ht howner hcontrol hframes hreply _ ih =>
      exact .joins (htask ht) howner hcontrol hframes hreply ih

/-- Between polls calls may be started. -/
theorem Serves.apart {new : List Task} {extra : List (TaskId × Use)}
    (h : w.Serves first started order none charge) (htasks : u.tasks = w.tasks ++ new)
    (hfinished : u.finished = w.finished) (hcontacts : u.contacts = w.contacts)
    (hview : u.view = w.view) (hnew : ∀ t ∈ new, t.owner = none ∧ ∃ use, (t.id, use) ∈ extra ∧
      Serial.Queued use t.control t.frames)
    (hextra : ∀ {task use}, (task, use) ∈ extra → ∃ t, u.task? task = some t ∧
      Serial.Queued use t.control t.frames) :
    u.Serves first (started ++ extra) order none charge := by
  have hkeep : ∀ {task t}, w.task? task = some t → u.task? task = some t := by
    intro task t ht
    rw [task?] at ht ⊢
    rw [htasks, List.find?_append, ht]
    rfl
  have hcalls := calls_of_contacts hcontacts 0
  constructor
  · have hphase := h.phase
    generalize first.play (order.map Prod.snd) = turns at hphase
    cases hphase with
    | idle hends calls shows => exact .idle hends (hcalls.trans calls) (hview ▸ shows)
    | busy hends ht howner hbusy calls shows =>
        exact .busy hends (hkeep ht) howner hbusy (hcalls.trans calls) (hview ▸ shows)
  · intro t ht
    rw [htasks] at ht
    rcases List.mem_append.1 ht with ht | ht
    · rcases h.spots t ht with ⟨use, howner, hstarted, hqueued⟩ | howned | ⟨result, hcharge⟩ |
        ⟨finish, howner, hpolled, hends⟩ | ⟨joined, howner, hcontrol, hframes, horder⟩
      · exact .queued use howner (List.mem_append_left _ hstarted) hqueued
      · exact .owned howned
      · exact .busy result hcharge
      · cases hpolled
      · exact .joins joined howner hcontrol hframes horder
    · obtain ⟨howner, use, hmem, hqueued⟩ := hnew t ht
      exact .queued use howner (List.mem_append_right _ hmem) hqueued
  · exact h.stands.imp fun _ _ hstands => hstands.apart hkeep hfinished
  · intro task use hmem
    rcases List.mem_append.1 hmem with hmem | hmem
    · rcases h.waits hmem with horder | ⟨t, ht, hqueued⟩
      · exact .inl horder
      · exact .inr ⟨t, hkeep ht, hqueued⟩
    · exact .inr (hextra hmem)
  · exact List.subset_append_of_subset_left _ h.started
  · exact h.nodup
  · refine ⟨by rw [hview]; exact h.listed.nodup, fun id hid => ?_⟩
    rw [hview] at hid
    obtain ⟨t, ht, hid', howner⟩ := h.listed.owned id hid
    exact ⟨t, by rw [htasks]; exact List.mem_append_left _ ht, hid', howner⟩

end World

end Remoting
