import Remoting.Proofs.Founding

/-!
# After a handler has cancelled its operations

A handler that was told to shut down and to cancel its operations is `Quelled`: it admits none, and
all that are in flight were cancelled. It stays so. No operation is called any more as long as the
task that is polled is not inside of one, which no poll brings it into again, and where no task gets
on none is left. A call that is inside an operation, or waits for its channel, is `Due`: its task
leaves it when it is polled next, and the call returns the reason of the cancellation.
-/

namespace Remoting

namespace Tracker

variable {tracker : Tracker} {id : OperationId}

/-- No operation is admitted, and all in flight were cancelled. -/
structure Quelled (tracker : Tracker) : Prop where
  refuses : tracker.accepting = false
  cancelled : tracker.active = []

theorem quelled_shutdown (tracker : Tracker) :
    ([Deed.stop, .cancel .closing].foldl after tracker).Quelled := by
  simp only [List.foldl_cons, List.foldl_nil, after]
  rw [cancelWhere_eq]
  exact ⟨rfl, List.filter_eq_nil_iff.2 fun _ _ => by simp [Notice.concerns]⟩

theorem Quelled.after (h : tracker.Quelled) (deed : Deed) : (tracker.after deed).Quelled := by
  obtain ⟨hrefuses, hcancelled⟩ := h
  cases deed with
  | accept =>
      rw [accept_eq_of_not_accepting hrefuses]
      exact ⟨hrefuses, hcancelled⟩
  | bind id channel => exact ⟨hrefuses, by simp [Tracker.after, Tracker.bind, hcancelled]⟩
  | finish id =>
      by_cases hid : id ∈ tracker.tickets
      · rw [finish_eq hid]
        exact ⟨hrefuses, by simp [hcancelled]⟩
      · simp only [Tracker.after, dropTicket, List.contains_iff_mem, hid, if_false]
        exact ⟨hrefuses, hcancelled⟩
  | stop => exact ⟨rfl, hcancelled⟩
  | cancel notice =>
      simp only [Tracker.after]
      rw [cancelWhere_eq]
      exact ⟨hrefuses, by simp [hcancelled]⟩

theorem Quelled.foldl (h : tracker.Quelled) (deeds : List Deed) :
    (deeds.foldl Tracker.after tracker).Quelled := by
  induction deeds generalizing tracker with
  | nil => exact h
  | cons deed deeds ih => exact ih (h.after deed)

/-- Every operation that has not ended was cancelled for a reason. -/
theorem Quelled.receiver? (h : tracker.Quelled) (hpaired : tracker.Paired)
    (hid : id ∈ tracker.tickets) : ∃ reason, tracker.receiver? id = some (.fired reason) := by
  refine (hpaired.receiver hid).resolve_left ?_
  rintro ⟨-, operation, hactive, -⟩
  rw [h.cancelled] at hactive
  cases hactive

/-- No ticket is given out. -/
theorem Quelled.tickets_subset (h : tracker.Quelled) (deeds : List Deed) :
    (deeds.foldl Tracker.after tracker).tickets.Subset tracker.tickets := by
  induction deeds generalizing tracker with
  | nil => exact List.Subset.refl _
  | cons deed deeds ih =>
      refine List.Subset.trans (ih (h.after deed)) ?_
      cases deed with
      | accept =>
          rw [accept_eq_of_not_accepting h.refuses]
          exact List.Subset.refl _
      | finish id =>
          rw [tickets_after]
          exact List.erase_subset
      | _ =>
          rw [tickets_after]
          exact List.Subset.refl _

end Tracker

namespace Fate

/-- A call learns the reason of a cancellation from a notice that concerns it. -/
theorem exists_notice {fate : Fate} {deeds : List Deed} {reason : Error}
    (hnone : fate.reason = none) (hreason : (deeds.foldl hear fate).reason = some reason) :
    ∃ notice, .cancel notice ∈ deeds ∧ notice.concerns fate.channel = true ∧
      reason = notice.reason := by
  induction deeds generalizing fate with
  | nil => cases hnone.symm.trans hreason
  | cons deed deeds ih =>
      have hchannel : (fate.hear deed).channel = fate.channel := channel_foldl_hear fate [deed]
      by_cases hstill : (fate.hear deed).reason = none
      · obtain ⟨notice, hmem, hconcerns, heq⟩ := ih hstill hreason
        exact ⟨notice, List.mem_cons_of_mem _ hmem, hchannel ▸ hconcerns, heq⟩
      · cases deed with
        | cancel notice =>
            by_cases hconcerns : notice.concerns fate.channel = true
            · have hheard : (fate.hear (.cancel notice)).reason = some notice.reason := by
                simp [hear, hnone, hconcerns]
              refine ⟨notice, List.mem_cons_self .., hconcerns, ?_⟩
              exact Option.some.inj (hreason.symm.trans (reason_foldl_hear hheard deeds))
            · exact absurd (by simp [hear, hnone, hconcerns]) hstill
        | _ => exact absurd hnone hstill

end Fate

namespace Moment

variable {made m after last : Moment} {move : Move} {moves : List Move} {handler : HandlerId}
  {client : ClientId} {id : OperationId} {t t' : Task} {td : Teardown} {frame : Frame}
  {e : Execution} {fate : Fate} {reason : Error}

/-- A handler admits no operation, and all its operations were cancelled. -/
def Quelled (m : Moment) (handler : HandlerId) : Prop :=
  ∃ tracker, m.world.tracker? handler = some tracker ∧ tracker.Quelled

theorem Quelled.next (h : m.Quelled handler) (hnext : m.next move = some after)
    (hspares : move.Spares handler) : after.Quelled handler := by
  obtain ⟨tracker, htracker, hquelled⟩ := h
  exact ⟨_, (next_turns hnext hspares).tracker_eq htracker, hquelled.foldl _⟩

theorem Quelled.run (h : m.Quelled handler) (hrun : m.run moves = some last)
    (hspares : ∀ move ∈ moves, move.Spares handler) : last.Quelled handler :=
  run_induction_of_forall Quelled.next h hrun hspares

/-- The teardown of a client has the client's handler cancel its operations. -/
theorem Founded.quelled (h : made.Founded client handler) (hrun : made.run moves = some m)
    (ht : m.polled? = some t) (hclient : td.client = client)
    (hcontrol : t.control = .call (.teardown td .shutdownNow)) (hnext : m.next .step = some after) :
    after.Quelled handler := by
  obtain ⟨hassociation, tracker, -, htracker⟩ := h.told hrun ht hcontrol hnext
  subst hclient
  rw [World.stageDeeds, World.clientDeeds_of_association hassociation] at htracker
  exact ⟨_, htracker, tracker.quelled_shutdown⟩

theorem Quelled.admits? (h : m.Quelled handler) : m.world.admits? handler = none := by
  obtain ⟨tracker, htracker, hquelled⟩ := h
  exact World.admits?_eq_none htracker hquelled.refuses

/-- A call inside of an operation is to be cut short. -/
theorem Quelled.cutShort? (h : m.Quelled handler) (htracks : m.Tracks handler)
    (ht : t ∈ m.world.tasks) (hframe : frame ∈ t.frames)
    (hticket : frame.ticket? handler = some id) :
    ∃ control, m.world.cutShort? frame = some control := by
  obtain ⟨tracker, htracker, hquelled⟩ := h
  obtain ⟨hpaired, hperm⟩ := htracks.present htracker
  have hheld : id ∈ World.held handler t.frames := World.mem_held hframe hticket
  obtain ⟨reason, hreceiver⟩ := hquelled.receiver? hpaired (hperm.subset (mem_tickets ht hheld))
  obtain ⟨cell, hcell, rfl⟩ := Option.map_eq_some_iff.1 htracker
  have hcancelled : m.world.cancellation? handler id = some reason := by
    rw [World.cancellation?, hcell]
    simp [Tracker.cancellation?, hreceiver]
  cases frame with
  | supply | opening | operation =>
      simp only [Frame.ticket?] at hticket
      split at hticket
      next heq =>
        cases hticket
        subst heq
        exact ⟨_, by rw [World.cutShort?, hcancelled]; rfl⟩
      next => cases hticket
  | _ => cases hticket

/-- Where no task gets on no operation is left. -/
theorem Quelled.count_eq_zero (h : m.Quelled handler) (hfit : m.CallsFit)
    (htracks : m.Tracks handler) (hidle : m.Idle) :
    ∃ tracker, m.world.tracker? handler = some tracker ∧ tracker.count = 0 := by
  have hnone : m.world.tickets handler = [] := by
    refine List.eq_nil_iff_forall_not_mem.2 fun id hid => ?_
    obtain ⟨t, ht, hheld⟩ := List.mem_flatMap.1 hid
    obtain ⟨frame, hframe, hticket⟩ := List.mem_filterMap.1 hheld
    obtain ⟨control, hshort⟩ := h.cutShort? htracks ht hframe hticket
    obtain ⟨wait, -, -, hcut, -⟩ := hidle.waits hfit ht
    cases hshort.symm.trans (World.cutShort?_of_cut?_eq_none hcut hframe)
  obtain ⟨tracker, htracker, -⟩ := h
  obtain ⟨htracker', hperm⟩ := htracks.present htracker
  rw [hnone] at hperm
  exact ⟨tracker, htracker, by rw [htracker'.count, hperm.symm.eq_nil]; rfl⟩

/-! ## Calls -/

/-- The polled task is inside no operation of a handler, and does not wait for the channel of
one. -/
def Outlying (m : Moment) (handler : HandlerId) : Prop :=
  ∀ t, m.polled? = some t → World.held handler t.frames = []

/-- No ticket is given out after all operations were cancelled: whoever holds one has held it
before. -/
theorem Quelled.exists_holder (h : m.Quelled handler) (hfit : m.CallsFit)
    (htracks : m.Tracks handler) (hnext : m.next move = some after) (hspares : move.Spares handler)
    (ht' : t' ∈ after.world.tasks) (hheld' : id ∈ World.held handler t'.frames) :
    ∃ t, m.world.task? t'.id = some t ∧ id ∈ World.held handler t.frames := by
  obtain ⟨active, horderly⟩ := hfit.exists_callsFit
  have htracks' := htracks.next hfit hnext hspares
  obtain ⟨tracker, htracker, hquelled⟩ := h
  have htracker' := (next_turns hnext hspares).tracker_eq htracker
  have hid : id ∈ m.world.tickets handler := by
    refine (htracks.present htracker).2.symm.subset
      (hquelled.tickets_subset (m.deeds handler move) ?_)
    exact (htracks'.present htracker').2.subset (mem_tickets ht' hheld')
  obtain ⟨t, ht, hheld⟩ := List.mem_flatMap.1 hid
  have hfind := horderly.task?_eq ht
  -- it is the same task, since tickets do not change hands
  have hsame : t'.id = t.id := by
    by_cases hactor : m.actor? move = some t.id
    · refine Decidable.byContradiction fun hne => ?_
      have hother := mem_ticketsBut ht' hne hheld'
      rw [next_ticketsBut hnext hspares hactor] at hother
      exact List.disjoint_of_nodup_append (htracks.held_nodup hfit hfind) hheld hother
    · exact htracks'.holder_eq (hfit.next hnext).fits (next_task? hnext hfind hactor) hheld ht'
        hheld'
  exact ⟨t, hsame ▸ hfind, hheld⟩

/-- No operation gets on after all were cancelled: whoever is inside of one, or waits for its
channel, has been so before. -/
theorem Quelled.mem_frames (h : m.Quelled handler) (houtlying : m.Outlying handler)
    (hfit : m.CallsFit) (htracks : m.Tracks handler) (hnext : m.next move = some after)
    (hspares : move.Spares handler) (ht' : t' ∈ after.world.tasks) (hframe : frame ∈ t'.frames)
    (hticket : frame.ticket? handler = some id) :
    ∃ t, m.world.task? t'.id = some t ∧ frame ∈ t.frames := by
  obtain ⟨active', horderly'⟩ := (hfit.next hnext).fits.exists_callsFit
  have hfind' := horderly'.task?_eq ht'
  obtain ⟨t, hfind, hheld⟩ := h.exists_holder hfit htracks hnext hspares ht'
    (World.mem_held hframe hticket)
  refine ⟨t, hfind, ?_⟩
  by_cases hactor : m.actor? move = some t'.id
  · cases move with
    | abort task =>
        cases hactor
        cases hfind'.symm.trans (task?_of_abort hfit hnext hfind)
    | poll task =>
        cases hactor
        obtain ⟨-, rfl⟩ := next_poll hnext
        cases hcut : m.world.cut? t.frames with
        | none =>
            have hsame : (m.world.cutTask t'.id).task? t'.id = some t := by
              rw [World.cutTask_eq_self hfind hcut, hfind]
            cases hfind'.symm.trans hsame
            exact hframe
        | some cut =>
            -- the task has left some of its calls
            cases hfind'.symm.trans (World.task?_cutTask hfind hcut)
            rw [(World.cut?_eq_some hcut).1]
            exact List.mem_append_right _ (List.mem_cons_of_mem _ hframe)
    | step | expire =>
        rw [houtlying t (polled?_of_actor? hactor hfind)] at hheld
        cases hheld
    | _ => cases hactor
  · cases hfind'.symm.trans (next_task? hnext hfind hactor)
    exact hframe

/-- A poll leaves all operations that were cancelled, so the polled task stays outside of them. -/
theorem Outlying.next (h : m.Outlying handler) (hquelled : m.Quelled handler) (hfit : m.CallsFit)
    (htracks : m.Tracks handler) (hnext : m.next move = some after)
    (hspares : move.Spares handler) : after.Outlying handler := by
  intro t' hpolled'
  refine List.eq_nil_iff_forall_not_mem.2 fun id hheld' => ?_
  obtain ⟨hmem', hactor'⟩ := of_polled? hpolled'
  obtain ⟨t, hfind, hheld⟩ :=
    hquelled.exists_holder hfit htracks hnext hspares hmem' hheld'
  have hpolled : m.actor? .step = some t'.id → False := fun hactor => by
    rw [h t (polled?_of_actor? hactor hfind)] at hheld
    cases hheld
  cases next_transition hnext with
  | poll task idle =>
      cases hactor'
      obtain ⟨frame, hframe, hticket⟩ := List.mem_filterMap.1 hheld'
      -- around what is cut short, nothing is to be cut short
      have hshort : m.world.cutShort? frame = none ∧ frame ∈ t.frames := by
        cases hcut : m.world.cut? t.frames with
        | none =>
            have hsame : (m.world.cutTask t'.id).task? t'.id = some t := by
              rw [World.cutTask_eq_self hfind hcut, hfind]
            cases (polled?_task? hpolled').symm.trans hsame
            exact ⟨World.cutShort?_of_cut?_eq_none hcut hframe, hframe⟩
        | some cut =>
            cases (polled?_task? hpolled').symm.trans (World.task?_cutTask hfind hcut)
            refine ⟨World.cutShort?_of_cut?_eq_none (World.cut?_outer hcut) hframe, ?_⟩
            rw [(World.cut?_eq_some hcut).1]
            exact List.mem_append_right _ (List.mem_cons_of_mem _ hframe)
      obtain ⟨control, hcontrol⟩ :=
        hquelled.cutShort? htracks (World.task?_mem hfind).1 hshort.2 hticket
      cases hcontrol.symm.trans hshort.1
  | step polls | expire polls =>
      refine hpolled ?_
      rw [actor?, polls]
      exact hactor'
  | _ => cases hpolled'

/-! ## Calls that were cancelled -/

/-- The task that is being polled after a move is the one that has made it. -/
theorem next_polling (hnext : m.next move = some after) {polling : Polling}
    (hpolling : after.polling = some polling) : m.actor? move = some polling.task := by
  cases next_transition hnext with
  | poll =>
      cases hpolling
      rfl
  | step polls | expire polls =>
      cases hpolling
      rw [actor?, polls]
      rfl
  | _ => cases hpolling

/-- A reason is never noted but for a cancellation. -/
theorem reason_notes (m after : Moment) (e : Execution) (fate : Fate) (move : Move) :
    (m.notes after e fate move).reason = fate.reason := by
  cases move with
  | poll task =>
      simp only [notes]
      split <;> rfl
  | step =>
      simp only [notes]
      split
      · exact Execution.reason_sees _ _ _
      · rfl
  | _ => rfl

/-- A call was cancelled, and its task, which is inside of it, has not been polled since. -/
structure Due (m : Moment) (e : Execution) (reason : Error) : Prop where
  lives : ∃ fate t inner frame, m.Lives e fate t inner frame ∧ fate.reason = some reason
  unpolled : ∀ {polling}, m.polling = some polling → polling.task ≠ e.task

/-- A poll finds that a call was cancelled: it returns the reason, or is left with a call around
it. -/
theorem Lives.answers {inner : List Frame} (h : m.Lives e fate t inner frame)
    (hwatched : m.Watched e) (hreason : fate.reason = some reason)
    (hnext : m.next (.poll e.task) = some after) :
    m.Answers after e (.poll e.task) (.error reason) ∨ m.Drops (.poll e.task) e.task e.outer := by
  have hmem : frame ∈ t.frames := by
    rw [h.frames]
    exact List.mem_append_right _ (List.mem_cons_self ..)
  have hshort := h.cutShort? hwatched
  rw [hreason, Option.map_some] at hshort
  obtain ⟨cut, hcut⟩ : ∃ cut, m.world.cut? t.frames = some cut := by
    cases hcut : m.world.cut? t.frames with
    | some cut => exact ⟨cut, rfl⟩
    | none => cases hshort.symm.trans (World.cutShort?_of_cut?_eq_none hcut hmem)
  obtain ⟨hframes, hcontrol⟩ := World.cut?_eq_some hcut
  rcases split_cases (hframes.symm.trans h.frames) with
    ⟨middle, houter⟩ | ⟨heq, houter⟩ | ⟨middle, houter⟩
  · -- the outermost of the calls that were cancelled is left, and this one is among them
    have hnone : m.world.cutShort? frame = none :=
      World.cutShort?_of_cut?_eq_none (World.cut?_outer hcut)
        (houter ▸ List.mem_append_right _ (List.mem_cons_self ..))
    cases hshort.symm.trans hnone
  · refine .inl ⟨hnext, ⟨t, inner, frame, h.task, h.frames, h.stage.ticket?⟩,
      { t with control := cut.control, frames := cut.outer }, ?_, ?_, houter⟩
    · obtain ⟨-, rfl⟩ := next_poll hnext
      exact World.task?_cutTask h.task hcut
    · rw [heq, hshort] at hcontrol
      exact (Option.some.inj hcontrol).symm
  · exact .inr (.inr ⟨t, cut, h.task, ⟨middle, houter⟩, .inl ⟨rfl, hcut⟩⟩)

/-- A call that was cancelled stays so until its task is polled or stopped. -/
theorem Due.next (h : m.Due e reason) (hwatched : m.Watched e) (hnext : m.next move = some after)
    (hspares : move.Spares e.handler) :
    after.Due e reason ∨ m.Answers after e move (.error reason) ∨ m.Drops move e.task e.outer := by
  obtain ⟨fate, t, inner, frame, hlives, hreason⟩ := h.lives
  by_cases hactor : m.actor? move = some e.task
  · refine .inr ?_
    cases move with
    | abort task =>
        cases hactor
        exact .inr (.inl rfl)
    | poll task =>
        cases hactor
        exact hlives.answers hwatched hreason hnext
    | step | expire =>
        obtain ⟨polling, hpolling, htask⟩ := Option.map_eq_some_iff.1 hactor
        exact absurd htask (h.unpolled hpolling)
    | _ => cases hactor
  · refine .inl ⟨⟨_, t, inner, frame, hlives.bystander hwatched hnext hspares hactor, ?_⟩, ?_⟩
    · exact Fate.reason_foldl_hear ((reason_notes _ _ _ _ _).trans hreason) _
    · intro polling hpolling htask
      exact hactor (htask ▸ next_polling hnext hpolling)

theorem Watched.run (h : m.Watched e) (hrun : m.run moves = some last)
    (hspares : ∀ move ∈ moves, move.Spares e.handler) : last.Watched e :=
  run_induction_of_forall Watched.next h hrun hspares

/-- Where no task gets on no call is left that was cancelled. -/
theorem Idle.not_due (hidle : m.Idle) (hwatched : m.Watched e) : ¬ m.Due e reason := by
  rintro ⟨⟨fate, t, inner, frame, hlives, hreason⟩, -⟩
  have hmem : frame ∈ t.frames := by
    rw [hlives.frames]
    exact List.mem_append_right _ (List.mem_cons_self ..)
  have hshort := hlives.cutShort? hwatched
  rw [hreason, Option.map_some] at hshort
  obtain ⟨wait, -, -, hcut, -⟩ := hidle.waits hwatched.fits (World.task?_mem hlives.task).1
  cases hshort.symm.trans (World.cutShort?_of_cut?_eq_none hcut hmem)

/-- A call that was cancelled returns the reason of that or is dropped before no task gets on. -/
theorem Due.settles (h : m.Due e reason) (hwatched : m.Watched e) (hrun : m.run moves = some last)
    (hspares : ∀ move ∈ moves, move.Spares e.handler) (hidle : last.Idle) :
    ∃ before move later n n', moves = before ++ move :: later ∧ m.run before = some n ∧
      n.next move = some n' ∧
      (n.Answers n' e move (.error reason) ∨ n.Drops move e.task e.outer) := by
  obtain ⟨before, move, later, n, n', rfl, hbefore, hnext, -, hdue, hgone⟩ :=
    exists_change (P := fun m => ¬ m.Due e reason) hrun (not_not.2 h)
      (hidle.not_due (hwatched.run hrun hspares))
  have hwatched' := hwatched.run hbefore fun move hmove =>
    hspares move (List.mem_append_left _ hmove)
  have hspare := hspares move (List.mem_append_right _ (List.mem_cons_self ..))
  exact ⟨before, move, later, n, n', rfl, hbefore, hnext,
    ((not_not.1 hdue).next hwatched' hnext hspare).resolve_left hgone⟩

/-! ## Reasons -/

/-- In a run a handler is told something that cancels a call for a reason. -/
def Notifies (m : Moment) (e : Execution) (fate : Fate) (moves : List Move) (notice : Notice) :
    Prop :=
  ∃ before move later n, moves = before ++ move :: later ∧ m.run before = some n ∧
    .cancel notice ∈ n.deeds e.handler move ∧
    notice.concerns (m.fate e fate (before ++ [move])).channel = true

theorem reason_fate (hreason : fate.reason = some reason) (moves : List Move) :
    (m.fate e fate moves).reason = some reason := by
  induction moves generalizing m fate with
  | nil => exact hreason
  | cons move moves ih =>
      unfold Moment.fate
      split
      next => exact ih (Fate.reason_foldl_hear ((reason_notes _ _ _ _ _).trans hreason) _)
      next => exact hreason

/-- A call is cancelled for a reason that its handler was told. -/
theorem exists_notifies (hrun : m.run moves = some last) (hnone : fate.reason = none)
    (hreason : (m.fate e fate moves).reason = some reason) :
    ∃ notice : Notice, m.Notifies e fate moves notice ∧ reason = notice.reason := by
  induction moves generalizing m fate with
  | nil => cases hnone.symm.trans hreason
  | cons move moves ih =>
      obtain ⟨after, hnext, hrest⟩ := Option.bind_eq_some_iff.1 hrun
      simp only [Moment.fate, hnext] at hreason
      by_cases hstill : (m.follow after e move fate).reason = none
      · obtain ⟨notice, ⟨before, move', later, n, rfl, hbefore, hmem, hconcerns⟩, heq⟩ :=
          ih hrest hstill hreason
        refine ⟨notice, ⟨move :: before, move', later, n, rfl,
          Option.bind_eq_some_iff.2 ⟨after, hnext, hbefore⟩, hmem, ?_⟩, heq⟩
        simpa only [List.cons_append, Moment.fate, hnext] using hconcerns
      · obtain ⟨reason', hsome⟩ := Option.ne_none_iff_exists'.1 hstill
        obtain ⟨notice, hmem, hconcerns, heq⟩ :=
          Fate.exists_notice ((reason_notes m after e fate move).trans hnone) hsome
        refine ⟨notice, ⟨[], move, moves, m, rfl, rfl, hmem, ?_⟩, ?_⟩
        · simpa only [List.nil_append, Moment.fate, hnext, follow, Fate.channel_foldl_hear] using
            hconcerns
        · rw [← heq]
          exact Option.some.inj (hreason.symm.trans (reason_fate hsome moves))

end Moment

end Remoting
