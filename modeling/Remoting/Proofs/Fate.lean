import Remoting.Proofs.Tracked

/-!
# The fate of an operation

A call that executes an operation has a fate, which is all that decides what it returns: what its
handler has been told, how the source of channels has answered, and what the operation itself has
replied. `Moment.follow` is what a move adds to the fate of a call. A cancellation counts if it
concerns the channel that the source has delivered so far, and only the first one counts. Whether
there was one is looked at when the task of the call is polled, and once more when the operation has
been called and its body is about to run. The record of the handler shows this fate,
`Tracker.Shows`, as long as the operation has not ended.
-/

namespace Remoting

/-- A call that executes an operation. -/
structure Execution where
  task : TaskId
  handler : HandlerId
  /-- The number that the handler gives to the operation. -/
  operation : OperationId
  routine : Routine
  client : Option ClientId
  /-- The frames of the calls around it. -/
  outer : List Frame

/-- What decides what a call that executes an operation returns. -/
structure Fate where
  /-- The reason of the first cancellation that has concerned the call. -/
  reason : Option Error
  /-- This reason as it was when the task of the call was last polled. -/
  due : Option Error
  /-- The answer of the source of channels. -/
  answer : Option Reply
  /-- The reason as it was when the operation had been called. -/
  bar : Option Error
  /-- What the task was about to do whenever the operation was called, and the reason of a
  cancellation that the task had found then. -/
  calls : List (Control × Option Error)
  /-- What the task was about to do whenever the body of the operation began to run. -/
  runs : List Control
  /-- What the operation has replied. -/
  result : Option Reply

namespace Execution

/-- Where the operation runs if it is called with a channel. -/
def site (e : Execution) (channel : ChannelId) : Site :=
  ⟨e.handler, channel, e.client⟩

end Execution

namespace Fate

/-- The fate of a call that begins. -/
def fresh : Fate := ⟨none, none, none, none, [], [], none⟩

/-- The channel that the source of channels has delivered. -/
def channel (fate : Fate) : Option ChannelId :=
  match fate.answer with
  | some (.ok (.handle channel)) => some channel
  | _ => none

/-- The fate after a deed of the handler. -/
def hear (fate : Fate) : Deed → Fate
  | .cancel notice =>
    { fate with
      reason := fate.reason.or (if notice.concerns fate.channel then some notice.reason else none) }
  | _ => fate

/-- The fate after a reply to a frame of the call. -/
def learn (fate : Fate) (reply : Reply) : Frame → Fate
  | .supply .. => { fate with answer := some reply }
  | .opening .. => { fate with bar := fate.reason }
  | .operation .. => { fate with result := some reply }
  | _ => fate

/-- What a call returns: the reason of a cancellation that it found when its task was polled; else
what the source answered in place of a channel; else the reason of a cancellation that it found when
the operation had been called; else what the operation replied. -/
def outcome (fate : Fate) : Option Reply :=
  match fate.due with
  | some reason => some (.error reason)
  | none =>
    match fate.answer with
    | some (.ok (.handle _)) =>
      match fate.bar with
      | some reason => some (.error reason)
      | none => fate.result
    | answer => answer

/-- The operation is called at most once, with the channel that the source has delivered, and not in
a poll that has found a cancellation. Its body runs at most once, and not if there was a
cancellation when the operation had been called. -/
def Orderly (fate : Fate) (e : Execution) : Prop :=
  fate.calls = [] ∧ fate.runs = [] ∨ ∃ channel, fate.channel = some channel ∧
    fate.calls = [(.call (.operate e.routine.call (e.site channel)), none)] ∧
    (fate.runs = [] ∨ fate.bar = none ∧
      fate.runs = [.call (.operate e.routine.body (e.site channel))])

/-- Deeds add at most a reason. -/
theorem foldl_hear_eq (fate : Fate) (deeds : List Deed) :
    deeds.foldl hear fate = { fate with reason := (deeds.foldl hear fate).reason } := by
  induction deeds generalizing fate with
  | nil => rfl
  | cons deed deeds ih =>
      rw [List.foldl_cons, ih]
      cases deed <;> rfl

@[simp] theorem due_foldl_hear (fate : Fate) (deeds : List Deed) :
    (deeds.foldl hear fate).due = fate.due := by
  rw [foldl_hear_eq]

@[simp] theorem answer_foldl_hear (fate : Fate) (deeds : List Deed) :
    (deeds.foldl hear fate).answer = fate.answer := by
  rw [foldl_hear_eq]

@[simp] theorem bar_foldl_hear (fate : Fate) (deeds : List Deed) :
    (deeds.foldl hear fate).bar = fate.bar := by
  rw [foldl_hear_eq]

@[simp] theorem calls_foldl_hear (fate : Fate) (deeds : List Deed) :
    (deeds.foldl hear fate).calls = fate.calls := by
  rw [foldl_hear_eq]

@[simp] theorem runs_foldl_hear (fate : Fate) (deeds : List Deed) :
    (deeds.foldl hear fate).runs = fate.runs := by
  rw [foldl_hear_eq]

@[simp] theorem result_foldl_hear (fate : Fate) (deeds : List Deed) :
    (deeds.foldl hear fate).result = fate.result := by
  rw [foldl_hear_eq]

@[simp] theorem channel_foldl_hear (fate : Fate) (deeds : List Deed) :
    (deeds.foldl hear fate).channel = fate.channel := by
  rw [channel, answer_foldl_hear, channel]

@[simp] theorem outcome_foldl_hear (fate : Fate) (deeds : List Deed) :
    (deeds.foldl hear fate).outcome = fate.outcome := by
  simp only [outcome, due_foldl_hear, answer_foldl_hear, bar_foldl_hear, result_foldl_hear]

theorem orderly_foldl_hear {fate : Fate} {e : Execution} (h : fate.Orderly e)
    (deeds : List Deed) : (deeds.foldl hear fate).Orderly e := by
  simpa only [Orderly, calls_foldl_hear, runs_foldl_hear, channel_foldl_hear, bar_foldl_hear]
    using h

/-- A reason that is there stays. -/
theorem reason_foldl_hear {fate : Fate} {reason : Error} (h : fate.reason = some reason)
    (deeds : List Deed) : (deeds.foldl hear fate).reason = some reason := by
  induction deeds generalizing fate with
  | nil => exact h
  | cons deed deeds ih =>
      refine ih ?_
      cases deed with
      | cancel notice => rw [hear, h]; rfl
      | _ => exact h

end Fate

/-- What a task does when a step has brought it inside a frame of some kind. -/
def Task.entered (before after : Task) (kind : Frame → Bool) : List Control :=
  if before.frames.any kind then []
  else if after.frames.any kind then [after.control] else []

namespace Execution

variable {e : Execution} {kind : Frame → Bool}

/-- The frame of the call while it waits for its channel. -/
def supplying (e : Execution) : Frame :=
  .supply e.handler e.operation e.routine e.client

/-- The frame of the call while the operation is being called with a channel. -/
def opening (e : Execution) (channel : ChannelId) : Frame :=
  .opening e.operation e.routine.body (e.site channel)

/-- The frame of the call while the body of the operation runs. -/
def running (e : Execution) : Frame :=
  .operation e.handler e.operation

/-- Whether a frame is that of the operation while it is being called. -/
def isOpening (e : Execution) : Frame → Bool
  | .opening operation _ site => site.handler = e.handler && operation = e.operation
  | _ => false

/-- Whether a frame is that of the operation while its body runs. -/
def isRunning (e : Execution) : Frame → Bool
  | .operation handler operation => handler = e.handler && operation = e.operation
  | _ => false

/-- What the reply of a task to its innermost frame adds to the fate of a call. -/
def sees (e : Execution) (t : Task) (fate : Fate) : Fate :=
  match t.control, t.frames with
  | .reply reply, frame :: _ =>
    if frame.ticket? e.handler = some e.operation then fate.learn reply frame else fate
  | _, _ => fate

@[simp] theorem ticket?_supplying (e : Execution) :
    e.supplying.ticket? e.handler = some e.operation :=
  if_pos rfl

@[simp] theorem ticket?_opening (e : Execution) (channel : ChannelId) :
    (e.opening channel).ticket? e.handler = some e.operation :=
  if_pos rfl

@[simp] theorem ticket?_running (e : Execution) : e.running.ticket? e.handler = some e.operation :=
  if_pos rfl

@[simp] theorem isOpening_opening (e : Execution) (channel : ChannelId) :
    e.isOpening (e.opening channel) = true := by
  simp [isOpening, opening, site]

@[simp] theorem isRunning_running (e : Execution) : e.isRunning e.running = true := by
  simp [isRunning, running]

/-- Frames of some kind are those of the operation, so they hold its ticket. -/
def Own (e : Execution) (kind : Frame → Bool) : Prop :=
  ∀ frame, kind frame = true → frame.ticket? e.handler = some e.operation

theorem own_isOpening (e : Execution) : e.Own e.isOpening := by
  intro frame hframe
  cases frame with
  | opening operation body site =>
      obtain ⟨hhandler, rfl⟩ : site.handler = e.handler ∧ operation = e.operation := by
        simpa [isOpening] using hframe
      exact if_pos hhandler
  | _ => cases hframe

theorem own_isRunning (e : Execution) : e.Own e.isRunning := by
  intro frame hframe
  cases frame with
  | operation handler operation =>
      obtain ⟨rfl, rfl⟩ : handler = e.handler ∧ operation = e.operation := by
        simpa [isRunning] using hframe
      exact if_pos rfl
  | _ => cases hframe

theorem Own.held (h : e.Own kind) {frames : List Frame} (hany : frames.any kind = true) :
    e.operation ∈ World.held e.handler frames := by
  obtain ⟨frame, hmem, hframe⟩ := List.any_eq_true.1 hany
  exact World.mem_held hmem (h frame hframe)

/-- The outer frames of a task that do not hold the ticket are not of the kind. -/
theorem Own.any_cons (h : e.Own kind) (frame : Frame) {outer : List Frame}
    (hunheld : e.operation ∉ World.held e.handler outer) :
    (frame :: outer).any kind = kind frame := by
  have houter : outer.any kind = false := Bool.eq_false_iff.2 fun hany => hunheld (h.held hany)
  rw [List.any_cons, houter, Bool.or_false]

/-- A task without the ticket is not inside the operation. -/
theorem Own.entered_eq_nil (h : e.Own kind) (before : Task) {after : Task}
    (hunheld : e.operation ∉ World.held e.handler after.frames) :
    before.entered after kind = [] := by
  unfold Task.entered
  split
  · rfl
  · exact if_neg fun hany => hunheld (h.held hany)

/-- A task learns at most what is replied to it. -/
theorem sees_eq_or (e : Execution) (t : Task) (fate : Fate) :
    e.sees t fate = fate ∨ ∃ reply frame, e.sees t fate = fate.learn reply frame := by
  unfold sees
  split
  · split
    · exact .inr ⟨_, _, rfl⟩
    · exact .inl rfl
  · exact .inl rfl

theorem reason_sees (e : Execution) (t : Task) (fate : Fate) :
    (e.sees t fate).reason = fate.reason := by
  obtain heq | ⟨reply, frame, heq⟩ := e.sees_eq_or t fate <;> rw [heq]
  cases frame <;> rfl

theorem calls_sees (e : Execution) (t : Task) (fate : Fate) :
    (e.sees t fate).calls = fate.calls := by
  obtain heq | ⟨reply, frame, heq⟩ := e.sees_eq_or t fate <;> rw [heq]
  cases frame <;> rfl

theorem runs_sees (e : Execution) (t : Task) (fate : Fate) :
    (e.sees t fate).runs = fate.runs := by
  obtain heq | ⟨reply, frame, heq⟩ := e.sees_eq_or t fate <;> rw [heq]
  cases frame <;> rfl

/-- A reply to a frame of the call. -/
theorem sees_eq {t : Task} {frame : Frame} {outer : List Frame} {reply : Reply}
    (hcontrol : t.control = .reply reply) (hframes : t.frames = frame :: outer)
    (hticket : frame.ticket? e.handler = some e.operation) (fate : Fate) :
    e.sees t fate = fate.learn reply frame := by
  simp only [sees, hcontrol, hframes]
  exact if_pos hticket

/-- A task whose innermost frame does not hold the ticket adds nothing to the fate. -/
theorem sees_of_ne {t : Task} (fate : Fate)
    (h : ∀ {frame}, t.frames.head? = some frame → frame.ticket? e.handler ≠ some e.operation) :
    e.sees t fate = fate := by
  unfold sees
  split
  next frame outer _ hframes => exact if_neg (h (congrArg List.head? hframes))
  next => rfl

/-- A task that does not reply adds nothing to the fate. -/
theorem sees_of_not_reply {t : Task} (fate : Fate) (h : ∀ reply, t.control ≠ .reply reply) :
    e.sees t fate = fate := by
  unfold sees
  split
  next hcontrol _ => exact absurd hcontrol (h _)
  next => rfl

end Execution

namespace Moment

/-- What a move itself adds to the fate of a call, apart from what the handler is told in it. -/
def notes (m after : Moment) (e : Execution) (fate : Fate) : Move → Fate
  | .poll task => if task = e.task then { fate with due := fate.reason } else fate
  | .step =>
    match m.polled?, after.polled? with
    | some t, some t' =>
      { e.sees t fate with
        calls := fate.calls ++ (t.entered t' e.isOpening).map fun control => (control, fate.due)
        runs := fate.runs ++ t.entered t' e.isRunning }
    | _, _ => fate
  | _ => fate

/-- The fate of a call after a move. -/
def follow (m after : Moment) (e : Execution) (move : Move) (fate : Fate) : Fate :=
  (m.deeds e.handler move).foldl Fate.hear (m.notes after e fate move)

/-- The fate of a call after a list of moves. -/
def fate (e : Execution) (m : Moment) (fate : Fate) : List Move → Fate
  | [] => fate
  | move :: moves =>
    match m.next move with
    | some after => after.fate e (m.follow after e move fate) moves
    | none => fate

end Moment

/-! ## The record -/

namespace Tracker

variable {tracker tracker' : Tracker} {id : OperationId} {channel : Option ChannelId}

/-- The record shows the channel of an operation, or the reason that it was cancelled for. -/
def Shows (tracker : Tracker) (id : OperationId) (channel : Option ChannelId) :
    Option Error → Prop
  | none => ⟨id, channel⟩ ∈ tracker.active
  | some reason => tracker.receiver? id = some (.fired reason)

theorem Shows.mem (h : tracker.Paired) {reason : Option Error}
    (hshows : tracker.Shows id channel reason) : id ∈ tracker.tickets := by
  cases reason with
  | none => exact h.ticket_of_active hshows
  | some reason => exact h.known hshows

/-- A record shows an operation as cancelled exactly for the reason of its fate. -/
theorem Shows.cancellation? (h : tracker.Paired) {reason : Option Error}
    (hshows : tracker.Shows id channel reason) : tracker.cancellation? id = reason := by
  unfold Tracker.cancellation?
  cases reason with
  | none => rw [h.active hshows]
  | some reason => rw [show tracker.receiver? id = some (.fired reason) from hshows]

/-- A receiver that shows a reason shows it until its operation ends. -/
theorem Paired.fired_after (h : tracker.Paired) {reason : Error}
    (hfired : tracker.receiver? id = some (.fired reason)) {deed : Deed}
    (hfinish : deed ≠ .finish id) : (tracker.after deed).receiver? id = some (.fired reason) := by
  cases deed with
  | accept =>
      cases haccepting : tracker.accepting with
      | true =>
          rw [h.receiver?_accept haccepting, if_neg (Nat.ne_of_lt (h.fresh (h.known hfired)))]
          exact hfired
      | false =>
          rw [accept_eq_of_not_accepting haccepting]
          exact hfired
  | bind other channel => exact hfired
  | finish other =>
      have hne : id ≠ other := fun heq => hfinish (heq ▸ rfl)
      rw [receiver?_finish, if_neg hne]
      exact hfired
  | stop => exact hfired
  | cancel notice =>
      -- only receivers that wait are told a reason
      have hnot : tracker.receiver? id ≠ some .waiting := fun heq => by cases hfired.symm.trans heq
      exact (receiver?_cancelWhere ..).trans ((if_neg fun hmatched => hnot hmatched.2).trans hfired)

/-- An active operation stays so until it gets its channel, ends, or a cancellation concerns it. -/
theorem active_after (hactive : ⟨id, channel⟩ ∈ tracker.active) {deed : Deed}
    (hfinish : deed ≠ .finish id) (hbind : ∀ channel, deed ≠ .bind id channel)
    (hcancel : ∀ notice, deed = .cancel notice → notice.concerns channel = false) :
    ⟨id, channel⟩ ∈ (tracker.after deed).active := by
  cases deed with
  | accept =>
      cases haccepting : tracker.accepting with
      | true =>
          rw [accept_eq haccepting]
          exact List.mem_append_left _ hactive
      | false =>
          rw [accept_eq_of_not_accepting haccepting]
          exact hactive
  | bind other bound =>
      refine List.mem_map.2 ⟨_, hactive, if_neg ?_⟩
      rintro rfl
      exact hbind bound rfl
  | finish other =>
      have hne : id ≠ other := fun heq => hfinish (heq ▸ rfl)
      by_cases hother : other ∈ tracker.tickets
      · rw [finish_eq hother]
        exact List.mem_filter.2 ⟨hactive, by simpa using hne⟩
      · rw [finish_eq_of_not_mem hother]
        exact hactive
  | stop => exact hactive
  | cancel notice =>
      show _ ∈ (tracker.cancelWhere _ _).after.active
      rw [cancelWhere_eq]
      exact List.mem_filter.2 ⟨hactive, by simp [hcancel notice rfl]⟩

/-- The receiver of an active operation shows the reason of a cancellation that concerns it. -/
theorem Paired.fired_cancel (h : tracker.Paired) (hactive : ⟨id, channel⟩ ∈ tracker.active)
    {notice : Notice} (hconcerns : notice.concerns channel = true) :
    (tracker.after (.cancel notice)).receiver? id = some (.fired notice.reason) := by
  refine (receiver?_cancelWhere ..).trans ?_
  rw [if_pos ⟨⟨_, hactive, hconcerns, rfl⟩, h.active hactive⟩, Notice.clone_reason]

/-- The record goes on to show the fate of an operation that neither gets its channel nor ends. -/
theorem Shows.after (h : tracker.Paired) {fate : Fate}
    (hshows : tracker.Shows id fate.channel fate.reason) {deed : Deed}
    (hfinish : deed ≠ .finish id) (hbind : ∀ channel, deed ≠ .bind id channel) :
    (tracker.after deed).Shows id fate.channel (fate.hear deed).reason := by
  cases hreason : fate.reason with
  | some reason =>
      rw [hreason] at hshows
      have hkept : (fate.hear deed).reason = some reason := by
        cases deed <;> simp [Fate.hear, hreason]
      rw [hkept]
      exact h.fired_after hshows hfinish
  | none =>
      rw [hreason] at hshows
      cases deed with
      | cancel notice =>
          simp only [Fate.hear, hreason, Option.none_or]
          cases hconcerns : notice.concerns fate.channel with
          | true => exact h.fired_cancel hshows hconcerns
          | false =>
              refine active_after hshows hfinish hbind fun other heq => ?_
              cases heq
              exact hconcerns
      | _ =>
          simp only [Fate.hear, hreason]
          exact active_after hshows hfinish hbind fun _ heq => by cases heq

/-- The record shows the channel that an operation gets, unless it was cancelled before. -/
theorem Shows.bind {reason : Option Error} (hshows : tracker.Shows id none reason)
    (channel : ChannelId) : (tracker.after (.bind id channel)).Shows id (some channel) reason := by
  cases reason with
  | none => exact List.mem_map.2 ⟨_, hshows, if_pos rfl⟩
  | some reason => exact hshows

end Tracker

/-- The record shows the fate of an operation all along the deeds of a move that it outlasts. -/
theorem Spends.shows {tracker tracker' : Tracker} {ids ids' others : List OperationId}
    {deeds : List Deed} {id : OperationId} (h : Spends tracker ids deeds tracker' ids')
    (hpaired : tracker.Paired) (hperm : (ids ++ others).Perm tracker.tickets)
    (hid : id ∈ tracker'.tickets) (hbind : ∀ channel, .bind id channel ∉ deeds) {fate : Fate}
    (hshows : tracker.Shows id fate.channel fate.reason) :
    tracker'.Shows id fate.channel (deeds.foldl Fate.hear fate).reason := by
  induction h generalizing fate with
  | nil => exact hshows
  | @cons tracker ids deed middle deeds tracker' ids' hspend hrest ih =>
      obtain ⟨hpaired', hperm'⟩ := hspend.paired hpaired hperm
      have hmem := hshows.mem hpaired
      have hfinish : deed ≠ .finish id := by
        rintro rfl
        have hpast : (tracker.after (.finish id)).Past id := by
          refine ⟨?_, Nat.lt_of_lt_of_le (hpaired.fresh hmem) (Tracker.nextId_after tracker _)⟩
          rw [Tracker.tickets_after]
          exact fun herase => (hpaired.nodup.mem_erase_iff.1 herase).1 rfl
        rw [hrest.tracker_eq] at hid
        exact (hpast.foldl deeds).1 hid
      have hafter := hshows.after hpaired hfinish fun channel heq =>
        hbind channel (heq ▸ List.mem_cons_self ..)
      have hchannel : (fate.hear deed).channel = fate.channel :=
        Fate.channel_foldl_hear fate [deed]
      rw [← hchannel] at hafter ⊢
      exact ih hpaired' hperm' hid (fun channel hmem => hbind channel (List.mem_cons_of_mem _ hmem))
        hafter

end Remoting
