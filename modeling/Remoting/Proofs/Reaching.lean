import Remoting.Proofs.Cancelling
import Remoting.Proofs.Delivering

/-!
# Cancellations that reach somebody

Unless a move of a run reaches into it, a record of operations goes through a history of uses: those
of its handler. Runs are of tasks that are polled one at a time, each poll being over before anyone
else acts. So a handler ends an operation, its ticket and its receiver in either order, between the
uses of others. An operation in flight has its receiver, which waits or holds the reason of a
cancellation; no cancellation is lost, and a call that is cancelled returns what its handler was
told. That no cancellation is logged as undeliverable rests on this as well: another thread that
cancels between the two drops, when only the receiver is gone, would log it.
-/

namespace Remoting

/-- Whether a move leaves all records to their handlers. -/
def Move.Proper (move : Move) : Prop :=
  ∀ handler, move.Spares handler

/-- The record that a move reaches into. -/
def Move.reaches? : Move → Option HandlerId
  | .act action => action.reaches?
  | _ => none

theorem Move.proper_iff (move : Move) : move.Proper ↔ move.reaches? = none := by
  cases move with
  | act action =>
      constructor
      · intro h
        cases hreaches : action.reaches? with
        | none => exact hreaches
        | some handler => exact absurd hreaches (h handler action rfl)
      · rintro h handler _ ⟨⟩ hreaches
        cases h.symm.trans hreaches
  | _ => exact iff_of_true (fun _ _ heq => by cases heq) rfl

instance (move : Move) : Decidable move.Proper :=
  decidable_of_iff _ move.proper_iff.symm

/-! ## The uses of a handler -/

/-- The uses that a deed consists of. -/
def Deed.uses : Deed → List Tracker.Use
  | .accept => [.register]
  | .bind operation channel => [.bind operation channel]
  | .finish operation => [.dropTicket operation, .dropReceiver operation]
  | .stop => [.stop]
  | .cancel .closing => [.cancelAll Notice.closing.reason]
  | .cancel (.channelClosed channel cause) =>
    [.cancelChannel channel (Notice.channelClosed channel cause).reason]

namespace Tracker

theorem after_eq_uses (tracker : Tracker) (deed : Deed) :
    tracker.after deed = deed.uses.foldl use tracker := by
  cases deed with
  | cancel notice => cases notice <;> rfl
  | _ => rfl

/-- A record that its uses have led to. -/
def Used (tracker : Tracker) : Prop :=
  ∃ uses, tracker = ofUses uses

theorem used_empty : empty.Used :=
  ⟨[], rfl⟩

theorem Used.after {tracker : Tracker} (h : tracker.Used) (deed : Deed) :
    (tracker.after deed).Used := by
  obtain ⟨uses, rfl⟩ := h
  exact ⟨uses ++ deed.uses, by rw [after_eq_uses, ofUses, ofUses, List.foldl_append]⟩

theorem Used.foldl {tracker : Tracker} (h : tracker.Used) (deeds : List Deed) :
    (deeds.foldl Tracker.after tracker).Used := by
  induction deeds generalizing tracker with
  | nil => exact h
  | cons deed deeds ih => exact ih (h.after deed)

end Tracker

/-! ## What a call is cancelled for -/

/-- What a call has found to be the reason of a cancellation is the reason of one. -/
structure Fate.Heard (fate : Fate) : Prop where
  due : ∀ {reason}, fate.due = some reason → fate.reason = some reason
  bar : ∀ {reason}, fate.bar = some reason → fate.reason = some reason

namespace Moment

variable {m after last : Moment} {move : Move} {moves : List Move} {handler : HandlerId}
  {id : OperationId} {e : Execution} {fate : Fate} {reply : Reply}

theorem heard_notes (h : fate.Heard) (m after : Moment) (e : Execution) (move : Move) :
    (m.notes after e fate move).Heard := by
  cases move with
  | poll task =>
      simp only [notes]
      split
      · exact ⟨fun hdue => hdue, h.bar⟩
      · exact h
  | step =>
      simp only [notes]
      split
      next t _ _ _ =>
        have hsees : (e.sees t fate).Heard := by
          obtain heq | ⟨reply, frame, heq⟩ := e.sees_eq_or t fate <;> rw [heq]
          · exact h
          · cases frame with
            | opening => exact ⟨h.due, fun hbar => hbar⟩
            | _ => exact ⟨h.due, h.bar⟩
        exact ⟨hsees.due, hsees.bar⟩
      next => exact h
  | _ => exact h

theorem heard_follow (h : fate.Heard) (m after : Moment) (e : Execution) (move : Move) :
    (m.follow after e move fate).Heard := by
  have hnotes := heard_notes h m after e move
  unfold follow
  constructor <;> intro reason hreason
  · rw [Fate.due_foldl_hear] at hreason
    exact Fate.reason_foldl_hear (hnotes.due hreason) _
  · rw [Fate.bar_foldl_hear] at hreason
    exact Fate.reason_foldl_hear (hnotes.bar hreason) _

theorem heard_fate (h : fate.Heard) (m : Moment) (e : Execution) (moves : List Move) :
    (m.fate e fate moves).Heard := by
  induction moves generalizing m fate with
  | nil => exact h
  | cons move moves ih =>
      unfold Moment.fate
      split
      next after _ => exact ih (heard_follow h m after e move) after
      next => exact h

theorem fate_snoc (hrun : m.run moves = some last) (hnext : last.next move = some after) :
    m.fate e fate (moves ++ [move]) = last.follow after e move (m.fate e fate moves) := by
  induction moves generalizing m fate with
  | nil =>
      cases hrun
      simp only [List.nil_append, Moment.fate, hnext]
  | cons first rest ih =>
      obtain ⟨middle, hfirst, hrest⟩ := Option.bind_eq_some_iff.1 hrun
      simp only [List.cons_append, Moment.fate, hfirst]
      exact ih hrest

/-- No notice reads as if an operation had been abandoned. -/
theorem reason_ne_abandoned (notice : Notice) :
    notice.reason ≠ .cancelled "operation abandoned" := by
  cases notice with
  | closing => simp [Notice.reason]
  | channelClosed channel cause => nofun

/-- The reply of a call is what its source has answered or what its operation has replied, or it is
the reason of a cancellation that the handler was told of and that concerned the call. -/
theorem reply_origin (hrun : m.run moves = some last) (hnext : last.next move = some after)
    (houtcome : (last.follow after e move (m.fate e .fresh moves)).outcome = some reply) :
    (last.follow after e move (m.fate e .fresh moves)).answer = some reply ∨
      (last.follow after e move (m.fate e .fresh moves)).result = some reply ∨
        ∃ notice : Notice, m.Notifies e .fresh (moves ++ [move]) notice ∧
          reply = .error notice.reason := by
  have hfresh : Fate.fresh.Heard := ⟨nofun, nofun⟩
  have hheard := heard_follow (heard_fate hfresh m e moves) last after e move
  have hwhole : m.fate e .fresh (moves ++ [move]) =
      last.follow after e move (m.fate e .fresh moves) := fate_snoc hrun hnext
  have hrun' : m.run (moves ++ [move]) = some after := (run_snoc hrun move).trans hnext
  have hnotice : ∀ {reason}, (last.follow after e move (m.fate e .fresh moves)).reason =
    some reason →
      ∃ notice : Notice, m.Notifies e .fresh (moves ++ [move]) notice ∧
        (.error reason : Reply) = .error notice.reason := by
    intro reason hreason
    obtain ⟨notice, hnotifies, rfl⟩ := exists_notifies hrun' rfl (hwhole ▸ hreason)
    exact ⟨notice, hnotifies, rfl⟩
  generalize last.follow after e move (m.fate e .fresh moves) = fate at *
  unfold Fate.outcome at houtcome
  split at houtcome
  next reason hdue =>
    cases houtcome
    exact .inr (.inr (hnotice (hheard.due hdue)))
  next =>
    split at houtcome
    next =>
      split at houtcome
      next reason hbar =>
        cases houtcome
        exact .inr (.inr (hnotice (hheard.bar hbar)))
      next => exact .inr (.inl houtcome)
    next => exact .inl houtcome

/-! ## Runs -/

/-- Where a record and the tasks agree no operation in flight has lost its receiver. -/
theorem Tracks.not_deaf (h : ∀ handler, m.Tracks handler) : ¬ m.world.Deaf := by
  rintro ⟨handler, tracker, htracker, operation, hactive, hnone⟩
  have hwaiting := ((h handler).present htracker).1.active hactive
  cases hnone.symm.trans hwaiting

/-- What holds of all records. -/
structure Attentive (m : Moment) : Prop where
  fits : m.CallsFit
  tracks : ∀ handler, m.Tracks handler
  used : ∀ {handler tracker}, m.world.tracker? handler = some tracker → tracker.Used
  logged : ∀ id, .undelivered id ∉ m.world.log

theorem startWith_attentive (suppliers : List Supplier) : (startWith suppliers).Attentive where
  fits := startWith_callsFit suppliers
  tracks := startWith_tracks suppliers
  used {handler tracker} htracker := by
    rw [startWith, World.ofSuppliers_eq] at htracker
    obtain ⟨h, hcell, rfl⟩ := Option.map_eq_some_iff.1 htracker
    rw [List.getElem?_map] at hcell
    obtain ⟨supplier, -, rfl⟩ := Option.map_eq_some_iff.1 hcell
    exact Tracker.used_empty
  logged id := by
    rw [startWith, World.ofSuppliers_eq]
    exact List.not_mem_nil

theorem Attentive.next (h : m.Attentive) (hnext : m.next move = some after)
    (hproper : move.Proper) :
    after.Attentive where
  fits := (h.fits.next hnext).fits
  tracks handler := (h.tracks handler).next h.fits hnext (hproper handler)
  used {handler tracker} htracker := by
    rcases (next_turns hnext (hproper handler)).tracker with heq | ⟨-, hempty⟩
    · rw [heq] at htracker
      obtain ⟨before, hbefore, rfl⟩ := Option.map_eq_some_iff.1 htracker
      exact (h.used hbefore).foldl _
    · cases hempty.symm.trans htracker
      exact Tracker.used_empty
  logged id hline := by
    rcases next_undelivered hnext hline with hline | hdeaf
    · exact h.logged id hline
    · exact Tracks.not_deaf h.tracks hdeaf

theorem Attentive.run (h : m.Attentive) (hrun : m.run moves = some last)
    (hproper : ∀ move ∈ moves, move.Proper) : last.Attentive :=
  run_induction_of_forall Attentive.next h hrun hproper

/-- An operation in flight has its receiver, which is not closed. -/
theorem Attentive.receiver? (h : m.Attentive) {t : Task} {frame : Frame} (ht : t ∈ m.world.tasks)
    (hframe : frame ∈ t.frames) (hticket : frame.ticket? handler = some id) :
    ∃ tracker, m.world.tracker? handler = some tracker ∧ id ∈ tracker.tickets ∧
      (tracker.receiver? id = some .waiting ∨
        ∃ reason, tracker.receiver? id = some (.fired reason)) := by
  have hid := mem_tickets ht (World.mem_held hframe hticket)
  cases htracker : m.world.tracker? handler with
  | none =>
      rw [(h.tracks handler).absent htracker] at hid
      cases hid
  | some tracker =>
      obtain ⟨hpaired, hperm⟩ := (h.tracks handler).present htracker
      have hmem := hperm.subset hid
      exact ⟨tracker, rfl, hmem, (hpaired.receiver hmem).imp_left And.left⟩

/-- How many operations are cancelled does not depend on the order of the walk. -/
theorem cancelOperations_fst {w : World} {handler : HandlerId} {h : Handler}
    (hcell : w.handlers[handler]? = some h) {cancel : Tracker → Tracker.Cancellation}
    {done : Tracker.Cancellation} (hagrees : done.Agrees (cancel h.tracker)) :
    (w.cancelOperations handler cancel).1 = done.matched.length := by
  simp only [World.cancelOperations, hcell]
  exact hagrees.matched.length_eq.symm

/-- What holds of the cancellations of a moment. -/
structure Heeded (m : Moment) : Prop where
  /-- Every record is one that a history leads to, and what is cancelled in it is counted. -/
  records : ∀ {handler h}, m.world.handlers[handler]? = some h → ∃ history,
    h.tracker = Tracker.ofHistory history ∧
      (∀ order reason, (m.world.cancelOperations handler (·.cancelAll reason)).1 =
        (h.tracker.cancelIn order (fun _ => true) reason).matched.length) ∧
      ∀ order channel reason,
        (m.world.cancelOperations handler (·.cancelChannel channel reason)).1 =
          (h.tracker.cancelIn order (fun known => known = some channel) reason).matched.length
  /-- No cancellation has reached nobody. -/
  logged : ∀ id, .undelivered id ∉ m.world.log
  /-- No call inside of which a task is has a closed receiver. -/
  waits : ∀ {t frame handler id}, t ∈ m.world.tasks → frame ∈ t.frames →
    frame.ticket? handler = some id → ∃ tracker, m.world.tracker? handler = some tracker ∧
      id ∈ tracker.tickets ∧ (tracker.receiver? id = some .waiting ∨
        ∃ reason, tracker.receiver? id = some (.fired reason))

theorem Attentive.heeded (h : m.Attentive) : m.Heeded where
  records {handler cell} hcell := by
    obtain ⟨uses, huses⟩ := h.used (show m.world.tracker? handler = some cell.tracker by
      rw [World.tracker?, hcell]
      rfl)
    have hhistory : cell.tracker = Tracker.ofHistory (uses.map fun use => (use, .inOrder)) := by
      rw [Tracker.ofHistory_eq, List.map_map, huses]
      exact congrArg Tracker.ofUses (List.map_id' uses).symm
    have hdelivers := Tracker.delivers (uses.map fun use => (use, .inOrder))
    refine ⟨_, hhistory, fun order reason => ?_, fun order channel reason => ?_⟩
    · refine cancelOperations_fst hcell ?_
      rw [hhistory]
      exact hdelivers.all order reason
    · refine cancelOperations_fst hcell ?_
      rw [hhistory]
      exact hdelivers.channel order channel reason
  logged := h.logged
  waits := h.receiver?

/-- Cancellations are delivered exactly once, and to the operations that they are for: in every
history of a record, whatever the orders of the walks, and in every run. A call that executes an
operation returns what its source or its operation says, or the reason of a cancellation that its
handler was told of; none of these reads as if the operation had been abandoned. -/
theorem cancellations_delivered (history : List (Tracker.Use × Tracker.Order))
    {suppliers : List Supplier} {before later : List Move}
    (hbefore : (startWith suppliers).run before = some m) (hlater : m.run later = some last)
    (hproper : ∀ move ∈ before ++ later, move.Proper) :
    Tracker.Delivers history ∧ last.Heeded ∧ ∀ {e : Execution}, m.Begins e →
      (m.world.admits? e.handler = none → m.Refuses e) ∧
        (m.world.admits? e.handler = some e.operation → ∀ {move after reply}, move.Proper →
          last.Answers after e move reply →
            let fate := last.follow after e move (m.fate e .fresh later)
            fate.answer = some reply ∨ fate.result = some reply ∨
              ∃ notice : Notice, m.Notifies e .fresh (later ++ [move]) notice ∧
                reply = .error notice.reason ∧
                notice.reason ≠ .cancelled "operation abandoned") := by
  have hm := (startWith_attentive suppliers).run hbefore fun move hmove =>
    hproper move (List.mem_append_left _ hmove)
  have hlast := hm.run hlater fun move hmove => hproper move (List.mem_append_right _ hmove)
  refine ⟨Tracker.delivers history, hlast.heeded, fun {e} hbegins =>
    ⟨hbegins.refuses, fun hadmits {move after reply} hmove hanswers => ?_⟩⟩
  have hwatched : m.Watched e := ⟨hm.fits, hm.tracks e.handler⟩
  have houtcome : (last.follow after e move (m.fate e .fresh later)).outcome = some reply := by
    cases later with
    | nil =>
        cases hlater
        exact absurd hanswers.inside hbegins.not_inside
    | cons first rest =>
        obtain ⟨hfollowed, hwatched'⟩ := hbegins.followed hwatched hadmits hlater fun move hmove =>
          hproper move (List.mem_append_right _ hmove) e.handler
        exact (hfollowed.led hwatched' hanswers.next (hmove e.handler)).answers hanswers
  refine (reply_origin hlater hanswers.next houtcome).imp_right (Or.imp_right ?_)
  rintro ⟨notice, hnotifies, hreply⟩
  exact ⟨notice, hnotifies, hreply, reason_ne_abandoned notice⟩

/-- Cancellations of a channel and of all operations that overlap, along different walks. -/
def overlapping : List (Tracker.Use × Tracker.Order) :=
  [(.register, .inOrder), (.register, .inOrder), (.bind 1 0, .inOrder),
    (.cancelChannel 0 (.cancelled "first"), .inReverse),
    (.cancelAll (.cancelled "second"), .inReverse), (.poll 1, .inOrder)]

example : Tracker.reasons 1 overlapping = [.cancelled "first"] ∧
    Tracker.reasons 2 overlapping = [.cancelled "second"] ∧
    Tracker.given 1 overlapping = [.cancelled "first"] := by
  decide +kernel

theorem cancellations_delivered_of_shutdown :
    (startWith [.plan [] 0]).run pendingStart = some pendingBegin ∧
      pendingBegin.run pendingShutdown = some pendingEnd ∧
      (∀ move ∈ pendingStart ++ pendingShutdown, move.Proper) ∧
      Tracker.Delivers overlapping ∧ pendingEnd.Heeded ∧ pendingBegin.Begins pendingCall ∧
      pendingBegin.world.admits? 0 = some 1 ∧
      ∃ after, pendingEnd.Answers after pendingCall (.poll 0) (.error Notice.closing.reason) ∧
        ∃ notice : Notice,
          pendingBegin.Notifies pendingCall .fresh (pendingShutdown ++ [.poll 0]) notice ∧
            (.error Notice.closing.reason : Reply) = .error notice.reason := by
  have hbefore : (startWith [.plan [] 0]).run pendingStart = some pendingBegin :=
    (Option.some_get _).symm
  have hlater : pendingBegin.run pendingShutdown = some pendingEnd := (Option.some_get _).symm
  have hproper : ∀ move ∈ pendingStart ++ pendingShutdown, move.Proper := by decide +kernel
  have hbegins : pendingBegin.Begins pendingCall := ⟨_, rfl, rfl, rfl, rfl⟩
  have hanswers : pendingEnd.Answers ((pendingEnd.next (.poll 0)).get (by decide +kernel))
      pendingCall (.poll 0) (.error Notice.closing.reason) :=
    ⟨(Option.some_get _).symm, ⟨_, [], _, rfl, rfl, rfl⟩, _, rfl, rfl, rfl⟩
  obtain ⟨hdelivers, hheeded, hcalls⟩ :=
    cancellations_delivered overlapping hbefore hlater hproper
  refine ⟨hbefore, hlater, hproper, hdelivers, hheeded, hbegins, rfl, _, hanswers, ?_⟩
  rcases (hcalls hbegins).2 rfl (Move.spares_poll 0) hanswers with hanswer | hresult | hnotice
  · cases hanswer
  · cases hresult
  · obtain ⟨notice, hnotifies, hreply, -⟩ := hnotice
    exact ⟨notice, hnotifies, hreply⟩

end Moment

end Remoting
