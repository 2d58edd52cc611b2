import Mathlib.Data.List.Induction
import Remoting.Proofs.Tracking

/-!
# What uses make of an operation

A handler keeps ticket and receiver of an operation together, but a record of operations can be used
in any order: operations are bound again, cancelled twice, their receivers outlive their tickets.
`Course` is what a list of uses makes of one operation. It is read off the uses alone, from the call
that has registered the operation on.
-/

namespace Remoting.Tracker

/-- Something that is done to a record of operations. -/
inductive Use where
  | register
  | bind (operation : OperationId) (channel : ChannelId)
  | stop
  | cancelAll (reason : Error)
  | cancelChannel (channel : ChannelId) (reason : Error)
  | dropTicket (operation : OperationId)
  | dropReceiver (operation : OperationId)
  /-- Look at a receiver. -/
  | poll (operation : OperationId)
  deriving DecidableEq

/-- The record after a use. -/
def use (tracker : Tracker) : Use → Tracker
  | .register => tracker.register.2
  | .bind operation channel => tracker.bind operation channel
  | .stop => tracker.stop
  | .cancelAll reason => (tracker.cancelAll reason).after
  | .cancelChannel channel reason => (tracker.cancelChannel channel reason).after
  | .dropTicket operation => tracker.dropTicket operation
  | .dropReceiver operation => tracker.dropReceiver operation
  | .poll operation => (tracker.pollReceiver operation).2

/-- The record that a list of uses leads to. -/
def ofUses (uses : List Use) : Tracker :=
  uses.foldl use empty

theorem ofUses_snoc (uses : List Use) (last : Use) :
    ofUses (uses ++ [last]) = (ofUses uses).use last := by
  simp [ofUses]

/-! ## Courses -/

/-- What has become of an operation that was admitted. -/
structure Course where
  /-- Whether its ticket is alive. -/
  live : Bool
  /-- The channel that it was last bound to while it could be cancelled. -/
  channel : Option ChannelId
  /-- The reason of the first cancellation that matched it. -/
  reason : Option Error
  /-- Whether its receiver has not been dropped. -/
  listening : Bool
  /-- Whether its receiver has given out the reason. -/
  told : Bool
  deriving DecidableEq

namespace Course

/-- The course of an operation that has just been admitted. -/
def begun : Course := ⟨true, none, none, true, false⟩

/-- Whether the ticket is alive and no cancellation has matched the operation. -/
def isActive (course : Course) : Bool :=
  course.live && course.reason.isNone

/-- A cancellation of the operations on the channels that it concerns. -/
def cancel (course : Course) (concerns : Option ChannelId → Bool) (reason : Error) : Course :=
  if course.isActive && concerns course.channel then
    { course with reason := some reason, told := false }
  else course

/-- The course of an operation after a use. -/
def after (id : OperationId) (course : Course) : Use → Course
  | .register | .stop => course
  | .bind operation channel =>
    if operation = id ∧ course.isActive = true then { course with channel := some channel }
    else course
  | .cancelAll reason => course.cancel (fun _ => true) reason
  | .cancelChannel channel reason => course.cancel (fun known => known = some channel) reason
  | .dropTicket operation => if operation = id then { course with live := false } else course
  | .dropReceiver operation =>
    if operation = id then { course with listening := false } else course
  | .poll operation =>
    if operation = id ∧ course.reason.isSome = true then { course with told := true } else course

/-- What the receiver of an operation shows, unless it was dropped. -/
def receiver? (course : Course) : Option Receiver :=
  if course.listening then
    match course.reason with
    | some reason => some (if course.told then .closed else .fired reason.clone)
    | none => some (if course.live then .waiting else .closed)
  else none

variable {course : Course}

theorem isActive_iff : course.isActive = true ↔ course.live = true ∧ course.reason = none := by
  simp [isActive]

@[simp] theorem live_cancel (course : Course) (concerns : Option ChannelId → Bool)
    (reason : Error) : (course.cancel concerns reason).live = course.live := by
  unfold cancel
  split <;> rfl

@[simp] theorem channel_cancel (course : Course) (concerns : Option ChannelId → Bool)
    (reason : Error) : (course.cancel concerns reason).channel = course.channel := by
  unfold cancel
  split <;> rfl

@[simp] theorem isActive_cancel (course : Course) (concerns : Option ChannelId → Bool)
    (reason : Error) : (course.cancel concerns reason).isActive =
      (course.isActive && !concerns course.channel) := by
  by_cases hmatched : (course.isActive && concerns course.channel) = true
  · rw [cancel, if_pos hmatched]
    simp only [Bool.and_eq_true] at hmatched
    simp [isActive, hmatched.2]
  · rw [cancel, if_neg hmatched]
    cases hactive : course.isActive with
    | false => rfl
    | true => simpa [hactive] using hmatched

/-- A cancellation that matches an operation fires its receiver. -/
theorem receiver?_cancel (course : Course) (concerns : Option ChannelId → Bool) (reason : Error) :
    (course.cancel concerns reason).receiver? =
      if (course.isActive = true ∧ concerns course.channel = true) ∧
          course.receiver? = some .waiting then some (.fired reason.clone)
      else course.receiver? := by
  by_cases hmatched : course.isActive = true ∧ concerns course.channel = true
  · obtain ⟨hlive, hnone⟩ := isActive_iff.1 hmatched.1
    cases hlistening : course.listening <;>
      simp [cancel, hmatched, receiver?, hlive, hnone, hlistening]
  · rw [cancel, if_neg (by simpa using hmatched), if_neg fun hboth => hmatched hboth.1]

/-- Another binding changes nothing but the channel. -/
theorem after_bind (course : Course) (id operation : OperationId) (channel : ChannelId) :
    (course.after id (.bind operation channel)).live = course.live ∧
      (course.after id (.bind operation channel)).isActive = course.isActive ∧
      (course.after id (.bind operation channel)).receiver? = course.receiver? := by
  simp only [after]
  split <;> exact ⟨rfl, rfl, rfl⟩

theorem channel_bind (hactive : course.isActive = true) (id operation : OperationId)
    (channel : ChannelId) : (course.after id (.bind operation channel)).channel =
      if operation = id then some channel else course.channel := by
  by_cases hid : operation = id <;> simp [after, hid, hactive]

/-- The end of an operation closes a receiver that waits. -/
theorem receiver?_dropTicket (course : Course) (id : OperationId) :
    (course.after id (.dropTicket id)).receiver? =
      if course.receiver? = some .waiting then some .closed else course.receiver? := by
  obtain ⟨live, channel, reason, listening, told⟩ := course
  cases listening <;> cases reason <;> cases live <;> cases told <;> simp [after, receiver?]

theorem receiver?_dropReceiver (course : Course) (id : OperationId) :
    (course.after id (.dropReceiver id)).receiver? = none := by
  simp [after, receiver?]

/-- A reason is given out once. -/
theorem receiver?_poll (course : Course) (id : OperationId) :
    (course.after id (.poll id)).receiver? =
      course.receiver?.map fun shown => if shown = .waiting then .waiting else .closed := by
  obtain ⟨live, channel, reason, listening, told⟩ := course
  cases listening <;> cases reason <;> cases live <;> cases told <;> simp [after, receiver?]

/-- An operation is left alone by what is done to another one. -/
theorem after_other {id operation : OperationId} (hne : operation ≠ id) (course : Course) :
    (∀ channel, course.after id (.bind operation channel) = course) ∧
      course.after id (.dropTicket operation) = course ∧
      course.after id (.dropReceiver operation) = course ∧
      course.after id (.poll operation) = course := by
  simp [after, hne]

end Course

/-- What was done since a call that has registered an operation. Calls are counted from one, and
after a stop they register nothing. -/
def since? (id : OperationId) : List Use → Option (List Use)
  | [] => none
  | first :: rest =>
    match first with
    | .stop => none
    | .register => if id = 1 then some rest else since? (id - 1) rest
    | _ => since? id rest

/-- What has become of an operation, if it was admitted. -/
def course? (uses : List Use) (id : OperationId) : Option Course :=
  (since? id uses).map fun later => later.foldl (Course.after id) .begun

/-- Whether the ticket of an operation was handed out and has not been dropped. -/
def isLive (uses : List Use) (id : OperationId) : Bool :=
  (since? id uses).any fun later => .dropTicket id ∉ later

variable {uses : List Use} {last : Use} {tracker : Tracker} {id : OperationId}

theorem since?_snoc (uses : List Use) (last : Use) (id : OperationId) :
    since? id (uses ++ [last]) = match since? id uses with
      | some later => some (later ++ [last])
      | none =>
        if last = .register ∧ .stop ∉ uses ∧ id = uses.count .register + 1 then some []
        else none := by
  induction uses generalizing id with
  | nil => cases last <;> simp [since?]
  | cons first rest ih =>
      cases first with
      | stop => simp [since?]
      | register =>
          by_cases hid : id = 1
          · simp [since?, hid]
          · have hnumber : id - 1 = rest.count .register + 1 ↔
                id = (Use.register :: rest).count .register + 1 := by
              have hlater : ∀ n k : Nat, n ≠ 1 → (n - 1 = k + 1 ↔ n = k + 1 + 1) := by omega
              rw [List.count_cons_self]
              exact hlater id _ hid
            simp only [List.cons_append, since?, hid, if_false, ih, List.mem_cons, reduceCtorEq,
              false_or, hnumber]
      | _ =>
          simp only [List.cons_append, since?, ih, List.mem_cons, reduceCtorEq, false_or,
            List.count_cons, beq_iff_eq, if_false, Nat.add_zero]

/-- What was done since an operation was admitted is a part of all that was done. -/
theorem sublist_of_since? {later : List Use} (h : since? id uses = some later) :
    later.Sublist uses := by
  induction uses generalizing id with
  | nil => cases h
  | cons first rest ih =>
      cases first with
      | stop => cases h
      | register =>
          simp only [since?] at h
          split at h
          · cases h
            exact List.sublist_cons_self _ _
          · exact (ih h).cons _
      | _ => exact (ih h).cons _

theorem course?_snoc (uses : List Use) (last : Use) (id : OperationId) :
    course? (uses ++ [last]) id = match course? uses id with
      | some course => some (course.after id last)
      | none =>
        if last = .register ∧ .stop ∉ uses ∧ id = uses.count .register + 1 then some .begun
        else none := by
  simp only [course?, since?_snoc]
  cases since? id uses with
  | some later => simp
  | none =>
      simp only [Option.map_none]
      split <;> rfl

/-- Numbers are given in the order of the calls. -/
theorem bounds_of_course? {course : Course} (h : course? uses id = some course) :
    1 ≤ id ∧ id ≤ uses.count .register := by
  induction uses using List.reverseRecOn generalizing course with
  | nil => cases h
  | append_singleton uses last ih =>
      rw [course?_snoc] at h
      rw [List.count_append]
      split at h
      next earlier hearlier => exact (ih hearlier).imp_right fun hle => Nat.le_add_right_of_le hle
      next =>
        split at h
        next hnew =>
          obtain ⟨rfl, -, rfl⟩ := hnew
          simp
        next => cases h

theorem course?_next (uses : List Use) : course? uses (uses.count .register + 1) = none :=
  Option.eq_none_iff_forall_ne_some.2 fun _ hcourse =>
    Nat.not_succ_le_self _ (bounds_of_course? hcourse).2

/-- Uses that register nothing go on with the courses that there are. -/
theorem course?_of_ne (hlast : last ≠ .register) (id : OperationId) :
    course? (uses ++ [last]) id = (course? uses id).map fun course => course.after id last := by
  rw [course?_snoc]
  cases course? uses id with
  | some course => rfl
  | none => simp [hlast]

theorem course?_refused (hstop : .stop ∈ uses) (id : OperationId) :
    course? (uses ++ [.register]) id = course? uses id := by
  rw [course?_snoc]
  cases course? uses id with
  | some course => rfl
  | none => simp [hstop]

theorem course?_register (hstop : .stop ∉ uses) (id : OperationId) :
    course? (uses ++ [.register]) id =
      if id = uses.count .register + 1 then some .begun else course? uses id := by
  rw [course?_snoc]
  by_cases hid : id = uses.count .register + 1
  · rw [hid, course?_next]
    simp [hstop]
  · cases course? uses id with
    | some course => simp [hid, Course.after]
    | none => simp [hid]

/-- What one use ends, and no other use changes, lasts until that use. -/
theorem Course.flag_foldl {flag : Course → Bool} {id : OperationId} {ending : Use}
    (h : ∀ course use, flag (course.after id use) = (flag course && decide (use ≠ ending)))
    (course : Course) (later : List Use) :
    flag (later.foldl (Course.after id) course) = (flag course && decide (ending ∉ later)) := by
  induction later generalizing course with
  | nil => simp
  | cons first rest ih =>
      rw [List.foldl_cons, ih, h, Bool.and_assoc]
      congr 1
      simp [List.mem_cons, not_or, eq_comm (a := ending), Bool.decide_and]

/-- An operation is alive until its ticket is dropped. -/
theorem Course.live_after (id : OperationId) (course : Course) (use : Use) :
    (course.after id use).live = (course.live && decide (use ≠ .dropTicket id)) := by
  cases use with
  | cancelAll | cancelChannel => simp [Course.after]
  | bind operation channel => simp [(course.after_bind id operation channel).1]
  | dropTicket operation => by_cases hid : operation = id <;> simp [Course.after, hid]
  | register | stop => simp [Course.after]
  | dropReceiver | poll =>
      simp only [Course.after]
      split <;> simp

theorem isLive_iff (uses : List Use) (id : OperationId) :
    isLive uses id = true ↔ ∃ course, course? uses id = some course ∧ course.live = true := by
  unfold isLive course?
  cases since? id uses with
  | none => simp
  | some later => simp [Course.flag_foldl (Course.live_after id), Course.begun]

end Remoting.Tracker
