import Remoting.Proofs.Ledger
import Remoting.Proofs.Walks

/-!
# The delivery of cancellations

In a history of a record every cancellation walks along the active operations in an order of its
own. What the cancellations of a history have matched, `reasons`, and what looks at a receiver have
shown, `given`, agree with the courses of the operations: whatever the orders, an operation is
matched by one cancellation at most, and its receiver gives out the reason of that one, once.
-/

namespace Remoting.Tracker

/-! ## Histories -/

/-- The channels that a use cancels the operations on, and the reason. -/
def Use.cancels? : Use → Option ((Option ChannelId → Bool) × Error)
  | .cancelAll reason => some (fun _ => true, reason)
  | .cancelChannel channel reason => some (fun known => known = some channel, reason)
  | _ => none

/-- The channel that a use binds an operation to. -/
def Use.binds? (id : OperationId) : Use → Option ChannelId
  | .bind operation channel => if operation = id then some channel else none
  | _ => none

/-- The record after a use. If the use cancels, it walks along the active operations in the given
order. -/
def useIn (tracker : Tracker) (act : Use × Order) : Tracker :=
  match act.1.cancels? with
  | some (concerns, reason) => (tracker.cancelIn act.2 concerns reason).after
  | none => tracker.use act.1

/-- The record that a history leads to. -/
def ofHistory (history : List (Use × Order)) : Tracker :=
  history.foldl useIn empty

/-- What is noted in a history. -/
def collect (note : Tracker → Use × Order → Option Error) (tracker : Tracker) :
    List (Use × Order) → List Error
  | [] => []
  | act :: rest => (note tracker act).toList ++ collect note (tracker.useIn act) rest

/-- The reason that a use cancels an operation for, if it does. -/
def reasonIn (id : OperationId) (tracker : Tracker) (act : Use × Order) : Option Error :=
  act.1.cancels?.bind fun (concerns, reason) =>
    if id ∈ (tracker.cancelIn act.2 concerns reason).matched then some reason else none

/-- The reason that the receiver of an operation gives out in a use. -/
def givenIn (id : OperationId) (tracker : Tracker) (act : Use × Order) : Option Error :=
  if act.1 = .poll id then
    match (tracker.pollReceiver id).1 with
    | some (.fired reason) => some reason
    | _ => none
  else none

/-- The reasons that an operation is cancelled for in a history. -/
def reasons (id : OperationId) (history : List (Use × Order)) : List Error :=
  collect (reasonIn id) empty history

/-- The reasons that the receiver of an operation gives out in a history. -/
def given (id : OperationId) (history : List (Use × Order)) : List Error :=
  collect (givenIn id) empty history

/-- The channel that an operation was last bound to. -/
def lastChannel? (uses : List Use) (id : OperationId) : Option ChannelId :=
  (since? id uses).bind fun later => (later.filterMap (Use.binds? id)).getLast?

/-- Whether the receiver of an operation was dropped. -/
def isDeaf (uses : List Use) (id : OperationId) : Bool :=
  (since? id uses).any fun later => .dropReceiver id ∈ later

section Histories

variable {tracker : Tracker} {uses : List Use} {history : List (Use × Order)} {act : Use × Order}
  {id : OperationId} {concerns : Option ChannelId → Bool} {reason : Error}

theorem collect_snoc (note : Tracker → Use × Order → Option Error) (tracker : Tracker)
    (history : List (Use × Order)) (last : Use × Order) :
    collect note tracker (history ++ [last]) =
      collect note tracker history ++ (note (history.foldl useIn tracker) last).toList := by
  induction history generalizing tracker with
  | nil => simp [collect]
  | cons act rest ih => simp [collect, ih]

/-- The order of the walks does not matter to the record. -/
theorem useIn_eq (hunique : (tracker.active.map ActiveOperation.id).Nodup) (act : Use × Order) :
    tracker.useIn act = tracker.use act.1 := by
  obtain ⟨use, order⟩ := act
  cases use with
  | cancelAll reason => exact (cancelIn_eq hunique order (fun _ => true) reason).1.after
  | cancelChannel channel reason =>
      exact (cancelIn_eq hunique order (fun known => known = some channel) reason).1.after
  | _ => rfl

theorem ofHistory_snoc (history : List (Use × Order)) (last : Use × Order) :
    ofHistory (history ++ [last]) = (ofHistory history).useIn last := by
  simp [ofHistory]

theorem ofHistory_eq (history : List (Use × Order)) :
    ofHistory history = ofUses (history.map Prod.fst) := by
  induction history using List.reverseRecOn with
  | nil => rfl
  | append_singleton history last ih =>
      rw [ofHistory_snoc, List.map_append, List.map_singleton, ofUses_snoc, ih]
      exact useIn_eq (records_ofUses _).unique last

theorem records_ofHistory (history : List (Use × Order)) :
    Records (history.map Prod.fst) (ofHistory history) := by
  rw [ofHistory_eq]
  exact records_ofUses _

/-- A cancellation matches the operations that can be cancelled and are on channels concerned. -/
theorem Records.mem_matched (h : Records uses tracker) (order : Order)
    (concerns : Option ChannelId → Bool) (reason : Error) (id : OperationId) :
    id ∈ (tracker.cancelIn order concerns reason).matched ↔ ∃ course,
      course? uses id = some course ∧ course.isActive = true ∧ concerns course.channel = true := by
  rw [(cancelIn_eq h.unique order concerns reason).1.matched.mem_iff]
  simp only [cancelWhere, List.mem_map, List.mem_filter]
  constructor
  · rintro ⟨⟨_, channel⟩, ⟨hmem, hconcerns⟩, rfl⟩
    obtain ⟨course, hcourse, hactive, rfl⟩ := (h.active _ _).1 hmem
    exact ⟨course, hcourse, hactive, hconcerns⟩
  · rintro ⟨course, hcourse, hactive, hconcerns⟩
    exact ⟨_, ⟨(h.active _ _).2 ⟨course, hcourse, hactive, rfl⟩, hconcerns⟩, rfl⟩

/-- A use that cancels does to a course what its cancellation does. -/
theorem Course.after_cancels {use : Use} (h : use.cancels? = some (concerns, reason))
    (id : OperationId) (course : Course) :
    course.after id use = course.cancel concerns reason := by
  cases use with
  | cancelAll | cancelChannel =>
      cases h
      rfl
  | _ => cases h

/-- A use that does not cancel leaves the reason of a course alone. -/
theorem Course.reason_after {use : Use} (h : use.cancels? = none) (id : OperationId)
    (course : Course) : (course.after id use).reason = course.reason := by
  cases use with
  | cancelAll | cancelChannel => cases h
  | register | stop => rfl
  | _ =>
      simp only [Course.after]
      split <;> rfl

/-- An operation is cancelled for the reason of its course. -/
theorem reasons_eq (id : OperationId) (history : List (Use × Order)) :
    reasons id history =
      ((course? (history.map Prod.fst) id).bind Course.reason).toList := by
  induction history using List.reverseRecOn with
  | nil => rfl
  | append_singleton history last ih =>
      have h := records_ofHistory history
      rw [reasons, collect_snoc]
      show reasons id history ++ (reasonIn id (ofHistory history) last).toList = _
      rw [ih, List.map_append, List.map_singleton, course?_snoc]
      generalize history.map Prod.fst = uses at h ⊢
      obtain ⟨use, order⟩ := last
      -- only a cancellation that concerns the active operation adds a reason
      cases hcancels : use.cancels? with
      | none =>
          have hnone : reasonIn id (ofHistory history) (use, order) = none := by
            simp [reasonIn, hcancels]
          cases course? uses id with
          | none =>
              rw [hnone]
              dsimp only
              split <;> rfl
          | some course => simp [hnone, Course.reason_after hcancels]
      | some cancelled =>
          obtain ⟨concerns, reason⟩ := cancelled
          have hregister : use ≠ .register := fun heq => by
            rw [heq] at hcancels
            cases hcancels
          have hreason : reasonIn id (ofHistory history) (use, order) =
              if ∃ course, course? uses id = some course ∧ course.isActive = true ∧
                concerns course.channel = true then some reason else none := by
            simp only [reasonIn, hcancels, Option.bind_some, h.mem_matched]
          rw [hreason]
          cases hcourse : course? uses id with
          | none => simp [hregister]
          | some course =>
              by_cases hmatched : course.isActive = true ∧ concerns course.channel = true
              · simp [Course.after_cancels hcancels, Course.cancel, hmatched,
                  (Course.isActive_iff.1 hmatched.1).2]
              · have hsame : course.cancel concerns reason = course := by
                  rw [Course.cancel, if_neg (by simpa using hmatched)]
                simp [Course.after_cancels hcancels, hsame, hmatched]

/-- What the receiver of an operation has given out goes with the course of the operation. -/
structure Course.Gives (course : Course) (given : List Error) : Prop where
  unmatched : course.reason = none → given = []
  matched : ∀ {reason}, course.reason = some reason → given = [] ∨ given = [reason.clone]
  listening : course.listening = true → ∀ {reason}, course.reason = some reason →
    given = if course.told then [reason.clone] else []

theorem Course.gives_begun : begun.Gives [] :=
  ⟨fun _ => rfl, fun _ => .inl rfl, fun _ {_} h => by cases h⟩

/-- A cancellation gives out nothing. -/
theorem Course.Gives.cancel {course : Course} {given : List Error} (h : course.Gives given)
    (concerns : Option ChannelId → Bool) (reason : Error) :
    (course.cancel concerns reason).Gives given := by
  by_cases hmatched : (course.isActive && concerns course.channel) = true
  · have hnothing : given = [] :=
      h.unmatched (isActive_iff.1 (Bool.and_eq_true_iff.1 hmatched).1).2
    rw [Course.cancel, if_pos hmatched, hnothing]
    exact ⟨fun heq => (by cases heq), fun _ => .inl rfl, fun _ {_} _ => rfl⟩
  · rwa [Course.cancel, if_neg hmatched]

/-- A look at the receiver gives out the reason that it holds. -/
theorem Course.Gives.poll {course : Course} {given : List Error} (h : course.Gives given)
    (id : OperationId) : (course.after id (.poll id)).Gives (given ++
      match course.receiver? with
      | some (.fired reason) => [reason]
      | _ => []) := by
  obtain ⟨live, channel, reason, listening, told⟩ := course
  cases reason with
  | none =>
      have hnothing := h.unmatched rfl
      subst hnothing
      -- the receiver holds no reason, if there is one
      cases listening <;> cases live <;> simpa [Course.after, Course.receiver?] using h
  | some reason =>
      have hafter : (⟨live, channel, some reason, listening, told⟩ : Course).after id (.poll id) =
          ⟨live, channel, some reason, listening, true⟩ := by
        simp [Course.after]
      rw [hafter]
      cases listening with
      | false =>
          have hsilent :
              (⟨live, channel, some reason, false, told⟩ : Course).receiver? = none := rfl
          simp only [hsilent, List.append_nil]
          exact ⟨fun heq => (by cases heq), h.matched, fun heq => (by cases heq)⟩
      | true =>
          have hgiven := h.listening rfl rfl
          cases told with
          | false =>
              obtain rfl : given = [] := hgiven
              exact ⟨fun heq => (by cases heq), fun heq => .inr (by cases heq; rfl),
                fun _ {_} heq => by cases heq; rfl⟩
          | true =>
              obtain rfl : given = [reason.clone] := hgiven
              exact ⟨fun heq => (by cases heq), fun heq => .inr (by cases heq; rfl),
                fun _ {_} heq => by cases heq; rfl⟩

/-- What else is done gives out nothing. -/
theorem Course.Gives.after {course : Course} {given : List Error} (h : course.Gives given)
    {use : Use} (hpoll : use ≠ .poll id) : (course.after id use).Gives given := by
  cases use with
  | cancelAll reason => exact h.cancel (fun _ => true) reason
  | cancelChannel channel reason => exact h.cancel (fun known => known = some channel) reason
  | register | stop => exact h
  | poll operation =>
      have hne : operation ≠ id := fun heq => hpoll (heq ▸ rfl)
      rwa [(Course.after_other hne course).2.2.2]
  | bind | dropTicket =>
      simp only [Course.after]
      split <;> exact ⟨h.unmatched, h.matched, h.listening⟩
  | dropReceiver =>
      simp only [Course.after]
      split
      · exact ⟨h.unmatched, h.matched, fun heq => (by cases heq)⟩
      · exact h

/-- A look shows what a receiver holds. -/
theorem pollReceiver_fst (tracker : Tracker) (id : OperationId) :
    (tracker.pollReceiver id).1 = tracker.receiver? id := by
  unfold pollReceiver
  split
  next reason hfired => exact hfired.symm
  next => rfl

/-- What the receiver of an operation has given out, or nothing if the operation was not
admitted. -/
theorem given_spec (id : OperationId) (history : List (Use × Order)) :
    match course? (history.map Prod.fst) id with
    | some course => course.Gives (given id history)
    | none => given id history = [] := by
  induction history using List.reverseRecOn with
  | nil => rfl
  | append_singleton history last ih =>
      have hreceiver := (records_ofHistory history).receiver id
      rw [given, collect_snoc]
      show match course? ((history ++ [last]).map Prod.fst) id with
        | some course =>
          course.Gives (given id history ++ (givenIn id (ofHistory history) last).toList)
        | none => given id history ++ (givenIn id (ofHistory history) last).toList = []
      rw [List.map_append, List.map_singleton, course?_snoc]
      generalize history.map Prod.fst = uses at ih hreceiver ⊢
      obtain ⟨use, order⟩ := last
      -- only a look at the receiver of the operation itself gives a reason out
      by_cases hpoll : use = .poll id
      · subst hpoll
        have hgiven : (givenIn id (ofHistory history) (.poll id, order)).toList =
            match (course? uses id).bind Course.receiver? with
            | some (.fired reason) => [reason]
            | _ => [] := by
          simp only [givenIn, pollReceiver_fst, hreceiver, if_true]
          cases (course? uses id).bind Course.receiver? with
          | none => rfl
          | some shown => cases shown <;> simp
        rw [hgiven]
        cases hcourse : course? uses id with
        | none =>
            rw [hcourse] at ih
            simp [ih]
        | some course =>
            rw [hcourse] at ih
            exact Course.Gives.poll ih id
      · have hnothing : givenIn id (ofHistory history) (use, order) = none := if_neg hpoll
        rw [hnothing, Option.toList_none, List.append_nil]
        cases hcourse : course? uses id with
        | none =>
            rw [hcourse] at ih
            dsimp only at ih ⊢
            split
            next hnew =>
              split at hnew
              · cases hnew
                exact ih ▸ Course.gives_begun
              · cases hnew
            next => exact ih
        | some course =>
            rw [hcourse] at ih
            exact Course.Gives.after ih hpoll

/-- An operation that can be cancelled could be cancelled before. -/
theorem Course.isActive_of_after {course : Course} {use : Use}
    (h : (course.after id use).isActive = true) : course.isActive = true := by
  cases use with
  | cancelAll | cancelChannel =>
      simp only [Course.after, Course.isActive_cancel, Bool.and_eq_true] at h
      exact h.1
  | bind operation channel => rwa [(course.after_bind id operation channel).2.1] at h
  | register | stop => exact h
  | dropTicket =>
      simp only [Course.after] at h
      split at h
      · cases h
      · exact h
  | dropReceiver | poll =>
      simp only [Course.after] at h
      split at h <;> exact h

/-- An operation that can be cancelled has the channel that it was last bound to. -/
theorem Course.channel_foldl {later : List Use}
    (h : (later.foldl (Course.after id) begun).isActive = true) :
    (later.foldl (Course.after id) begun).channel =
      (later.filterMap (Use.binds? id)).getLast? := by
  induction later using List.reverseRecOn with
  | nil => rfl
  | append_singleton later last ih =>
      rw [List.foldl_append] at h ⊢
      have hbefore := isActive_of_after h
      have hchannel := ih hbefore
      generalize later.foldl (Course.after id) begun = course at h hbefore hchannel ⊢
      rw [List.filterMap_append, List.getLast?_append, ← hchannel]
      show (course.after id last).channel = _
      cases last with
      | bind operation channel =>
          rw [Course.channel_bind hbefore]
          by_cases hid : operation = id <;> simp [Use.binds?, hid]
      | cancelAll | cancelChannel => simp [Course.after, Use.binds?]
      | register | stop => simp [Course.after, Use.binds?]
      | _ =>
          simp only [Course.after]
          split <;> simp [Use.binds?]

/-- A receiver is there until it is dropped. -/
theorem Course.listening_after (id : OperationId) (course : Course) (use : Use) :
    (course.after id use).listening =
      (course.listening && decide (use ≠ .dropReceiver id)) := by
  cases use with
  | cancelAll | cancelChannel =>
      simp only [Course.after, Course.cancel]
      split <;> simp
  | dropReceiver operation => by_cases hid : operation = id <;> simp [Course.after, hid]
  | register | stop => simp [Course.after]
  | bind | dropTicket | poll =>
      simp only [Course.after]
      split <;> simp

theorem isDeaf_eq {course : Course} (h : course? uses id = some course) :
    isDeaf uses id = !course.listening := by
  obtain ⟨later, hlater, rfl⟩ := Option.map_eq_some_iff.1 h
  simp [isDeaf, hlater, Course.flag_foldl (Course.listening_after id), Course.begun]

theorem lastChannel?_eq {course : Course} (h : course? uses id = some course)
    (hactive : course.isActive = true) : lastChannel? uses id = course.channel := by
  obtain ⟨later, hlater, rfl⟩ := Option.map_eq_some_iff.1 h
  simp [lastChannel?, hlater, Course.channel_foldl hactive]

/-- An operation that is never bound has no channel. -/
theorem lastChannel?_eq_none (h : ∀ channel, .bind id channel ∉ uses) :
    lastChannel? uses id = none := by
  unfold lastChannel?
  cases hlater : since? id uses with
  | none => rfl
  | some later =>
      have hnone : later.filterMap (Use.binds? id) = [] := by
        refine List.filterMap_eq_nil_iff.2 fun use huse => ?_
        cases use with
        | bind operation channel =>
            have hmem := (sublist_of_since? hlater).subset huse
            refine if_neg fun hid => ?_
            rw [hid] at hmem
            exact h channel hmem
        | _ => rfl
      rw [Option.bind_some, hnone]
      rfl

/-! ## Exactly once -/

/-- What a cancellation has done after a history. -/
structure Cancels (history : List (Use × Order)) (concerns : Option ChannelId → Bool)
    (reason : Error) (done : Cancellation) : Prop where
  /-- No operation is counted twice. -/
  nodup : done.matched.Nodup
  /-- The operations matched are those with a live ticket that no cancellation has matched before
  and whose last channel is concerned. -/
  matched : ∀ id, id ∈ done.matched ↔ isLive (history.map Prod.fst) id = true ∧
    reasons id history = [] ∧ concerns (lastChannel? (history.map Prod.fst) id) = true
  /-- They are told the reason, unless they have dropped their receivers. -/
  told : ∀ id ∈ done.matched, isDeaf (history.map Prod.fst) id = false →
    (ofHistory history).receiver? id = some .waiting ∧
      done.after.receiver? id = some (.fired reason.clone)
  /-- Only the reasons for those that have dropped their receivers go astray. -/
  undelivered : ∀ id, id ∈ done.undelivered ↔
    id ∈ done.matched ∧ isDeaf (history.map Prod.fst) id = true
  /-- The operations that are not matched are left as they were. -/
  others : ∀ id, id ∉ done.matched → done.after.receiver? id = (ofHistory history).receiver? id ∧
    ∀ channel, ⟨id, channel⟩ ∈ done.after.active ↔ ⟨id, channel⟩ ∈ (ofHistory history).active
  /-- No ticket is touched. -/
  tickets : done.after.tickets = (ofHistory history).tickets ∧
    done.after.count = (ofHistory history).count

/-- What an operation has received in a history. -/
structure Receives (history : List (Use × Order)) (id : OperationId) : Prop where
  /-- One cancellation at most has matched it. -/
  once : (reasons id history).length ≤ 1
  /-- Its receiver has given out nothing, or the reason of that one and nothing else. -/
  delivered : given id history = [] ∨
    ∃ reason, reasons id history = [reason] ∧ given id history = [reason.clone]
  /-- A reason that its receiver holds is that one, and has not been given out. -/
  pending : ∀ e, (ofHistory history).receiver? id = some (.fired e) →
    given id history = [] ∧ ∃ reason, reasons id history = [reason] ∧ e = reason.clone
  /-- While its ticket is alive, its receiver is closed only after it has given out the reason. -/
  closed : isLive (history.map Prod.fst) id = true →
    (ofHistory history).receiver? id = some .closed →
      ∃ reason, reasons id history = [reason] ∧ given id history = [reason.clone]

/-- The operations that can be cancelled are those that are alive and that no cancellation of the
history has matched. -/
theorem isActive_iff_reasons (id : OperationId) (history : List (Use × Order)) :
    (∃ course, course? (history.map Prod.fst) id = some course ∧ course.isActive = true ∧
        concerns course.channel = true) ↔
      isLive (history.map Prod.fst) id = true ∧ reasons id history = [] ∧
        concerns (lastChannel? (history.map Prod.fst) id) = true := by
  rw [isLive_iff, reasons_eq]
  constructor
  · rintro ⟨course, hcourse, hactive, hconcerns⟩
    obtain ⟨hlive, hnone⟩ := Course.isActive_iff.1 hactive
    refine ⟨⟨course, hcourse, hlive⟩, by simp [hcourse, hnone], ?_⟩
    rwa [lastChannel?_eq hcourse hactive]
  · rintro ⟨⟨course, hcourse, hlive⟩, hnone, hconcerns⟩
    have hactive : course.isActive = true :=
      Course.isActive_iff.2 ⟨hlive, by simpa [hcourse] using hnone⟩
    rw [lastChannel?_eq hcourse hactive] at hconcerns
    exact ⟨course, hcourse, hactive, hconcerns⟩

/-- Whatever the order of its walk, a cancellation reaches exactly the operations that it is for. -/
theorem cancels (history : List (Use × Order)) (order : Order)
    (concerns : Option ChannelId → Bool) (reason : Error) :
    Cancels history concerns reason ((ofHistory history).cancelIn order concerns reason) := by
  have h := records_ofHistory history
  obtain ⟨⟨hperm, -, hafter⟩, hundelivered⟩ := cancelIn_eq h.unique order concerns reason
  have hmatched := h.mem_matched order concerns reason
  have hlookup := receiver?_cancelWhere (ofHistory history)
    (fun operation => concerns operation.channel) reason
  have hfields := cancelWhere_eq (ofHistory history)
    (fun operation => concerns operation.channel) reason
  rw [← hafter] at hlookup hfields
  have hnodup := hperm.symm.nodup (h.unique.sublist (List.filter_sublist.map _))
  have hentry : ∀ id, (∃ operation ∈ (ofHistory history).active,
      concerns operation.channel = true ∧ operation.id = id) ↔
        id ∈ ((ofHistory history).cancelIn order concerns reason).matched := by
    intro id
    rw [hperm.mem_iff]
    simp only [cancelWhere, List.mem_map, List.mem_filter, and_assoc]
  simp only [hentry] at hlookup
  generalize (ofHistory history).cancelIn order concerns reason = done at *
  have hactives : done.after.active =
      (ofHistory history).active.filter fun operation => !concerns operation.channel := by
    rw [hfields]
  -- a receiver waits for a cancellation or was dropped
  have hshown : ∀ {id}, id ∈ done.matched → (ofHistory history).receiver? id =
      if isDeaf (history.map Prod.fst) id then none else some .waiting := by
    intro id hid
    obtain ⟨course, hcourse, hactive, -⟩ := (hmatched id).1 hid
    obtain ⟨hlive, hnone⟩ := Course.isActive_iff.1 hactive
    rw [h.receiver, hcourse, isDeaf_eq hcourse]
    cases hlistening : course.listening <;> simp [Course.receiver?, hlistening, hnone, hlive]
  exact
    { nodup := hnodup
      matched := fun id => (hmatched id).trans (isActive_iff_reasons id history)
      told := fun id hid hdeaf => by
        have hwaiting : (ofHistory history).receiver? id = some .waiting := by
          rw [hshown hid, hdeaf]
          rfl
        rw [hlookup, if_pos ⟨hid, hwaiting⟩]
        exact ⟨hwaiting, rfl⟩
      undelivered := fun id => by
        rw [hundelivered, List.mem_filter]
        refine and_congr_right fun hid => ?_
        rw [hshown hid]
        cases isDeaf (history.map Prod.fst) id <;> simp
      others := fun id hid => by
        refine ⟨by rw [hlookup, if_neg fun hboth => hid hboth.1], fun channel => ?_⟩
        rw [hactives, List.mem_filter]
        refine and_iff_left_of_imp fun hmem => ?_
        have hspared := fun hconcerns => hid ((hentry id).1 ⟨_, hmem, hconcerns, rfl⟩)
        simpa using hspared
      tickets := by
        rw [hfields]
        exact ⟨rfl, rfl⟩ }

/-- An operation receives the reason of the one cancellation that matches it, once. -/
theorem receives (history : List (Use × Order)) (id : OperationId) : Receives history id := by
  have hreasons := reasons_eq id history
  have hspec := given_spec id history
  have hreceiver := (records_ofHistory history).receiver id
  have hlive := isLive_iff (history.map Prod.fst) id
  cases hcourse : course? (history.map Prod.fst) id with
  | none =>
      rw [hcourse] at hreasons hspec hreceiver
      exact
        { once := by simp [hreasons]
          delivered := .inl hspec
          pending := fun e he => by cases hreceiver.symm.trans he
          closed := fun _ hclosed => by cases hreceiver.symm.trans hclosed }
  | some course =>
      rw [hcourse] at hreasons hspec hreceiver hlive
      rw [Option.bind_some] at hreasons hreceiver
      have hspec : course.Gives (given id history) := hspec
      have hlive : isLive (history.map Prod.fst) id = true ↔ course.live = true :=
        hlive.trans ⟨fun ⟨_, heq, hlive⟩ => by cases heq; exact hlive, fun h => ⟨_, rfl, h⟩⟩
      cases hreason : course.reason with
      | none =>
          -- no cancellation has matched the operation
          rw [hreason] at hreasons
          have hshown : course.receiver? =
              if course.listening then some (if course.live then .waiting else .closed)
              else none := by
            simp [Course.receiver?, hreason]
          rw [hshown] at hreceiver
          exact
            { once := by simp [hreasons]
              delivered := .inl (hspec.unmatched hreason)
              pending := fun e he => by
                rw [hreceiver] at he
                cases heard : course.listening <;> cases hticket : course.live <;>
                  rw [heard, hticket] at he <;> cases he
              closed := fun hid hclosed => by
                rw [hreceiver, hlive.1 hid] at hclosed
                cases heard : course.listening <;> rw [heard] at hclosed <;> cases hclosed }
      | some reason =>
          rw [hreason] at hreasons
          have hshown : course.receiver? =
              if course.listening then some (if course.told then .closed else .fired reason.clone)
              else none := by
            simp [Course.receiver?, hreason]
          rw [hshown] at hreceiver
          have hlistening := fun heq => hspec.listening heq hreason
          exact
            { once := by simp [hreasons]
              delivered := (hspec.matched hreason).imp_right fun hgiven =>
                ⟨reason, hreasons, hgiven⟩
              pending := fun e he => by
                rw [hreceiver] at he
                cases heard : course.listening <;> cases htold : course.told <;>
                  rw [heard, htold] at he <;> cases he
                refine ⟨?_, reason, hreasons, rfl⟩
                rw [hlistening heard, htold]
                rfl
              closed := fun _ hclosed => by
                rw [hreceiver] at hclosed
                cases heard : course.listening <;> cases htold : course.told <;>
                  rw [heard, htold] at hclosed <;> cases hclosed
                refine ⟨reason, hreasons, ?_⟩
                rw [hlistening heard, htold]
                rfl }

/-- What holds of the cancellations of a record after a history, whatever the orders of the
walks. -/
structure Delivers (history : List (Use × Order)) : Prop where
  /-- A cancellation reaches exactly the operations that it is for. -/
  cancels : ∀ order concerns reason,
    Cancels history concerns reason ((ofHistory history).cancelIn order concerns reason)
  /-- An operation receives the reason of the one cancellation that matches it, once. -/
  receives : ∀ id, Receives history id
  /-- No cancellation of the operations on a channel matches an operation that was never bound. -/
  unbound : ∀ {id}, (∀ channel, .bind id channel ∉ history.map Prod.fst) → ∀ order channel reason,
    id ∉ ((ofHistory history).cancelIn order (fun known => known = some channel) reason).matched
  /-- To cancel all operations is to cancel those on any channel or none. -/
  all : ∀ order reason, ((ofHistory history).cancelIn order (fun _ => true) reason).Agrees
    ((ofHistory history).cancelAll reason)
  /-- To cancel the operations on a channel is to cancel those on that channel. -/
  channel : ∀ order channel reason,
    ((ofHistory history).cancelIn order (fun known => known = some channel) reason).Agrees
      ((ofHistory history).cancelChannel channel reason)

theorem delivers (history : List (Use × Order)) : Delivers history where
  cancels := cancels history
  receives := receives history
  unbound {id} hunbound order channel reason hid := by
    have hconcerned := (((cancels history order _ reason).matched id).1 hid).2.2
    rw [lastChannel?_eq_none hunbound] at hconcerned
    cases hconcerned
  all order reason := (cancelIn_eq (records_ofHistory history).unique order _ reason).1
  channel order channel reason := (cancelIn_eq (records_ofHistory history).unique order _ reason).1

end Histories

end Remoting.Tracker
