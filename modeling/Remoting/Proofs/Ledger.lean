import Remoting.Proofs.Courses

/-!
# Records of operations under any use

`Records` says that a record of operations agrees with the courses of all operations. Every use
keeps this, so it holds after every list of uses. The main statement is `bookkeeping`: the number
that waiters see counts the tickets that are alive, while the list of active operations also leaves
out those that were cancelled.
-/

namespace Remoting.Tracker

variable {uses : List Use} {last : Use} {tracker : Tracker} {id : OperationId}

/-- A record agrees with what was done to it. -/
structure Records (uses : List Use) (tracker : Tracker) : Prop where
  nextId : tracker.nextId = uses.count .register + 1
  accepting : tracker.accepting = true ↔ .stop ∉ uses
  count : tracker.count = tracker.tickets.length
  nodup : tracker.tickets.Nodup
  ticket : ∀ id, id ∈ tracker.tickets ↔ ∃ course, course? uses id = some course ∧ course.live = true
  unique : (tracker.active.map ActiveOperation.id).Nodup
  active : ∀ id channel, ⟨id, channel⟩ ∈ tracker.active ↔
    ∃ course, course? uses id = some course ∧ course.isActive = true ∧ course.channel = channel
  receiver : ∀ id, tracker.receiver? id = (course? uses id).bind Course.receiver?

theorem records_empty : Records [] empty where
  nextId := rfl
  accepting := by simp [empty]
  count := rfl
  nodup := .nil
  ticket _ := ⟨nofun, fun ⟨_, hcourse, _⟩ => by cases hcourse⟩
  unique := .nil
  active _ _ := ⟨nofun, fun ⟨_, hcourse, _⟩ => by cases hcourse⟩
  receiver _ := rfl

/-- A call that is refused leaves all courses as they are. -/
theorem Records.refuse (h : Records uses tracker) (hstop : .stop ∈ uses) :
    Records (uses ++ [.register]) { tracker with nextId := tracker.nextId + 1 } where
  nextId := by simp [h.nextId]
  accepting := by simp [h.accepting, hstop]
  count := h.count
  nodup := h.nodup
  ticket id := by
    rw [course?_refused hstop]
    exact h.ticket id
  unique := h.unique
  active id channel := by
    rw [course?_refused hstop]
    exact h.active id channel
  receiver id := by
    rw [course?_refused hstop]
    exact h.receiver id

/-- The next number has not been given. -/
theorem Records.fresh (h : Records uses tracker) : tracker.nextId ∉ tracker.tickets ∧
    tracker.nextId ∉ tracker.active.map ActiveOperation.id ∧
      tracker.receivers.lookup tracker.nextId = none := by
  have hnext := course?_next uses
  rw [← h.nextId] at hnext
  refine ⟨fun hid => ?_, fun hid => ?_, ?_⟩
  · obtain ⟨course, hcourse, -⟩ := (h.ticket _).1 hid
    cases hnext.symm.trans hcourse
  · obtain ⟨⟨_, channel⟩, hmem, rfl⟩ := List.mem_map.1 hid
    obtain ⟨course, hcourse, -⟩ := (h.active _ _).1 hmem
    cases hnext.symm.trans hcourse
  · have hreceiver := h.receiver tracker.nextId
    rwa [hnext] at hreceiver

theorem Records.accept (h : Records uses tracker) (hstop : .stop ∉ uses) :
    Records (uses ++ [.register])
      { tracker with
        nextId := tracker.nextId + 1
        active := tracker.active ++ [⟨tracker.nextId, none⟩]
        count := tracker.count + 1
        tickets := tracker.tickets ++ [tracker.nextId]
        receivers := tracker.receivers ++ [(tracker.nextId, .waiting)] } := by
  obtain ⟨hticket, hactive, hreceiver⟩ := h.fresh
  -- the number is new: every other operation keeps its course
  have hcourse := fun id => course?_register hstop id
  simp only [← h.nextId] at hcourse
  refine ⟨by simp [h.nextId], by simp [h.accepting, hstop], by simp [h.count], ?_, fun id => ?_, ?_,
    fun id channel => ?_, fun id => ?_⟩
  · exact List.nodup_append.2 ⟨h.nodup, List.nodup_singleton _, by
      rintro id hid _ hnew rfl
      exact hticket (List.mem_singleton.1 hnew ▸ hid)⟩
  · rw [List.mem_append, List.mem_singleton, hcourse]
    by_cases hid : id = tracker.nextId
    · simp [hid, Course.begun]
    · simpa [hid] using h.ticket id
  · rw [List.map_append, List.map_singleton]
    exact List.nodup_append.2 ⟨h.unique, List.nodup_singleton _, by
      rintro id hid _ hnew rfl
      obtain rfl : id = tracker.nextId := List.mem_singleton.1 hnew
      exact hactive hid⟩
  · rw [List.mem_append, List.mem_singleton, hcourse]
    by_cases hid : id = tracker.nextId
    · subst hid
      have hold : (⟨tracker.nextId, channel⟩ : ActiveOperation) ∉ tracker.active :=
        fun hmem => hactive (List.mem_map_of_mem hmem)
      simpa [hold, Course.begun, Course.isActive] using eq_comm
    · simpa [hid] using h.active id channel
  · show (tracker.receivers ++ [(tracker.nextId, Receiver.waiting)]).lookup id = _
    rw [List.lookup_append, hcourse]
    by_cases hid : id = tracker.nextId
    · subst hid
      rw [hreceiver, if_pos rfl]
      simp [Course.begun, Course.receiver?]
    · have hlookup : tracker.receivers.lookup id = _ := h.receiver id
      simp [hid, hlookup, List.lookup_cons, show (id == tracker.nextId) = false by simpa using hid]

/-- A use that neither registers an operation nor stops goes on with the courses that there are. -/
theorem Records.snoc (h : Records uses tracker) {next : Tracker} (hlast : last ≠ .register)
    (hstop : last ≠ .stop) (nextId : next.nextId = tracker.nextId)
    (accepting : next.accepting = tracker.accepting) (count : next.count = next.tickets.length)
    (nodup : next.tickets.Nodup) (unique : (next.active.map ActiveOperation.id).Nodup)
    (ticket : ∀ id, id ∈ next.tickets ↔
      ∃ course, course? uses id = some course ∧ (course.after id last).live = true)
    (active : ∀ id channel, ⟨id, channel⟩ ∈ next.active ↔
      ∃ course, course? uses id = some course ∧ (course.after id last).isActive = true ∧
        (course.after id last).channel = channel)
    (receiver : ∀ id, next.receiver? id =
      (course? uses id).bind fun course => (course.after id last).receiver?) :
    Records (uses ++ [last]) next where
  nextId := by simp [nextId, h.nextId, List.count_append, hlast]
  accepting := by simp [accepting, h.accepting, Ne.symm hstop]
  count := count
  nodup := nodup
  ticket id := by simpa [course?_of_ne hlast] using ticket id
  unique := unique
  active id channel := by simpa [course?_of_ne hlast] using active id channel
  receiver id := by
    rw [receiver, course?_of_ne hlast, Option.bind_map]
    rfl

theorem mem_active_bind {operation : OperationId} {channel : ChannelId} {known : Option ChannelId} :
    ⟨id, known⟩ ∈ (tracker.bind operation channel).active ↔ ∃ old, ⟨id, old⟩ ∈ tracker.active ∧
      (if operation = id then some channel else old) = known := by
  simp only [bind, List.mem_map]
  constructor
  · rintro ⟨⟨id', old⟩, hmem, heq⟩
    by_cases hid : id' = operation
    · rw [if_pos hid] at heq
      cases heq
      exact ⟨_, hmem, if_pos hid.symm⟩
    · rw [if_neg hid] at heq
      cases heq
      exact ⟨_, hmem, if_neg (Ne.symm hid)⟩
  · rintro ⟨old, hmem, rfl⟩
    refine ⟨_, hmem, ?_⟩
    by_cases hid : operation = id
    · simp [hid]
    · simp [hid, Ne.symm hid]

theorem Records.bind (h : Records uses tracker) (operation : OperationId) (channel : ChannelId) :
    Records (uses ++ [.bind operation channel]) (tracker.bind operation channel) := by
  have hsame := fun (id : OperationId) (course : Course) =>
    course.after_bind id operation channel
  refine h.snoc nofun nofun rfl rfl h.count h.nodup ?_ (fun id => ?_) (fun id known => ?_)
    (fun id => ?_)
  · have hmap : (tracker.bind operation channel).active.map ActiveOperation.id =
        tracker.active.map ActiveOperation.id := by
      simp only [Tracker.bind, List.map_map]
      refine List.map_congr_left fun op _ => ?_
      simp only [Function.comp]
      split <;> rfl
    exact hmap ▸ h.unique
  · simp only [(hsame id _).1]
    exact h.ticket id
  · rw [mem_active_bind]
    simp only [(hsame id _).2.1, h.active]
    constructor
    · rintro ⟨_, ⟨course, hcourse, hactive, rfl⟩, rfl⟩
      exact ⟨course, hcourse, hactive, Course.channel_bind hactive id operation channel⟩
    · rintro ⟨course, hcourse, hactive, rfl⟩
      exact ⟨_, ⟨course, hcourse, hactive, rfl⟩,
        (Course.channel_bind hactive id operation channel).symm⟩
  · simp only [(hsame id _).2.2]
    exact h.receiver id

theorem Records.cancel (h : Records uses tracker) (concerns : Option ChannelId → Bool)
    (reason : Error) (hlast : last ≠ .register) (hstop : last ≠ .stop)
    (hafter : ∀ id (course : Course), course.after id last = course.cancel concerns reason) :
    Records (uses ++ [last])
      (tracker.cancelWhere (fun operation => concerns operation.channel) reason).after := by
  have hlookup := receiver?_cancelWhere tracker (fun operation => concerns operation.channel) reason
  have hfields := cancelWhere_eq tracker (fun operation => concerns operation.channel) reason
  generalize (tracker.cancelWhere _ reason).after = next at hlookup hfields ⊢
  have htickets : next.tickets = tracker.tickets := by rw [hfields]
  have hactives : next.active = tracker.active.filter fun operation =>
      !concerns operation.channel := by
    rw [hfields]
  refine h.snoc hlast hstop (by rw [hfields]) (by rw [hfields]) ?_ (htickets ▸ h.nodup) ?_
    (fun id => ?_) (fun id known => ?_) (fun id => ?_)
  · rw [htickets, ← h.count, hfields]
  · exact hactives ▸ h.unique.sublist (List.filter_sublist.map _)
  · simp only [htickets, hafter, Course.live_cancel]
    exact h.ticket id
  · simp only [hactives, List.mem_filter, h.active, hafter, Course.isActive_cancel,
      Course.channel_cancel, Bool.and_eq_true]
    constructor
    · rintro ⟨⟨course, hcourse, hactive, rfl⟩, hspared⟩
      exact ⟨course, hcourse, ⟨hactive, hspared⟩, rfl⟩
    · rintro ⟨course, hcourse, ⟨hactive, hspared⟩, rfl⟩
      exact ⟨⟨course, hcourse, hactive, rfl⟩, hspared⟩
  · have hmatched : (∃ operation ∈ tracker.active, concerns operation.channel = true ∧
        operation.id = id) ↔ ∃ course, course? uses id = some course ∧
          course.isActive = true ∧ concerns course.channel = true := by
      constructor
      · rintro ⟨⟨_, channel⟩, hmem, hconcerns, rfl⟩
        obtain ⟨course, hcourse, hactive, rfl⟩ := (h.active _ _).1 hmem
        exact ⟨course, hcourse, hactive, hconcerns⟩
      · rintro ⟨course, hcourse, hactive, hconcerns⟩
        exact ⟨_, (h.active _ _).2 ⟨course, hcourse, hactive, rfl⟩, hconcerns, rfl⟩
    simp only [hafter, Course.receiver?_cancel, hlookup, hmatched, h.receiver]
    cases course? uses id <;> simp

theorem receiver?_endTicket (tracker : Tracker) (operation other : OperationId) :
    (tracker.dropTicket operation).receiver? other =
      if other = operation ∧ operation ∈ tracker.tickets ∧
          tracker.receiver? operation = some .waiting then some .closed
      else tracker.receiver? other := by
  by_cases hticket : operation ∈ tracker.tickets
  · simp only [dropTicket, List.contains_iff_mem, hticket, if_true, true_and]
    split
    next hwaiting =>
      rw [receiver?_setReceiver]
      show (if other = operation then (tracker.receiver? operation).map _ else
        tracker.receiver? other) = _
      by_cases hother : other = operation <;> simp [hother, hwaiting]
    next hnot => rw [if_neg fun hboth => hnot hboth.2]; rfl
  · simp [dropTicket, hticket]

theorem dropTicket_eq (hticket : id ∈ tracker.tickets) : tracker.dropTicket id =
    { tracker with
      active := tracker.active.filter (·.id ≠ id)
      count := tracker.count - 1
      tickets := tracker.tickets.erase id
      receivers := (tracker.dropTicket id).receivers } := by
  simp only [dropTicket, List.contains_iff_mem, hticket, if_true]
  split <;> rfl

theorem Records.dropTicket (h : Records uses tracker) (operation : OperationId) :
    Records (uses ++ [.dropTicket operation]) (tracker.dropTicket operation) := by
  have hlookup := receiver?_endTicket tracker operation
  have hother : ∀ {id}, id ≠ operation → ∀ course : Course,
      course.after id (.dropTicket operation) = course :=
    fun hne course => (Course.after_other (Ne.symm hne) course).2.1
  by_cases hticket : operation ∈ tracker.tickets
  · have hfields := dropTicket_eq hticket
    generalize tracker.dropTicket operation = next at hlookup hfields ⊢
    have htickets : next.tickets = tracker.tickets.erase operation := by rw [hfields]
    have hactives : next.active = tracker.active.filter (·.id ≠ operation) := by rw [hfields]
    refine h.snoc nofun nofun (by rw [hfields]) (by rw [hfields]) ?_ (htickets ▸ h.nodup.erase _)
      ?_ (fun id => ?_) (fun id channel => ?_) (fun id => ?_)
    · rw [htickets, List.length_erase_of_mem hticket, ← h.count, hfields]
    · exact hactives ▸ h.unique.sublist (List.filter_sublist.map _)
    · rw [htickets, h.nodup.mem_erase_iff, h.ticket]
      by_cases hid : id = operation
      · simp [hid, Course.after]
      · simp [hid, hother hid]
    · rw [hactives, List.mem_filter, h.active]
      by_cases hid : id = operation
      · simp [hid, Course.after, Course.isActive]
      · simp [hid, hother hid]
    · rw [hlookup]
      by_cases hid : id = operation
      · subst hid
        simp only [hticket, true_and, h.receiver, Course.receiver?_dropTicket]
        cases course? uses id <;> simp
      · simp only [hid, false_and, if_false, hother hid]
        exact h.receiver id
  · -- the ticket was dropped before, or the operation was never admitted
    have hsame : tracker.dropTicket operation = tracker := by simp [Tracker.dropTicket, hticket]
    have hcourse : ∀ {id course}, course? uses id = some course →
        course.after id (.dropTicket operation) = course := by
      intro id course hcourse
      by_cases hid : id = operation
      · subst hid
        have hdead : course.live = false :=
          Bool.eq_false_iff.2 fun hlive => hticket ((h.ticket _).2 ⟨course, hcourse, hlive⟩)
        obtain ⟨live, channel, reason, listening, told⟩ := course
        simp only at hdead
        simp [Course.after, hdead]
      · exact hother hid course
    rw [hsame]
    refine h.snoc nofun nofun rfl rfl h.count h.nodup h.unique (fun id => ?_) (fun id channel => ?_)
      (fun id => ?_)
    · rw [h.ticket]
      refine exists_congr fun course => and_congr_right fun heq => ?_
      rw [hcourse heq]
    · rw [h.active]
      refine exists_congr fun course => and_congr_right fun heq => ?_
      rw [hcourse heq]
    · rw [h.receiver]
      exact Option.bind_congr fun course heq => by rw [hcourse heq]

/-- A use that only concerns receivers. -/
theorem Records.listen (h : Records uses tracker) {receivers : List (OperationId × Receiver)}
    (hlast : last ≠ .register) (hstop : last ≠ .stop)
    (hsame : ∀ (id : OperationId) (course : Course), (course.after id last).live = course.live ∧
      (course.after id last).isActive = course.isActive ∧
        (course.after id last).channel = course.channel)
    (receiver : ∀ id, receivers.lookup id =
      (course? uses id).bind fun course => (course.after id last).receiver?) :
    Records (uses ++ [last]) { tracker with receivers } := by
  refine h.snoc hlast hstop rfl rfl h.count h.nodup h.unique (fun id => ?_) (fun id channel => ?_)
    receiver
  · simp only [(hsame id _).1]
    exact h.ticket id
  · simp only [(hsame id _).2]
    exact h.active id channel

theorem Records.dropReceiver (h : Records uses tracker) (operation : OperationId) :
    Records (uses ++ [.dropReceiver operation]) (tracker.dropReceiver operation) := by
  refine h.listen nofun nofun (fun id course => ?_) fun id => ?_
  · simp only [Course.after]
    split <;> exact ⟨rfl, rfl, rfl⟩
  · refine (receiver?_dropReceiver tracker operation id).trans ?_
    by_cases hid : id = operation
    · subst hid
      simp [Course.receiver?_dropReceiver]
    · simp only [hid, if_false, (Course.after_other (Ne.symm hid) _).2.2.1]
      exact h.receiver id

/-- A look at a receiver takes a reason out of it. -/
theorem receiver?_pollReceiver (tracker : Tracker) (operation other : OperationId) :
    (tracker.pollReceiver operation).2.receiver? other =
      if other = operation then
        (tracker.receiver? operation).map fun shown =>
          if shown = .waiting then .waiting else .closed
      else tracker.receiver? other := by
  unfold pollReceiver
  split
  next reason hfired =>
    rw [receiver?_setReceiver]
    by_cases hother : other = operation <;> simp [hother, hfired]
  next hnot =>
    by_cases hother : other = operation
    · subst hother
      rw [if_pos rfl]
      cases hshown : tracker.receiver? other with
      | none => rfl
      | some shown =>
          cases shown with
          | fired reason => exact absurd hshown (hnot reason)
          | waiting | closed => rfl
    · rw [if_neg hother]

/-- A look at a receiver changes nothing but the receiver. -/
theorem pollReceiver_eq (tracker : Tracker) (operation : OperationId) :
    (tracker.pollReceiver operation).2 =
      { tracker with receivers := (tracker.pollReceiver operation).2.receivers } := by
  unfold pollReceiver
  split <;> rfl

theorem Records.poll (h : Records uses tracker) (operation : OperationId) :
    Records (uses ++ [.poll operation]) (tracker.pollReceiver operation).2 := by
  have hlookup := receiver?_pollReceiver tracker operation
  rw [pollReceiver_eq]
  refine h.listen nofun nofun (fun id course => ?_) fun id => (hlookup id).trans ?_
  · simp only [Course.after]
    split <;> exact ⟨rfl, rfl, rfl⟩
  · by_cases hid : id = operation
    · subst hid
      simp only [if_true, h.receiver, Course.receiver?_poll]
      cases course? uses id <;> rfl
    · simp only [hid, if_false, (Course.after_other (Ne.symm hid) _).2.2.2]
      exact h.receiver id

theorem Records.stop (h : Records uses tracker) : Records (uses ++ [.stop]) tracker.stop := by
  have hcourse : ∀ id, course? (uses ++ [.stop]) id = course? uses id := by
    intro id
    rw [course?_of_ne (by decide)]
    exact Option.map_id'
  have hnextId := h.nextId
  exact
    { nextId := by simpa [Tracker.stop] using hnextId
      accepting := by simp [Tracker.stop]
      count := h.count
      nodup := h.nodup
      ticket := fun id => by
        rw [hcourse]
        exact h.ticket id
      unique := h.unique
      active := fun id channel => by
        rw [hcourse]
        exact h.active id channel
      receiver := fun id => by
        rw [hcourse]
        exact h.receiver id }

/-- Every use keeps the agreement of a record with what was done to it. -/
theorem Records.use (h : Records uses tracker) (last : Use) :
    Records (uses ++ [last]) (tracker.use last) := by
  cases last with
  | register =>
      show Records _ (tracker.after .accept)
      by_cases hstop : .stop ∈ uses
      · have hrefuses : tracker.accepting = false :=
          Bool.eq_false_iff.2 fun heq => h.accepting.1 heq hstop
        rw [accept_eq_of_not_accepting hrefuses]
        exact h.refuse hstop
      · rw [accept_eq (h.accepting.2 hstop)]
        exact h.accept hstop
  | bind operation channel => exact h.bind operation channel
  | stop => exact h.stop
  | cancelAll reason => exact h.cancel (fun _ => true) reason nofun nofun fun _ _ => rfl
  | cancelChannel channel reason =>
      exact h.cancel (fun known => known = some channel) reason nofun nofun fun _ _ => rfl
  | dropTicket operation => exact h.dropTicket operation
  | dropReceiver operation => exact h.dropReceiver operation
  | poll operation => exact h.poll operation

/-- Every list of uses leads to a record that agrees with it. -/
theorem records_ofUses (uses : List Use) : Records uses (ofUses uses) := by
  induction uses using List.reverseRecOn with
  | nil => exact records_empty
  | append_singleton uses last ih =>
      rw [ofUses_snoc]
      exact ih.use last

/-! ## Bookkeeping -/

/-- The numbers that a use hands out. -/
def issues (tracker : Tracker) : Use → List OperationId
  | .register => tracker.register.1.toOption.toList
  | _ => []

/-- The numbers that are handed out while a record is used. -/
def handedOut (tracker : Tracker) : List Use → List OperationId
  | [] => []
  | first :: rest => tracker.issues first ++ (tracker.use first).handedOut rest

theorem handedOut_snoc (tracker : Tracker) (uses : List Use) (last : Use) :
    tracker.handedOut (uses ++ [last]) =
      tracker.handedOut uses ++ (uses.foldl Tracker.use tracker).issues last := by
  induction uses generalizing tracker with
  | nil => simp [handedOut]
  | cons first rest ih => simp [handedOut, ih]

theorem register_fst (tracker : Tracker) : tracker.register.1 =
    if tracker.accepting then .ok tracker.nextId
    else .error (.closed "ManagementChannelHandler") := by
  unfold register
  cases tracker.accepting <;> rfl

/-- The numbers handed out are those of the operations that were admitted. -/
theorem mem_handedOut (uses : List Use) (id : OperationId) :
    id ∈ empty.handedOut uses ↔ ∃ course, course? uses id = some course := by
  induction uses using List.reverseRecOn with
  | nil => exact ⟨nofun, fun ⟨_, hcourse⟩ => by cases hcourse⟩
  | append_singleton uses last ih =>
      have h := records_ofUses uses
      rw [handedOut_snoc, List.mem_append, ih]
      show _ ∨ id ∈ (ofUses uses).issues last ↔ _
      by_cases hlast : last = .register
      · subst hlast
        simp only [issues, register_fst]
        by_cases hstop : .stop ∈ uses
        · rw [if_neg fun haccepting => h.accepting.1 haccepting hstop]
          simp [course?_refused hstop, Except.toOption]
        · rw [if_pos (h.accepting.2 hstop), h.nextId]
          simp only [course?_register hstop]
          by_cases hid : id = uses.count .register + 1 <;> simp [hid, Except.toOption]
      · have hnone : (ofUses uses).issues last = [] := by
          cases last with
          | register => exact absurd rfl hlast
          | _ => rfl
        simp [hnone, course?_of_ne hlast]

theorem handedOut_nodup (uses : List Use) : (empty.handedOut uses).Nodup := by
  induction uses using List.reverseRecOn with
  | nil => exact .nil
  | append_singleton uses last ih =>
      rw [handedOut_snoc]
      refine List.nodup_append.2 ⟨ih, ?_, ?_⟩
      · cases last with
        | register =>
            simp only [issues]
            cases (List.foldl Tracker.use empty uses).register.1.toOption with
            | none => exact .nil
            | some id => exact List.nodup_singleton id
        | _ => exact .nil
      · -- a new number is greater than all numbers before
        rintro id hid _ hnew rfl
        obtain ⟨course, hcourse⟩ := (mem_handedOut uses id).1 hid
        cases last with
        | register =>
            simp only [issues, register_fst] at hnew
            split at hnew
            · obtain rfl : id = (ofUses uses).nextId := by
                simpa [Except.toOption, ofUses] using hnew
              rw [(records_ofUses uses).nextId, course?_next] at hcourse
              cases hcourse
            · cases hnew
        | _ => cases hnew

/-- The operations whose tickets are alive. -/
def liveTickets (uses : List Use) : List OperationId :=
  (empty.handedOut uses).filter (isLive uses)

theorem mem_liveTickets (uses : List Use) (id : OperationId) :
    id ∈ liveTickets uses ↔ id ∈ (ofUses uses).tickets := by
  rw [liveTickets, List.mem_filter, mem_handedOut, isLive_iff, (records_ofUses uses).ticket]
  exact ⟨And.right, fun ⟨course, hcourse, hlive⟩ => ⟨⟨course, hcourse⟩, course, hcourse, hlive⟩⟩

/-- The tickets of a record are those that are alive. -/
theorem tickets_perm (uses : List Use) : (ofUses uses).tickets.Perm (liveTickets uses) :=
  (List.perm_ext_iff_of_nodup (records_ofUses uses).nodup ((handedOut_nodup uses).filter _)).2
    fun id => (mem_liveTickets uses id).symm

/-- Without operations to cancel, a record that admits none goes on without them. -/
theorem use_of_idle (hrefuses : tracker.accepting = false) (hidle : tracker.active = [])
    (next : Use) : (tracker.use next).accepting = false ∧ (tracker.use next).active = [] := by
  cases next with
  | register =>
      show (tracker.after .accept).accepting = false ∧ (tracker.after .accept).active = []
      rw [accept_eq_of_not_accepting hrefuses]
      exact ⟨hrefuses, hidle⟩
  | bind operation channel => exact ⟨hrefuses, by simp [use, bind, hidle]⟩
  | stop => exact ⟨rfl, hidle⟩
  | cancelAll reason =>
      simp only [use, cancelAll]
      rw [cancelWhere_eq]
      exact ⟨hrefuses, by simp [hidle]⟩
  | cancelChannel channel reason =>
      simp only [use, cancelChannel]
      rw [cancelWhere_eq]
      exact ⟨hrefuses, by simp [hidle]⟩
  | dropTicket operation =>
      by_cases hid : operation ∈ tracker.tickets
      · simp only [use]
        rw [dropTicket_eq hid]
        exact ⟨hrefuses, by simp [hidle]⟩
      · simp [use, dropTicket, hid, hrefuses, hidle]
  | dropReceiver operation => exact ⟨hrefuses, hidle⟩
  | poll operation =>
      simp only [use]
      rw [pollReceiver_eq]
      exact ⟨hrefuses, hidle⟩

/-- Once a record admits no operation and has cancelled all, none can be cancelled any more. -/
theorem active_eq_nil {before between later : List Use} {reason : Error}
    (huses : uses = before ++ .stop :: between ++ .cancelAll reason :: later) :
    (ofUses uses).active = [] := by
  suffices h : (ofUses uses).accepting = false ∧ (ofUses uses).active = [] from h.2
  subst huses
  induction later using List.reverseRecOn with
  | nil =>
      rw [ofUses_snoc]
      have hrefuses : (ofUses (before ++ .stop :: between)).accepting = false :=
        Bool.eq_false_iff.2 fun heq => (records_ofUses _).accepting.1 heq (by simp)
      simp only [use, cancelAll]
      rw [cancelWhere_eq]
      exact ⟨hrefuses, by simp⟩
  | append_singleton later last ih =>
      rw [← List.cons_append, ← List.append_assoc, ofUses_snoc]
      exact use_of_idle ih.1 ih.2 last

/-- After every list of uses the number that waiters see is the number of tickets that are alive, so
that no end of an operation takes it below zero. The operations that can be cancelled are those with
a ticket that no cancellation has matched, each with the channel that it was last bound to. Numbers
are given once, operations are admitted until the record is stopped, and a call that is refused
changes nothing that matters. -/
theorem bookkeeping (uses : List Use) :
    (ofUses uses).count = (liveTickets uses).length ∧
    (∀ id ∈ liveTickets uses, ((ofUses uses).dropTicket id).count + 1 = (ofUses uses).count) ∧
    ((ofUses uses).count = 0 ↔ ∀ id ∈ empty.handedOut uses,
      ∃ later, since? id uses = some later ∧ .dropTicket id ∈ later) ∧
    ((ofUses uses).active.map ActiveOperation.id).Nodup ∧
    (∀ id channel, ⟨id, channel⟩ ∈ (ofUses uses).active ↔ ∃ course,
      course? uses id = some course ∧ isLive uses id = true ∧ course.reason = none ∧
        course.channel = channel) ∧
    (empty.handedOut uses).Nodup ∧
    (∀ id ∈ empty.handedOut uses, 1 ≤ id ∧ id ≤ uses.count .register) ∧
    ((∃ id, (ofUses uses).register.1 = .ok id) ↔ .stop ∉ uses) ∧
    (∀ e, (ofUses uses).register.1 = .error e →
      (ofUses uses).register.2.accepting = (ofUses uses).accepting ∧
      (ofUses uses).register.2.active = (ofUses uses).active ∧
      (ofUses uses).register.2.count = (ofUses uses).count) ∧
    (∀ before between later reason,
      uses = before ++ .stop :: between ++ .cancelAll reason :: later →
        (ofUses uses).active = []) := by
  have h := records_ofUses uses
  have hcount : (ofUses uses).count = (liveTickets uses).length :=
    h.count.trans (tickets_perm uses).length_eq
  have hregister := register_fst (ofUses uses)
  refine ⟨hcount, fun id hid => ?_, ?_, h.unique, fun id channel => ?_, handedOut_nodup uses,
    fun id hid => ?_, ?_, fun e he => ?_, fun _ _ _ _ => active_eq_nil⟩
  · have hticket := (mem_liveTickets uses id).1 hid
    have hpositive : 0 < (ofUses uses).count := h.count ▸ List.length_pos_of_mem hticket
    rw [dropTicket_eq hticket]
    exact Nat.sub_add_cancel hpositive
  · rw [hcount, List.length_eq_zero_iff, liveTickets, List.filter_eq_nil_iff]
    refine forall₂_congr fun id hid => ?_
    obtain ⟨course, hcourse⟩ := (mem_handedOut uses id).1 hid
    obtain ⟨later, hlater, -⟩ := Option.map_eq_some_iff.1 hcourse
    simp [isLive, hlater]
  · rw [h.active]
    refine exists_congr fun course => and_congr_right fun hcourse => ?_
    have hlive : isLive uses id = true ↔ course.live = true := by
      rw [isLive_iff, hcourse]
      simp
    rw [hlive, Course.isActive_iff, and_assoc]
  · obtain ⟨course, hcourse⟩ := (mem_handedOut uses id).1 hid
    exact bounds_of_course? hcourse
  · rw [← h.accepting, hregister]
    cases (ofUses uses).accepting <;> simp
  · have hrefuses : (ofUses uses).accepting = false := by
      rw [hregister] at he
      split at he
      next => cases he
      next hnot => exact Bool.eq_false_iff.2 hnot
    show ((ofUses uses).after .accept).accepting = _ ∧ ((ofUses uses).after .accept).active = _ ∧
      ((ofUses uses).after .accept).count = _
    rw [accept_eq_of_not_accepting hrefuses]
    exact ⟨rfl, rfl, rfl⟩

example :
    (ofUses [.register, .register, .bind 2 7, .cancelChannel 7 (.closed "channel")]).count = 2 ∧
    (ofUses [.register, .register, .bind 2 7, .cancelChannel 7 (.closed "channel")]).active =
      [⟨1, none⟩] := by
  decide

end Remoting.Tracker
