import Mathlib.Data.List.Perm.Basic
import Mathlib.Data.List.Nodup
import Remoting.World.Parts

/-!
# The record of operations in flight

Whatever a handler does to its record of operations is one of five deeds: it admits an operation,
notes its channel, ends it, stops admitting, or cancels the operations that a notice concerns.
`Tracker.Paired` is what all of them keep. Every ticket has a receiver, which waits exactly as long
as the operation can still be cancelled and otherwise holds the reason of the cancellation, and the
number that waiters see is the number of tickets.
-/

namespace Remoting

/-- What a handler is told that cancels operations. -/
inductive Notice where
  /-- The client is closing. -/
  | closing
  /-- A channel has closed. -/
  | channelClosed (channel : ChannelId) (cause : Option Error)

namespace Notice

/-- The reason that operations are cancelled for. -/
def reason : Notice → Error
  | closing => .cancelled "management client is closing"
  | channelClosed channel cause => World.closureReason channel cause

/-- Whether a notice cancels the operations on a channel, or those whose channel is not known. -/
def concerns : Notice → Option ChannelId → Bool
  | closing, _ => true
  | channelClosed channel _, known => known = some channel

@[simp] theorem clone_reason (notice : Notice) : notice.reason.clone = notice.reason := by
  cases notice <;> rfl

end Notice

/-- What a handler does to its record of operations. -/
inductive Deed where
  | accept
  | bind (operation : OperationId) (channel : ChannelId)
  | finish (operation : OperationId)
  | stop
  | cancel (notice : Notice)

namespace Tracker

variable {tracker : Tracker} {id other : OperationId} {deed : Deed}

/-- The record after a deed. The ticket and the receiver of an operation that ends go in one deed,
whichever of them is dropped first: no other deed falls between them. -/
def after (tracker : Tracker) : Deed → Tracker
  | .accept => tracker.register.2
  | .bind operation channel => tracker.bind operation channel
  | .finish operation => (tracker.dropTicket operation).dropReceiver operation
  | .stop => tracker.stop
  | .cancel notice =>
    (tracker.cancelWhere (fun operation => notice.concerns operation.channel) notice.reason).after

/-- What every record of operations fulfils. -/
structure Paired (tracker : Tracker) : Prop where
  nodup : tracker.tickets.Nodup
  fresh : ∀ {id}, id ∈ tracker.tickets → id < tracker.nextId
  count : tracker.count = tracker.tickets.length
  unique : (tracker.active.map ActiveOperation.id).Nodup
  known : ∀ {id receiver}, tracker.receiver? id = some receiver → id ∈ tracker.tickets
  active : ∀ {operation : ActiveOperation}, operation ∈ tracker.active →
    tracker.receiver? operation.id = some .waiting
  receiver : ∀ {id}, id ∈ tracker.tickets →
    (tracker.receiver? id = some .waiting ∧ ∃ operation ∈ tracker.active, operation.id = id) ∨
      ∃ reason, tracker.receiver? id = some (.fired reason)

theorem empty_paired : empty.Paired where
  nodup := .nil
  fresh h := by cases h
  count := rfl
  unique := .nil
  known h := by cases h
  active h := by cases h
  receiver h := by cases h

/-! ## Receivers -/

section Lookup

variable {α : Type} {entries : List (Nat × α)} {key key' : Nat} {value : α}

theorem lookup_filter_ne : (entries.filter (·.1 ≠ key)).lookup key' =
    if key' = key then none else entries.lookup key' := by
  induction entries with
  | nil => simp
  | cons entry entries ih =>
      by_cases h : entry.1 = key
      · rw [List.filter_cons_of_neg (by simpa using h), ih, List.lookup_cons]
        by_cases h' : key' = key
        · simp [h']
        · simp [h', show (key' == entry.1) = false by simpa [h] using h']
      · rw [List.filter_cons_of_pos (by simpa using h), List.lookup_cons, List.lookup_cons, ih]
        by_cases h' : key' = key
        · simp [h', show (key == entry.1) = false by simpa using Ne.symm h]
        · simp [h']

theorem lookup_map_set :
    (entries.map fun entry => if entry.1 = key then (key, value) else entry).lookup
    key' = if key' = key then (entries.lookup key).map fun _ => value else entries.lookup key' := by
  induction entries with
  | nil => simp
  | cons entry entries ih =>
      rw [List.map_cons, List.lookup_cons, ih, List.lookup_cons, List.lookup_cons]
      by_cases h : entry.1 = key
      · by_cases h' : key' = key
        · simp [h, h']
        · simp [h, h', show (key' == key) = false by simpa using h']
      · by_cases h' : key' = key
        · simp [h', show (key == entry.1) = false by simpa using Ne.symm h, h]
        · simp [h', h]

end Lookup

theorem receiver?_setReceiver (tracker : Tracker) (id other : OperationId) (receiver : Receiver) :
    (tracker.setReceiver id receiver).receiver? other =
      if other = id then (tracker.receiver? id).map fun _ => receiver
        else tracker.receiver? other :=
  lookup_map_set

theorem receiver?_dropReceiver (tracker : Tracker) (id other : OperationId) :
    (tracker.dropReceiver id).receiver? other =
      if other = id then none else tracker.receiver? other :=
  lookup_filter_ne

/-- Firing changes nothing but a receiver. -/
theorem fire_eq (tracker : Tracker) (reason : Error) (id : OperationId) :
    tracker.fire reason id = { tracker with receivers := (tracker.fire reason id).receivers } := by
  unfold fire
  split <;> rfl

theorem receiver?_fire (tracker : Tracker) (reason : Error) (id other : OperationId) :
    (tracker.fire reason id).receiver? other =
      if other = id ∧ tracker.receiver? id = some .waiting then some (.fired reason.clone)
      else tracker.receiver? other := by
  unfold fire
  split
  next h =>
    rw [receiver?_setReceiver, h]
    by_cases heq : other = id <;> simp [heq]
  next h =>
    rw [if_neg]
    rintro ⟨-, hwaiting⟩
    exact h hwaiting

/-- Firing several receivers changes nothing but receivers. -/
theorem foldl_fire_eq (tracker : Tracker) (reason : Error) (ids : List OperationId) :
    ids.foldl (fire · reason ·) tracker =
      { tracker with receivers := (ids.foldl (fire · reason ·) tracker).receivers } := by
  induction ids generalizing tracker with
  | nil => rfl
  | cons id ids ih =>
      rw [List.foldl_cons, ih, fire_eq]

theorem receiver?_foldl_fire (tracker : Tracker) (reason : Error) (ids : List OperationId)
    (other : OperationId) : (ids.foldl (fire · reason ·) tracker).receiver? other =
      if other ∈ ids ∧ tracker.receiver? other = some .waiting then some (.fired reason.clone)
      else tracker.receiver? other := by
  induction ids generalizing tracker with
  | nil => simp
  | cons id ids ih =>
      rw [List.foldl_cons, ih, receiver?_fire]
      by_cases hid : other = id
      · subst hid
        by_cases hwaiting : tracker.receiver? other = some .waiting <;> simp [hwaiting]
      · simp [hid]

/-! ## Deeds one by one -/

/-- The receivers after a cancellation. -/
theorem receiver?_cancelWhere (tracker : Tracker) (matching : ActiveOperation → Bool)
    (reason : Error) (id : OperationId) :
    (tracker.cancelWhere matching reason).after.receiver? id =
      if (∃ operation ∈ tracker.active, matching operation = true ∧ operation.id = id) ∧
          tracker.receiver? id = some .waiting then some (.fired reason.clone)
      else tracker.receiver? id := by
  simp only [cancelWhere, receiver?_foldl_fire, List.mem_map, List.mem_filter, and_assoc]
  rfl

theorem cancelWhere_eq (tracker : Tracker) (matching : ActiveOperation → Bool) (reason : Error) :
    (tracker.cancelWhere matching reason).after =
      { tracker with
        active := tracker.active.filter (!matching ·)
        receivers := (tracker.cancelWhere matching reason).after.receivers } := by
  simp only [cancelWhere]
  rw [foldl_fire_eq]

/-- The end of an operation takes it off all lists. -/
theorem finish_eq (h : id ∈ tracker.tickets) : tracker.after (.finish id) =
    { tracker with
      active := tracker.active.filter (·.id ≠ id)
      count := tracker.count - 1
      tickets := tracker.tickets.erase id
      receivers := tracker.receivers.filter (·.1 ≠ id) } := by
  simp only [after, dropTicket, List.contains_iff_mem, h, if_true]
  split
  · simp only [dropReceiver, setReceiver, mk.injEq, true_and]
    rw [List.filter_map]
    have hcomp : (fun entry : OperationId × Receiver => decide (entry.1 ≠ id)) ∘
        (fun entry => if entry.1 = id then (id, .closed) else entry) =
          fun entry => decide (entry.1 ≠ id) := by
      funext entry
      by_cases heq : entry.1 = id <;> simp [heq]
    rw [hcomp]
    refine List.map_congr_left ?_ |>.trans (List.map_id _)
    intro entry hentry
    have hne : entry.1 ≠ id := by simpa using (List.mem_filter.1 hentry).2
    simp [hne]
  · rfl

/-- The end of an operation that is not on the list of tickets takes away its receiver only. -/
theorem finish_eq_of_not_mem (h : id ∉ tracker.tickets) :
    tracker.after (.finish id) = tracker.dropReceiver id := by
  simp [after, dropTicket, h]

/-- What an admitted operation adds to the record. -/
theorem accept_eq (h : tracker.accepting = true) : tracker.after .accept =
    { tracker with
      nextId := tracker.nextId + 1
      active := tracker.active ++ [⟨tracker.nextId, none⟩]
      count := tracker.count + 1
      tickets := tracker.tickets ++ [tracker.nextId]
      receivers := tracker.receivers ++ [(tracker.nextId, .waiting)] } := by
  simp [after, register, h]

/-- A record that admits no more operations uses up a number only. -/
theorem accept_eq_of_not_accepting (h : tracker.accepting = false) :
    tracker.after .accept = { tracker with nextId := tracker.nextId + 1 } := by
  simp [after, register, h]

/-! ## All deeds -/

/-- Only an operation that is admitted and one that ends change the list of tickets. -/
theorem tickets_after (tracker : Tracker) (deed : Deed) :
    (tracker.after deed).tickets = match deed with
      | .accept =>
        if tracker.accepting then tracker.tickets ++ [tracker.nextId] else tracker.tickets
      | .finish id => tracker.tickets.erase id
      | _ => tracker.tickets := by
  cases deed with
  | accept =>
      cases h : tracker.accepting with
      | true => simp [accept_eq h]
      | false => simp [accept_eq_of_not_accepting h]
  | finish id =>
      by_cases h : id ∈ tracker.tickets
      · rw [finish_eq h]
      · simp [after, dropTicket, dropReceiver, h, List.erase_of_not_mem h]
  | bind | stop => rfl
  | cancel notice =>
      show (tracker.cancelWhere _ _).after.tickets = _
      rw [cancelWhere_eq]

/-- An operation that can still be cancelled has a ticket. -/
theorem Paired.ticket_of_active (h : tracker.Paired) {operation : ActiveOperation}
    (hactive : operation ∈ tracker.active) : operation.id ∈ tracker.tickets :=
  h.known (h.active hactive)

/-- A new number has no receiver yet. -/
theorem Paired.receiver?_nextId (h : tracker.Paired) : tracker.receiver? tracker.nextId = none := by
  cases hreceiver : tracker.receiver? tracker.nextId with
  | none => rfl
  | some receiver => exact absurd (h.fresh (h.known hreceiver)) (Nat.lt_irrefl _)

/-- The receivers after an admission. -/
theorem Paired.receiver?_accept (h : tracker.Paired) (haccepting : tracker.accepting = true)
    (id : OperationId) : (tracker.after .accept).receiver? id =
      if id = tracker.nextId then some .waiting else tracker.receiver? id := by
  have hnone : tracker.receivers.lookup tracker.nextId = none := h.receiver?_nextId
  rw [accept_eq haccepting, receiver?, List.lookup_append]
  by_cases hid : id = tracker.nextId
  · simp [hid, hnone]
  · simp [hid, receiver?, List.lookup_cons, show (id == tracker.nextId) = false by simpa using hid]

/-- The receivers after the end of an operation. -/
theorem receiver?_finish (tracker : Tracker) (id other : OperationId) :
    (tracker.after (.finish id)).receiver? other =
      if other = id then none else tracker.receiver? other := by
  by_cases hid : id ∈ tracker.tickets
  · rw [finish_eq hid]
    exact lookup_filter_ne
  · rw [finish_eq_of_not_mem hid]
    exact receiver?_dropReceiver tracker id other

theorem Paired.accept (h : tracker.Paired) : (tracker.after .accept).Paired := by
  cases haccepting : tracker.accepting with
  | false =>
      rw [accept_eq_of_not_accepting haccepting]
      exact { h with fresh := fun hid => Nat.lt_succ_of_lt (h.fresh hid) }
  | true =>
      have hnew : tracker.nextId ∉ tracker.tickets := fun hid => Nat.lt_irrefl _ (h.fresh hid)
      have hold : ∀ {operation}, operation ∈ tracker.active → operation.id ≠ tracker.nextId :=
        fun hactive heq => hnew (heq ▸ h.ticket_of_active hactive)
      have hlookup := h.receiver?_accept haccepting
      have hfields := accept_eq haccepting
      generalize tracker.after .accept = admitted at hlookup hfields
      have htickets : admitted.tickets = tracker.tickets ++ [tracker.nextId] := by rw [hfields]
      have hactives : admitted.active = tracker.active ++ [⟨tracker.nextId, none⟩] := by
        rw [hfields]
      exact
        { nodup := by
            rw [htickets, ← List.concat_eq_append]
            exact h.nodup.concat hnew
          fresh := fun {id} hid => by
            rw [htickets] at hid
            rw [hfields]
            rcases List.mem_append.1 hid with hid | hid
            · exact Nat.lt_succ_of_lt (h.fresh hid)
            · exact List.mem_singleton.1 hid ▸ Nat.lt_succ_self _
          count := by simp [hfields, h.count]
          unique := by
            rw [hactives, List.map_append, List.map_singleton, ← List.concat_eq_append]
            refine h.unique.concat fun hid => ?_
            obtain ⟨operation, hactive, hid⟩ := List.mem_map.1 hid
            exact hold hactive hid
          known := fun {id receiver} hreceiver => by
            rw [htickets]
            rw [hlookup] at hreceiver
            split at hreceiver
            next hid => exact List.mem_append_right _ (List.mem_singleton.2 hid)
            next => exact List.mem_append_left _ (h.known hreceiver)
          active := fun {operation} hactive => by
            rw [hactives] at hactive
            rw [hlookup]
            rcases List.mem_append.1 hactive with hactive | hactive
            · rw [if_neg (hold hactive)]
              exact h.active hactive
            · rw [List.mem_singleton.1 hactive, if_pos rfl]
          receiver := fun {id} hid => by
            rw [htickets] at hid
            rw [hlookup, hactives]
            rcases List.mem_append.1 hid with hid | hid
            · have hne : id ≠ tracker.nextId := fun heq => hnew (heq ▸ hid)
              rw [if_neg hne]
              rcases h.receiver hid with ⟨hwaiting, operation, hactive, heq⟩ | hfired
              · exact .inl ⟨hwaiting, operation, List.mem_append_left _ hactive, heq⟩
              · exact .inr hfired
            · rw [List.mem_singleton.1 hid, if_pos rfl]
              exact .inl ⟨rfl, _, List.mem_append_right _ (List.mem_singleton.2 rfl), rfl⟩ }

theorem Paired.bind (h : tracker.Paired) (id : OperationId) (channel : ChannelId) :
    (tracker.after (.bind id channel)).Paired := by
  have hids : ∀ {operation : ActiveOperation}, operation ∈ (tracker.bind id channel).active →
      ∃ old ∈ tracker.active, old.id = operation.id := by
    intro operation hactive
    obtain ⟨old, hold, rfl⟩ := List.mem_map.1 hactive
    exact ⟨old, hold, by split <;> rfl⟩
  exact
    { nodup := h.nodup
      fresh := h.fresh
      count := h.count
      unique := by
        have hmap : (tracker.bind id channel).active.map ActiveOperation.id =
            tracker.active.map ActiveOperation.id := by
          simp only [Tracker.bind, List.map_map]
          refine List.map_congr_left fun operation _ => ?_
          simp only [Function.comp]
          split <;> rfl
        exact hmap ▸ h.unique
      known := h.known
      active := fun hactive => by
        obtain ⟨old, hold, heq⟩ := hids hactive
        exact heq ▸ h.active hold
      receiver := fun hid => by
        rcases h.receiver hid with ⟨hwaiting, operation, hactive, heq⟩ | hfired
        · exact .inl ⟨hwaiting, _, List.mem_map_of_mem hactive, by split <;> exact heq⟩
        · exact .inr hfired }

theorem Paired.finish (h : tracker.Paired) (hid : id ∈ tracker.tickets) :
    (tracker.after (.finish id)).Paired := by
  have hlookup := receiver?_finish tracker id
  have hfields := finish_eq hid
  generalize tracker.after (.finish id) = ended at hlookup hfields
  have htickets : ended.tickets = tracker.tickets.erase id := by rw [hfields]
  have hactives : ended.active = tracker.active.filter (·.id ≠ id) := by rw [hfields]
  exact
    { nodup := htickets ▸ h.nodup.erase id
      fresh := fun hother => by
        rw [htickets] at hother
        rw [hfields]
        exact h.fresh (List.mem_of_mem_erase hother)
      count := by
        rw [htickets, List.length_erase_of_mem hid, ← h.count, hfields]
      unique := hactives ▸ h.unique.sublist (List.filter_sublist.map _)
      known := fun {other receiver} hreceiver => by
        rw [htickets]
        rw [hlookup] at hreceiver
        split at hreceiver
        next => cases hreceiver
        next hne => exact (List.mem_erase_of_ne hne).2 (h.known hreceiver)
      active := fun {operation} hactive => by
        rw [hactives] at hactive
        obtain ⟨hold, hne⟩ := List.mem_filter.1 hactive
        rw [hlookup, if_neg (by simpa using hne)]
        exact h.active hold
      receiver := fun {other} hother => by
        rw [htickets] at hother
        obtain ⟨hne, hmem⟩ := h.nodup.mem_erase_iff.1 hother
        rw [hlookup, if_neg hne, hactives]
        rcases h.receiver hmem with ⟨hwaiting, operation, hactive, heq⟩ | hfired
        · exact .inl
            ⟨hwaiting, operation, List.mem_filter.2 ⟨hactive, by simpa [heq] using hne⟩, heq⟩
        · exact .inr hfired }

theorem Paired.cancel (h : tracker.Paired) (notice : Notice) :
    (tracker.after (.cancel notice)).Paired := by
  have hlookup := receiver?_cancelWhere tracker (fun operation => notice.concerns operation.channel)
    notice.reason
  have hwaiting : ∀ {operation : ActiveOperation}, operation ∈ tracker.active →
      notice.concerns operation.channel = false → ¬ ∃ other ∈ tracker.active,
        notice.concerns other.channel = true ∧ other.id = operation.id := by
    rintro operation hactive hspared ⟨other, hother, hmatched, hid⟩
    rw [List.inj_on_of_nodup_map h.unique hother hactive hid, hspared] at hmatched
    cases hmatched
  simp only [after]
  generalize hafter : (tracker.cancelWhere _ _).after = cancelled at hlookup ⊢
  have hfields := (hafter.symm.trans (cancelWhere_eq ..)).trans (by rw [hafter])
  exact
    { nodup := by rw [hfields]; exact h.nodup
      fresh := fun hid => by rw [hfields] at hid ⊢; exact h.fresh hid
      count := by rw [hfields]; exact h.count
      unique := by rw [hfields]; exact h.unique.sublist (List.filter_sublist.map _)
      known := fun {id receiver} hreceiver => by
        rw [hfields]
        rw [hlookup] at hreceiver
        split at hreceiver
        next hmatched => exact h.known hmatched.2
        next => exact h.known hreceiver
      active := fun {operation} hactive => by
        rw [hfields] at hactive
        obtain ⟨hold, hspared⟩ := List.mem_filter.1 hactive
        rw [hlookup, if_neg fun hmatched => hwaiting hold (by simpa using hspared) hmatched.1]
        exact h.active hold
      receiver := fun {id} hid => by
        rw [hfields] at hid
        rw [hlookup]
        rcases h.receiver hid with ⟨hwait, operation, hactive, rfl⟩ | ⟨reason, hfired⟩
        · cases hconcerned : notice.concerns operation.channel with
          | true =>
              rw [if_pos ⟨⟨operation, hactive, hconcerned, rfl⟩, hwait⟩]
              exact .inr ⟨_, rfl⟩
          | false =>
              rw [if_neg fun hmatched => hwaiting hactive hconcerned hmatched.1]
              refine .inl ⟨hwait, operation, ?_, rfl⟩
              rw [hfields]
              exact List.mem_filter.2 ⟨hactive, by simp [hconcerned]⟩
        · rw [if_neg fun hmatched => by rw [hfired] at hmatched; cases hmatched.2]
          exact .inr ⟨reason, hfired⟩ }

/-- Every deed keeps tickets and receivers paired, if only operations in flight end. -/
theorem Paired.after (h : tracker.Paired)
    (hfinish : ∀ {id}, deed = .finish id → id ∈ tracker.tickets) :
    (tracker.after deed).Paired := by
  cases deed with
  | accept => exact h.accept
  | bind id channel => exact h.bind id channel
  | finish id => exact h.finish (hfinish rfl)
  | stop => exact { h with }
  | cancel notice => exact h.cancel notice

end Tracker

end Remoting
