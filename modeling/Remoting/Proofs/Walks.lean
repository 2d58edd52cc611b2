import Remoting.Proofs.Tracking

/-!
# The walk of a cancellation

A cancellation walks along the active operations in some order: it collects the numbers of those
that it concerns, takes them out one by one, and then tells each of them the reason. `cancelIn` is a
cancellation with a given `Order`; `cancelIn_eq` says that the order decides nothing but the order
in which the operations are listed.
-/

namespace Remoting.Tracker

/-- An order in which the active operations are walked along. -/
structure Order where
  walk : List ActiveOperation → List ActiveOperation
  perm : ∀ active, (walk active).Perm active

namespace Order

/-- In the order of registration. -/
def inOrder : Order := ⟨id, .refl⟩

/-- The last one first. -/
def inReverse : Order := ⟨List.reverse, List.reverse_perm⟩

end Order

/-- Takes operations out of a list one by one; yields those that were there, and the rest. -/
def takeOut : List OperationId → List ActiveOperation → List OperationId × List ActiveOperation
  | [], active => ([], active)
  | id :: ids, active =>
    let (taken, rest) := takeOut ids (active.filter (·.id ≠ id))
    (if active.any (·.id = id) then id :: taken else taken, rest)

/-- Tells operations a reason one by one; yields those whose receivers had been dropped. -/
def tell (reason : Error) : List OperationId → Tracker → List OperationId × Tracker
  | [], tracker => ([], tracker)
  | id :: ids, tracker =>
    let (lost, after) := tell reason ids (tracker.fire reason id)
    (if (tracker.receiver? id).isNone then id :: lost else lost, after)

/-- Cancels the operations on the channels concerned, walking along them in an order. -/
def cancelIn (tracker : Tracker) (order : Order) (concerns : Option ChannelId → Bool)
    (reason : Error) : Cancellation :=
  let ids := ((order.walk tracker.active).filter fun operation =>
    concerns operation.channel).map ActiveOperation.id
  let (matched, active) := takeOut ids tracker.active
  let (undelivered, after) := tell reason matched { tracker with active }
  ⟨matched, undelivered, after⟩

/-- Two cancellations have done the same, but for the order of their walks. -/
structure Cancellation.Agrees (done plain : Cancellation) : Prop where
  matched : done.matched.Perm plain.matched
  undelivered : done.undelivered.Perm plain.undelivered
  after : done.after = plain.after

variable {tracker : Tracker} {ids ids' : List OperationId} {active : List ActiveOperation}
  {reason : Error}

theorem takeOut_eq (hnodup : ids.Nodup) (hids : ∀ id ∈ ids, id ∈ active.map ActiveOperation.id) :
    takeOut ids active = (ids, active.filter fun operation => operation.id ∉ ids) := by
  induction ids generalizing active with
  | nil => simp [takeOut]
  | cons id ids ih =>
      obtain ⟨hnot, hnodup⟩ := List.nodup_cons.1 hnodup
      obtain ⟨operation, hmem, hid⟩ := List.mem_map.1 (hids id (List.mem_cons_self ..))
      have hfound : active.any (·.id = id) = true :=
        List.any_eq_true.2 ⟨operation, hmem, by simpa using hid⟩
      have hothers : ∀ other ∈ ids,
          other ∈ (active.filter (·.id ≠ id)).map ActiveOperation.id := by
        intro other hother
        obtain ⟨operation, hmem, rfl⟩ := List.mem_map.1 (hids other (List.mem_cons_of_mem _ hother))
        refine List.mem_map_of_mem (List.mem_filter.2 ⟨hmem, ?_⟩)
        simpa using fun heq : operation.id = id => hnot (heq ▸ hother)
      rw [takeOut, ih hnodup hothers, List.filter_filter]
      simp only [hfound, if_true, Prod.mk.injEq, true_and]
      refine List.filter_congr fun operation _ => ?_
      simp only [List.mem_cons, not_or, Bool.decide_and]
      exact Bool.and_comm _ _

/-- Firing receivers one by one fires those that wait. -/
theorem receivers_foldl_fire (tracker : Tracker) (reason : Error) (ids : List OperationId) :
    (ids.foldl (fire · reason ·) tracker).receivers = tracker.receivers.map fun entry =>
      if entry.1 ∈ ids ∧ tracker.receiver? entry.1 = some .waiting then
        (entry.1, .fired reason.clone)
      else entry := by
  induction ids generalizing tracker with
  | nil => simp
  | cons id ids ih =>
      have hfire : (tracker.fire reason id).receivers = tracker.receivers.map fun entry =>
          if entry.1 = id ∧ tracker.receiver? entry.1 = some .waiting then
            (entry.1, .fired reason.clone)
          else entry := by
        by_cases hwaiting : tracker.receiver? id = some .waiting
        · simp only [fire, hwaiting, setReceiver]
          refine List.map_congr_left fun entry _ => ?_
          by_cases hentry : entry.1 = id <;> simp [hentry, hwaiting]
        · have hsame : tracker.fire reason id = tracker := by
            unfold fire
            split
            next h => exact absurd h hwaiting
            next => rfl
          rw [hsame]
          refine (List.map_id' _).symm.trans (List.map_congr_left fun entry _ => ?_)
          rw [if_neg]
          rintro ⟨rfl, hentry⟩
          exact hwaiting hentry
      rw [List.foldl_cons, ih, hfire, List.map_map]
      refine List.map_congr_left fun entry _ => ?_
      simp only [Function.comp, receiver?_fire, List.mem_cons]
      by_cases hid : entry.1 = id
      · by_cases hwaiting : tracker.receiver? id = some .waiting <;> simp [hid, hwaiting]
      · simp [hid]

/-- It does not matter in which order receivers are fired. -/
theorem foldl_fire_congr (h : ∀ id, id ∈ ids ↔ id ∈ ids') (tracker : Tracker) (reason : Error) :
    ids.foldl (fire · reason ·) tracker = ids'.foldl (fire · reason ·) tracker := by
  rw [foldl_fire_eq, foldl_fire_eq tracker reason ids', receivers_foldl_fire, receivers_foldl_fire]
  simp only [h]

theorem tell_eq (reason : Error) (ids : List OperationId) (tracker : Tracker) :
    tell reason ids tracker =
      (ids.filter fun id => (tracker.receiver? id).isNone,
        ids.foldl (fire · reason ·) tracker) := by
  induction ids generalizing tracker with
  | nil => rfl
  | cons id ids ih =>
      have hlost : ∀ other, ((tracker.fire reason id).receiver? other).isNone =
          (tracker.receiver? other).isNone := by
        intro other
        rw [receiver?_fire]
        split
        next h => simp [h.1, h.2]
        next => rfl
      rw [tell, ih]
      simp only [hlost, List.filter_cons, List.foldl_cons]

/-- In every order a cancellation takes out the operations concerned, tells those whose receivers
are there, and leaves the same record. -/
theorem cancelIn_eq (hunique : (tracker.active.map ActiveOperation.id).Nodup) (order : Order)
    (concerns : Option ChannelId → Bool) (reason : Error) :
    (tracker.cancelIn order concerns reason).Agrees
        (tracker.cancelWhere (fun operation => concerns operation.channel) reason) ∧
      (tracker.cancelIn order concerns reason).undelivered =
        (tracker.cancelIn order concerns reason).matched.filter
          (fun id => (tracker.receiver? id).isNone) := by
  have hwalk := order.perm tracker.active
  have hperm : (((order.walk tracker.active).filter fun operation =>
      concerns operation.channel).map ActiveOperation.id).Perm
        ((tracker.active.filter fun operation => concerns operation.channel).map
          ActiveOperation.id) := (hwalk.filter _).map _
  have hplain : ((tracker.active.filter fun operation => concerns operation.channel).map
      ActiveOperation.id).Nodup := hunique.sublist (List.filter_sublist.map _)
  have hknown : ∀ id ∈ ((order.walk tracker.active).filter fun operation =>
      concerns operation.channel).map ActiveOperation.id,
      id ∈ tracker.active.map ActiveOperation.id := fun id hid =>
    (List.filter_sublist.map ActiveOperation.id).subset (hperm.subset hid)
  have htaken := takeOut_eq (hperm.symm.nodup hplain) hknown
  -- the operations that are left are those that are not concerned
  have hrest : (tracker.active.filter fun operation => operation.id ∉
      ((order.walk tracker.active).filter fun operation =>
        concerns operation.channel).map ActiveOperation.id) =
      tracker.active.filter fun operation => !concerns operation.channel := by
    refine List.filter_congr fun operation hmem => ?_
    have hiff : operation.id ∈ ((order.walk tracker.active).filter fun operation =>
        concerns operation.channel).map ActiveOperation.id ↔ concerns operation.channel = true := by
      rw [hperm.mem_iff, List.mem_map]
      constructor
      · rintro ⟨other, hother, hid⟩
        obtain ⟨hother, hconcerns⟩ := List.mem_filter.1 hother
        rwa [List.inj_on_of_nodup_map hunique hmem hother hid.symm]
      · exact fun hconcerns => ⟨operation, List.mem_filter.2 ⟨hmem, hconcerns⟩, rfl⟩
    cases hconcerns : concerns operation.channel <;> simp [hiff, hconcerns]
  simp only [cancelIn, htaken, hrest, tell_eq, cancelWhere]
  exact ⟨⟨hperm, hperm.filter _, foldl_fire_congr (fun id => hperm.mem_iff) _ _⟩, rfl⟩

end Remoting.Tracker
