import Remoting.Proofs.Moving

/-!
# Runs with handlers

A handler can stand alone, with a source of channels of its own, or belong to a client. `startWith`
is the beginning of runs that also have handlers of the first kind. In every run whose moves leave
the record of a handler to the handler, record and tasks agree on the tickets. An operation whose
ticket nobody holds any more stays out of the record.
-/

namespace Remoting

namespace World

/-- The world in which nothing exists but handlers with the given sources. -/
def ofSuppliers (suppliers : List Supplier) : World :=
  suppliers.foldl (fun w supplier => (w.addHandler supplier).2) empty

theorem ofSuppliers_eq (suppliers : List Supplier) :
    ofSuppliers suppliers = { empty with handlers := suppliers.map fun s => ⟨.empty, s⟩ } := by
  have hfold : ∀ w : World, suppliers.foldl (fun w supplier => (w.addHandler supplier).2) w =
      { w with handlers := w.handlers ++ suppliers.map fun s => ⟨.empty, s⟩ } := by
    induction suppliers with
    | nil => intro w; simp
    | cons supplier suppliers ih =>
        intro w
        rw [List.foldl_cons, ih]
        simp [addHandler]
  exact hfold empty

end World

/-- A client with a handler whose factory acts as given; its other collaborators succeed. -/
def ClientSpec.handling (factory : FactoryPlan) : ClientSpec :=
  { ClientSpec.recorded factory with recorder := none }

/-- An operation that was admitted and has ended. -/
def Tracker.Past (tracker : Tracker) (id : OperationId) : Prop :=
  id ∉ tracker.tickets ∧ id < tracker.nextId

/-- Numbers only go up. -/
theorem Tracker.nextId_after (tracker : Tracker) (deed : Deed) :
    tracker.nextId ≤ (tracker.after deed).nextId := by
  cases deed with
  | accept =>
      cases haccepting : tracker.accepting with
      | true =>
          rw [accept_eq haccepting]
          exact Nat.le_succ _
      | false =>
          rw [accept_eq_of_not_accepting haccepting]
          exact Nat.le_succ _
  | finish id =>
      by_cases hid : id ∈ tracker.tickets
      · rw [finish_eq hid]
      · rw [finish_eq_of_not_mem hid]
        exact Nat.le_refl _
  | bind | stop => exact Nat.le_refl _
  | cancel notice =>
      show _ ≤ (tracker.cancelWhere _ _).after.nextId
      rw [cancelWhere_eq]

theorem Tracker.nextId_foldl (tracker : Tracker) (deeds : List Deed) :
    tracker.nextId ≤ (deeds.foldl Tracker.after tracker).nextId := by
  induction deeds generalizing tracker with
  | nil => exact Nat.le_refl _
  | cons deed deeds ih => exact Nat.le_trans (nextId_after tracker deed) (ih _)

/-- No deed brings back an operation that has ended. -/
theorem Tracker.Past.after {tracker : Tracker} {id : OperationId} (h : tracker.Past id)
    (deed : Deed) : (tracker.after deed).Past id := by
  refine ⟨fun hid => ?_, Nat.lt_of_lt_of_le h.2 (nextId_after tracker deed)⟩
  rw [tickets_after] at hid
  split at hid
  next =>
    split at hid
    next =>
      rcases List.mem_append.1 hid with hid | hid
      · exact h.1 hid
      · exact absurd (List.mem_singleton.1 hid) (Nat.ne_of_lt h.2)
    next => exact h.1 hid
  next => exact h.1 (List.mem_of_mem_erase hid)
  next => exact h.1 hid

theorem Tracker.Past.foldl {tracker : Tracker} {id : OperationId} (h : tracker.Past id)
    (deeds : List Deed) : (deeds.foldl Tracker.after tracker).Past id := by
  induction deeds generalizing tracker with
  | nil => exact h
  | cons deed deeds ih => exact ih (h.after deed)

namespace Moment

variable {m after last : Moment} {move : Move} {moves : List Move} {handler : HandlerId}
  {task : TaskId} {t : Task} {id : OperationId}

/-- The moment before everything, with handlers that stand alone. -/
def startWith (suppliers : List Supplier) : Moment := ⟨.ofSuppliers suppliers, none⟩

theorem startWith_callsFit (suppliers : List Supplier) : (startWith suppliers).CallsFit := by
  unfold startWith
  rw [World.ofSuppliers_eq]
  exact
    { nodup := .nil
      fresh := nofun
      unfinished := nofun
      past := nofun
      handed := nofun
      unheld := nofun
      resting := nofun
      clients := fun _ => rfl }

theorem startWith_tracks (suppliers : List Supplier) (handler : HandlerId) :
    (startWith suppliers).Tracks handler := by
  unfold startWith
  rw [World.ofSuppliers_eq]
  refine ⟨fun _ => rfl, fun {tracker} htracker => ?_⟩
  obtain ⟨h, hcell, rfl⟩ := Option.map_eq_some_iff.1 htracker
  rw [List.getElem?_map] at hcell
  obtain ⟨supplier, -, rfl⟩ := Option.map_eq_some_iff.1 hcell
  exact ⟨Tracker.empty_paired, .nil⟩

/-- The invariant and the agreement of a record with the tasks hold all along a run. -/
theorem Tracks.run (h : m.Tracks handler) (hfit : m.CallsFit) (hrun : m.run moves = some last)
    (hspares : ∀ move ∈ moves, move.Spares handler) : last.CallsFit ∧ last.Tracks handler := by
  refine run_induction_of_forall (P := fun m => m.CallsFit ∧ m.Tracks handler) ?_ ⟨hfit, h⟩ hrun
    hspares
  rintro m after move ⟨hfit, h⟩ hnext hspare
  exact ⟨(hfit.next hnext).fits, h.next hfit hnext hspare⟩

/-! ## Whose tickets -/

/-- Other tasks keep their tickets in a move of a task. -/
theorem next_ticketsBut (hnext : m.next move = some after) (hspares : move.Spares handler)
    (hactor : m.actor? move = some task) :
    after.world.ticketsBut task handler = m.world.ticketsBut task handler := by
  cases next_turns hnext hspares with
  | build h => rw [World.ticketsBut, h.tasks]; rfl
  | pass hmove h => rw [h]; rfl
  | apart h => exact h.ticketsBut task
  | run hactor' ht h =>
      cases hactor.symm.trans hactor'
      exact h.ticketsBut
  | @stop task' t v hactor' ht hdeeds hdrop hend =>
      cases hactor.symm.trans hactor'
      have hremoved : (v.removeTask task).ticketsBut task handler = v.ticketsBut task handler := by
        simp only [World.ticketsBut, World.removeTask, List.filter_filter, Bool.and_self]
      rw [hend.ticketsBut, hremoved, hdrop.ticketsBut]

/-- The tickets of a task are among all tickets. -/
theorem mem_tickets (ht : t ∈ m.world.tasks) (hid : id ∈ World.held handler t.frames) :
    id ∈ m.world.tickets handler :=
  List.mem_flatMap.2 ⟨t, ht, hid⟩

theorem mem_ticketsBut (ht : t ∈ m.world.tasks) (hne : t.id ≠ task)
    (hid : id ∈ World.held handler t.frames) : id ∈ m.world.ticketsBut task handler :=
  List.mem_flatMap.2 ⟨t, List.mem_filter.2 ⟨ht, by simpa using hne⟩, hid⟩

/-- A ticket is held by one task, and there in one frame. -/
theorem Tracks.held_nodup (h : m.Tracks handler) (hfit : m.CallsFit)
    (ht : m.world.task? task = some t) :
    (World.held handler t.frames ++ m.world.ticketsBut task handler).Nodup := by
  obtain ⟨active, horderly⟩ := hfit.exists_callsFit
  refine (World.tickets_perm horderly.nodup ht handler).nodup ?_
  cases htracker : m.world.tracker? handler with
  | none =>
      rw [h.absent htracker]
      exact .nil
  | some tracker =>
      obtain ⟨hpaired, hperm⟩ := h.present htracker
      exact hperm.symm.nodup hpaired.nodup

/-- Only one task holds a ticket. -/
theorem Tracks.holder_eq (h : m.Tracks handler) (hfit : m.CallsFit)
    (ht : m.world.task? task = some t) (hid : id ∈ World.held handler t.frames) {t' : Task}
    (ht' : t' ∈ m.world.tasks) (hid' : id ∈ World.held handler t'.frames) : t'.id = task := by
  refine Decidable.byContradiction fun hne => ?_
  exact (List.disjoint_of_nodup_append (h.held_nodup hfit ht)) hid (mem_ticketsBut ht' hne hid')

/-- A frame that holds a ticket is the only one that does. -/
theorem Tracks.unheld (h : m.Tracks handler) (hfit : m.CallsFit) (ht : m.world.task? task = some t)
    {inner outer : List Frame} {frame : Frame} (hframes : t.frames = inner ++ frame :: outer)
    (hframe : frame.ticket? handler = some id) :
    id ∉ World.held handler inner ∧ id ∉ World.held handler outer := by
  have hnodup := (List.nodup_append.1 (h.held_nodup hfit ht)).1
  rw [hframes, World.held, List.filterMap_append, List.filterMap_cons, hframe] at hnodup
  have hmiddle := List.nodup_cons.1 (List.perm_middle.nodup hnodup)
  exact ⟨fun hid => hmiddle.1 (List.mem_append_left _ hid),
    fun hid => hmiddle.1 (List.mem_append_right _ hid)⟩

/-- A ticket that its task no longer holds is held by nobody. -/
theorem next_not_mem_tickets (hnext : m.next move = some after) (hspares : move.Spares handler)
    (hactor : m.actor? move = some task) (hother : id ∉ m.world.ticketsBut task handler)
    (hgone : ∀ {t}, t ∈ after.world.tasks → t.id = task → id ∉ World.held handler t.frames) :
    id ∉ after.world.tickets handler := by
  intro hid
  obtain ⟨t, ht, hid⟩ := List.mem_flatMap.1 hid
  by_cases hne : t.id = task
  · exact hgone ht hne hid
  · exact hother (next_ticketsBut hnext hspares hactor ▸ mem_ticketsBut ht hne hid)

/-- An operation of a handler that was admitted and has ended. -/
def Past (m : Moment) (handler : HandlerId) (id : OperationId) : Prop :=
  ∃ tracker, m.world.tracker? handler = some tracker ∧ tracker.Past id

theorem Past.next (h : m.Past handler id) (hnext : m.next move = some after)
    (hspares : move.Spares handler) : after.Past handler id := by
  obtain ⟨tracker, htracker, hpast⟩ := h
  exact ⟨_, (next_turns hnext hspares).tracker_eq htracker, hpast.foldl _⟩

/-- Nobody holds the ticket of an operation that has ended. -/
theorem Tracks.not_mem_of_past (h : m.Tracks handler) (hpast : m.Past handler id) :
    id ∉ m.world.tickets handler := by
  obtain ⟨tracker, htracker, hpast⟩ := hpast
  exact fun hid => hpast.1 ((h.present htracker).2.subset hid)

end Moment

end Remoting
