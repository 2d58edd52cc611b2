import Remoting.Proofs.Run

/-!
# The registry of open clients

The registry has no lock and is written apart from the clients: a new client is entered when it is
made, and taken off when a close gets its lock. `Registered` says that the two agree: there is one
entry for each client that is not closed, with where the client was created, and no other.
-/

namespace Remoting

namespace Registry

variable {registry : Registry} {client id : Nat} {trace trace' : AllocationTrace}

theorem mem_untrack :
    (id, trace) ∈ registry.untrack client ↔ (id, trace) ∈ registry ∧ id ≠ client := by
  simp [untrack]

theorem mem_track : (id, trace) ∈ registry.track client trace' ↔
    (id = client ∧ trace = trace') ∨ ((id, trace) ∈ registry ∧ id ≠ client) := by
  rw [track, List.mem_cons, mem_untrack, Prod.mk.injEq]

theorem nodup_untrack (h : (registry.map Prod.fst).Nodup) (client : Nat) :
    ((registry.untrack client).map Prod.fst).Nodup :=
  h.sublist (List.filter_sublist.map Prod.fst)

theorem nodup_track (h : (registry.map Prod.fst).Nodup) (client : Nat) (trace : AllocationTrace) :
    ((registry.track client trace).map Prod.fst).Nodup := by
  refine List.nodup_cons.2 ⟨fun hmem => ?_, nodup_untrack h client⟩
  obtain ⟨⟨id, trace'⟩, hentry, rfl⟩ := List.mem_map.1 hmem
  exact (mem_untrack.1 hentry).2 rfl

theorem mem_snapshot {entry : Nat × AllocationTrace} :
    entry ∈ registry.snapshot ↔ entry ∈ registry :=
  List.mem_mergeSort

/-- A registry with one entry for each id is listed in strict order. -/
theorem pairwise_snapshot (h : (registry.map Prod.fst).Nodup) :
    registry.snapshot.Pairwise fun first second => first.1 < second.1 := by
  have hsorted : registry.snapshot.Pairwise fun first second => first.1 ≤ second.1 := by
    refine (List.pairwise_mergeSort (fun a b c hab hbc => ?_) (fun a b => ?_) registry).imp
      fun hle => of_decide_eq_true hle
    · exact decide_eq_true (Nat.le_trans (of_decide_eq_true hab) (of_decide_eq_true hbc))
    · rw [Bool.or_eq_true, decide_eq_true_iff, decide_eq_true_iff]
      exact Nat.le_total a.1 b.1
  have hperm : (registry.snapshot.map Prod.fst).Perm (registry.map Prod.fst) :=
    (List.mergeSort_perm registry _).map Prod.fst
  have hne : registry.snapshot.Pairwise fun first second => first.1 ≠ second.1 :=
    List.pairwise_map.1 (hperm.nodup_iff.2 h)
  exact hsorted.imp₂ (fun _ _ hle hne => Nat.lt_of_le_of_ne hle hne) hne

end Registry

namespace World

variable {w u : World}

/-- Whether the close of a client has begun, and where the client was created. -/
def standing? (w : World) (client : ClientId) : Option (Bool × AllocationTrace) :=
  w.clients[client]?.map fun c => (c.closed, c.trace)

/-- There is one entry in the registry for each client that is not closed, and no other. -/
structure Registered (w : World) : Prop where
  nodup : (w.registry.map Prod.fst).Nodup
  mem : ∀ {id : Nat} {trace : AllocationTrace}, (id, trace) ∈ w.registry ↔
    ∃ client, id = client + 1 ∧ w.standing? client = some (false, trace)

theorem Registered.of_standing (h : w.Registered) (registry : u.registry = w.registry)
    (standing : ∀ client, u.standing? client = w.standing? client) : u.Registered where
  nodup := by rw [registry]; exact h.nodup
  mem := by simp only [registry, standing, h.mem, implies_true]

theorem Registered.of_eq (h : w.Registered) (registry : u.registry = w.registry)
    (clients : u.clients = w.clients) : u.Registered :=
  h.of_standing registry fun client => by rw [standing?, standing?, clients]

theorem standing?_modifyClient (w : World) (client other : ClientId) (change : Client → Client) :
    (w.modifyClient client change).standing? other =
      if client = other then w.clients[other]?.map fun c => ((change c).closed, (change c).trace)
      else w.standing? other := by
  simp only [standing?, modifyClient, List.getElem?_modify]
  cases w.clients[other]? with
  | none => simp
  | some c => by_cases h : client = other <;> simp [h]

/-- A change of a client that keeps it open or closed. -/
theorem Registered.modifyClient (h : w.Registered) (client : ClientId) {change : Client → Client}
    (hsame : ∀ c, ((change c).closed, (change c).trace) = (c.closed, c.trace)) :
    (w.modifyClient client change).Registered := by
  refine h.of_standing rfl fun other => ?_
  rw [standing?_modifyClient]
  split
  · simp only [hsame, standing?]
  · rfl

/-- A client that is closed loses its entry, and no other client does. -/
theorem Registered.markClosed (h : w.Registered) (client : ClientId) :
    (w.markClosed client).Registered where
  nodup := Registry.nodup_untrack h.nodup (client + 1)
  mem {id trace} := by
    show (id, trace) ∈ w.registry.untrack (client + 1) ↔
      ∃ other, id = other + 1 ∧ (w.modifyClient client _).standing? other = some (false, trace)
    rw [Registry.mem_untrack, h.mem]
    constructor
    · rintro ⟨⟨other, rfl, hstanding⟩, hne⟩
      refine ⟨other, rfl, ?_⟩
      rw [standing?_modifyClient, if_neg fun heq => hne (congrArg (· + 1) heq.symm)]
      exact hstanding
    · rintro ⟨other, rfl, hstanding⟩
      rw [standing?_modifyClient] at hstanding
      split at hstanding
      next =>
        obtain ⟨c, -, heq⟩ := Option.map_eq_some_iff.1 hstanding
        cases heq
      next hne => exact ⟨⟨other, rfl, hstanding⟩, fun heq => hne (Nat.succ.inj heq).symm⟩

/-- A new client that is open gets an entry, and no other client does. -/
theorem Registered.placeClient (h : w.Registered) {c : Client} (hopen : c.closed = false) :
    (w.placeClient c).Registered where
  nodup := Registry.nodup_track h.nodup _ _
  mem {id trace} := by
    have hstanding : ∀ other, (w.placeClient c).standing? other =
        if other = w.clients.length then some (false, c.trace) else w.standing? other := by
      intro other
      simp only [standing?, World.placeClient, List.getElem?_append, List.getElem?_singleton]
      grind
    have hnone : w.standing? w.clients.length = none := by
      rw [standing?, List.getElem?_eq_none (Nat.le_refl _), Option.map_none]
    show (id, trace) ∈ w.registry.track (w.clients.length + 1) c.trace ↔ _
    simp only [Registry.mem_track, h.mem, hstanding]
    grind

/-- Where the clients were created, the oldest client first. -/
def traces (w : World) : List AllocationTrace :=
  w.clients.map Client.trace

end World

end Remoting
