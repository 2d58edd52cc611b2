import Remoting.Proofs.Acting

/-!
# Changes of a client

A task changes a client only while it has the lock of that client. `Work` is such a change: it makes
calls for the client and may change its connection, and it leaves everything else alone. `Relocks`
is a change of locks, which takes no lock away from another task. After both the calls of a world
still fit.
-/

namespace Remoting.World

variable {w v u : World} {task : TaskId} {client : ClientId} {calls calls' : List Contact}

/-- The second world comes from the first by calls for a client and changes of its connection. -/
structure Work (client : ClientId) (calls : List Contact) (w u : World) : Prop
    extends Parts w u where
  same : SameTasks w u
  contacts : u.contacts = w.contacts ++ calls.map (client, ·)
  owner : ∀ other, u.owner? other = w.owner? other
  state : ∀ other, other ≠ client → u.state? other = w.state? other
  closed : ∀ other, other ≠ client → u.closed? other = w.closed? other

/-- The second world comes from the first by a task that asks for locks or leaves locks. -/
structure Relocks (task : TaskId) (w u : World) : Prop extends Parts w u where
  same : SameTasks w u
  contacts : u.contacts = w.contacts
  lock : ∀ {client : ClientId} {owner : TaskId}, w.owner? client = some owner → owner ≠ task →
    u.owner? client = some owner
  state : ∀ client, u.state? client = w.state? client
  closed : ∀ client, u.closed? client = w.closed? client
  cancelled : u.cancelled = w.cancelled
  endpoints : u.endpoints.length = w.endpoints.length

/-! ## Work -/

theorem Work.trans (h : Work client calls w v) (h' : Work client calls' v u) :
    Work client (calls ++ calls') w u where
  toParts := h.toParts.trans h'.toParts
  same := h.same.trans h'.same
  contacts := by rw [h'.contacts, h.contacts, List.map_append, List.append_assoc]
  owner other := (h'.owner other).trans (h.owner other)
  state other hne := (h'.state other hne).trans (h.state other hne)
  closed other hne := (h'.closed other hne).trans (h.closed other hne)

theorem Quiet.work (h : Quiet w u) (client : ClientId) : Work client [] w u where
  toParts := h.toParts
  same := h.same
  contacts := by rw [h.contacts, List.map_nil, List.append_nil]
  owner := h.owner
  state other _ := h.state other
  closed other _ := h.closed other

theorem work_contact (w : World) (client : ClientId) (call : Contact) :
    Work client [call] w (w.contact client call) where
  toParts := .of_eq rfl rfl rfl
  same := ⟨rfl, rfl, rfl⟩
  contacts := rfl
  owner _ := rfl
  state _ _ := rfl
  closed _ _ := rfl

/-- A change of a client that leaves its lock alone. -/
theorem work_modifyClient (w : World) (client : ClientId) {change : Client → Client}
    (hlock : ∀ c, (change c).lock = c.lock) : Work client [] w (w.modifyClient client change) where
  toParts := .of_eq rfl rfl rfl
  same := ⟨rfl, rfl, rfl⟩
  contacts := (List.append_nil _).symm
  owner other := by
    simp only [owner?, modifyClient, List.getElem?_modify]
    cases w.clients[other]? with
    | none => rfl
    | some c => by_cases h : client = other <;> simp [h, hlock]
  state other hne := by
    simp [state?, modifyClient, Ne.symm hne]
  closed other hne := by
    simp [closed?, modifyClient, Ne.symm hne]

theorem work_markClosed (w : World) (client : ClientId) :
    Work client [] w (w.markClosed client) := by
  have hmark : Work client [] w
      (w.modifyClient client fun c => { c with state := .closed (.ok ()), closed := true }) :=
    work_modifyClient w client fun _ => rfl
  exact hmark.trans ((quiet_untrack _ client).work client)

theorem state?_modifyClient (w : World) (client : ClientId) (change : Client → Client) :
    (w.modifyClient client change).state? client =
      w.clients[client]?.map fun c => (change c).state := by
  simp [state?, modifyClient, Function.comp_def]

theorem closed?_modifyClient (w : World) (client : ClientId) (change : Client → Client) :
    (w.modifyClient client change).closed? client =
      w.clients[client]?.map fun c => (change c).closed := by
  simp [closed?, modifyClient, Function.comp_def]

theorem Work.history (h : Work client calls w u) :
    u.history client = w.history client ++ calls := by
  simp only [World.history, h.contacts, List.filterMap_append, List.filterMap_map]
  congr 1
  simp

theorem Work.history_ne (h : Work client calls w u) {other : ClientId} (hne : other ≠ client) :
    u.history other = w.history other := by
  simp only [World.history, h.contacts, List.filterMap_append, List.filterMap_map]
  simp [Ne.symm hne]

/-- Work that hands over no teardown is no end of one. -/
theorem Work.continues (h : Work client calls w u)
    (hcalls : ∀ call ∈ calls, call.isTeardown = false) : Continues w u := by
  have hold : ∀ {other : ClientId} {joined : TaskId} {t : Teardown},
      (other, .teardown joined t) ∈ u.contacts → (other, .teardown joined t) ∈ w.contacts := by
    intro other joined t hentry
    rw [h.contacts, List.mem_append, List.mem_map] at hentry
    rcases hentry with hentry | ⟨call, hcall, heq⟩
    · exact hentry
    · cases heq
      cases hcalls _ hcall
  exact
    { toParts := h.toParts
      started := fun hstarted => by
        simpa only [Started, h.same.tasks, h.same.finish?] using hstarted
      contacts := ⟨_, h.contacts.symm⟩
      handed := fun hentry => .inl (hold hentry)
      finished := fun hfinish => by rwa [h.same.finish?]
      nextTask := Nat.le_of_eq h.same.nextTask.symm
      ended := fun hentry hfinish => by
        rw [h.same.finish?] at hfinish
        exact .inr ⟨hold hentry, hfinish⟩ }

/-- Work at a client whose lock the task has respects all other tasks. -/
theorem Work.respects (h : Work client calls w u) (howner : w.owner? client = some task)
    (hgrows : Grows w u) : Respects (some task) w u where
  toGrows := hgrows
  others {other owner} hother hactive := by
    have hne : other ≠ client := by
      rintro rfl
      rw [howner] at hother
      exact hactive hother
    exact ⟨(h.owner other).trans hother, h.state other hne, h.history_ne hne⟩

/-- The calls still fit after work at a client whose lock the task has, if it keeps the client as it
has to be. -/
theorem Work.proceeds (h : Work client calls w u) (hfit : w.CallsFit (some task))
    (howner : w.owner? client = some task) (hcalls : ∀ call ∈ calls, call.isTeardown = false)
    (hclient : u.ClientOk client) : Proceeds task w u where
  toContinues := h.continues hcalls
  fits :=
    { toOrderly := hfit.of_respects h.same (h.respects howner (h.continues hcalls).toGrows)
      clients := fun other => by
        by_cases hne : other = client
        · rw [hne]
          exact hclient
        · exact (hfit.clients other).of_eq (h.continues hcalls) (h.state other hne)
            (h.closed other hne) (h.history_ne hne) }

/-! ## Locks -/

theorem Relocks.trans (h : Relocks task w v) (h' : Relocks task v u) : Relocks task w u where
  toParts := h.toParts.trans h'.toParts
  same := h.same.trans h'.same
  contacts := h'.contacts.trans h.contacts
  lock howner hne := h'.lock (h.lock howner hne) hne
  state client := (h'.state client).trans (h.state client)
  closed client := (h'.closed client).trans (h.closed client)
  cancelled := h'.cancelled.trans h.cancelled
  endpoints := h'.endpoints.trans h.endpoints

/-- A change of the lock of a client that does not take it from another task. -/
theorem relocks_modifyClient (w : World) (client : ClientId) (change : Lock → Lock)
    (hlock : ∀ {lock owner}, lock.owner = some owner → owner ≠ task →
      (change lock).owner = some owner) :
    Relocks task w (w.modifyClient client fun c => { c with lock := change c.lock }) where
  toParts := .of_eq rfl rfl rfl
  same := ⟨rfl, rfl, rfl⟩
  contacts := rfl
  lock {other owner} howner hne := by
    simp only [owner?, modifyClient, List.getElem?_modify] at howner ⊢
    obtain ⟨c, hc, howner⟩ := Option.bind_eq_some_iff.1 howner
    rw [hc]
    by_cases h : client = other
    · simpa [h] using hlock howner hne
    · simpa [h] using howner
  state other := by
    simp only [state?, modifyClient, List.getElem?_modify]
    cases w.clients[other]? with
    | none => rfl
    | some c => by_cases h : client = other <;> simp [h]
  closed other := by
    simp only [closed?, modifyClient, List.getElem?_modify]
    cases w.clients[other]? with
    | none => rfl
    | some c => by_cases h : client = other <;> simp [h]
  cancelled := rfl
  endpoints := rfl

theorem Quiet.relocks (h : Quiet w u) (task : TaskId) : Relocks task w u :=
  ⟨h.toParts, h.same, h.contacts, fun howner _ => (h.owner _).trans howner, h.state, h.closed,
    h.cancelled, h.endpoints⟩

theorem relocks_requestLock (w : World) (task : TaskId) (client : ClientId) :
    Relocks task w (w.requestLock task client) :=
  relocks_modifyClient w client (·.request task) fun howner _ =>
    Lock.owner_request_of_owner howner task

theorem relocks_leaveLock (w : World) (task : TaskId) (client : ClientId) :
    Relocks task w (w.leaveLock task client) := by
  have hleave : Relocks task w
      (w.modifyClient client fun c => { c with lock := c.lock.leave task }) := by
    refine relocks_modifyClient w client (·.leave task) fun {lock owner} howner hne => ?_
    rw [Lock.owner_leave_of_ne fun heq => hne (Option.some.inj (howner.symm.trans heq)), howner]
  unfold leaveLock
  dsimp only
  split
  · exact hleave.trans ((quiet_signal _ _).relocks task)
  · exact hleave

theorem Relocks.continues (h : Relocks task w u) : Continues w u where
  toParts := h.toParts
  started hstarted := by
    simpa only [Started, h.same.tasks, h.same.finish?] using hstarted
  contacts := h.contacts ▸ List.prefix_rfl
  handed hentry := by
    rw [h.contacts] at hentry
    exact .inl hentry
  finished hfinish := by rwa [h.same.finish?]
  nextTask := Nat.le_of_eq h.same.nextTask.symm
  ended hentry hfinish := by
    rw [h.contacts] at hentry
    rw [h.same.finish?] at hfinish
    exact .inr ⟨hentry, hfinish⟩

theorem Relocks.respects (h : Relocks task w u) : Respects (some task) w u where
  toGrows := h.continues.toGrows
  others howner hactive :=
    ⟨h.lock howner fun heq => hactive (congrArg some heq.symm), h.state _,
      history_of_contacts h.contacts _⟩

theorem Relocks.proceeds (h : Relocks task w u) (hfit : w.CallsFit (some task)) :
    Proceeds task w u where
  toContinues := h.continues
  fits :=
    { toOrderly := hfit.of_respects h.same h.respects
      clients := fun client => (hfit.clients client).of_eq h.continues (h.state client)
        (h.closed client) (history_of_contacts h.contacts client) }

end Remoting.World
