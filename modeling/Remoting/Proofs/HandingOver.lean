import Remoting.Proofs.Closing

/-!
# Handing over a teardown

What a close does when it finds its client open, and what it does when it finds it closed or its
teardown lost. `HandsOver` is the moment at which the client has become closed: the calls so far
have led to the endpoint and the strategy that the teardown takes over, and the new task has made no
call yet. If nothing runs any more the new task is lost, otherwise it gets the lock.
-/

namespace Remoting.World

variable {w v u : World} {task : TaskId} {client : ClientId} {frames : List Frame} {reply : Reply}
  {t : Teardown} {active : Option TaskId}

/-- The second world comes from the first by handing the teardown of a client to a new task. -/
structure HandsOver (client : ClientId) (t : Teardown) (w u : World) : Prop extends Parts w u where
  contacts : u.contacts = w.contacts ++ [(client, .teardown w.nextTask t)]
  owner : ∀ other, u.owner? other = w.owner? other
  state : ∀ other, other ≠ client → u.state? other = w.state? other
  closed : ∀ other, other ≠ client → u.closed? other = w.closed? other
  state_eq : u.state? client = some (.closed (.ok ()))
  closed_eq : u.closed? client = some true
  nextTask : u.nextTask = w.nextTask + 1
  running : u.running = w.running
  tasks : u.tasks = w.tasks ++
    if w.running then [⟨w.nextTask, .call (.teardown t .shutdown), [], none, none⟩] else []
  finished : u.finished =
    if w.running then w.finished else (w.noteFinish w.nextTask .aborted).finished

theorem handOver_spec (hclient : ∃ c, w.clients[client]? = some c) (t : Teardown) :
    (w.handOver client t).1 = w.nextTask ∧ HandsOver client t w (w.handOver client t).2 := by
  obtain ⟨c, hc⟩ := hclient
  have hmark : Work client [] w (w.markClosed client) := work_markClosed w client
  have hstate : (w.markClosed client).state? client = some (.closed (.ok ())) := by
    refine (state?_modifyClient w client _).trans ?_
    rw [hc]
    rfl
  have hclosed : (w.markClosed client).closed? client = some true := by
    refine (closed?_modifyClient w client _).trans ?_
    rw [hc]
    rfl
  have hrunning : (w.markClosed client).running = w.running := rfl
  cases hrun : w.running with
  | true =>
      have heq : w.handOver client t = (w.nextTask, ((w.markClosed client).addTask
          (.call (.teardown t .shutdown)) [] none none).2.contact client
            (.teardown w.nextTask t)) := by
        simp only [handOver, World.spawn, hrunning, hrun, if_true]
        rfl
      rw [heq]
      exact ⟨rfl, ⟨.of_eq rfl rfl rfl, rfl, hmark.owner, hmark.state, hmark.closed, hstate, hclosed,
        rfl, rfl, by rw [hrun]; rfl, by rw [hrun]; rfl⟩⟩
  | false =>
      have heq : w.handOver client t = (w.nextTask,
          ({ w.markClosed client with nextTask := w.nextTask + 1 }.noteFinish w.nextTask
            .aborted).contact client (.teardown w.nextTask t)) := by
        simp only [handOver, World.spawn, hrunning, hrun, Bool.false_eq_true, if_false]
        rfl
      rw [heq]
      exact ⟨rfl, ⟨.of_eq rfl rfl rfl, rfl, hmark.owner, hmark.state, hmark.closed, hstate, hclosed,
        rfl, rfl, by rw [hrun]; exact (List.append_nil _).symm, by rw [hrun]; rfl⟩⟩

/-! ## What a handed over teardown leaves alone -/

theorem HandsOver.finish? (h : HandsOver client t w u) (hfit : w.Orderly active)
    {other : TaskId} {finish : Finish} :
    u.finish? other = some finish ↔ w.finish? other = some finish ∨
      w.running = false ∧ other = w.nextTask ∧ finish = .aborted := by
  rw [World.finish?, h.finished]
  cases w.running with
  | true => simp [World.finish?]
  | false =>
      have hnone : w.finish? w.nextTask = none := by
        cases hfinish : w.finish? w.nextTask with
        | none => rfl
        | some finish => exact absurd (hfit.past hfinish) (Nat.lt_irrefl _)
      have hlookup := finish?_noteFinish w w.nextTask .aborted other
      simp only [Bool.false_eq_true, if_false, true_and]
      rw [World.finish?] at hlookup
      rw [hlookup]
      by_cases heq : other = w.nextTask
      · subst heq
        simp [hnone, eq_comm]
      · simp [heq]

/-- The new task begins with the first stage of the teardown, unless nothing runs any more. -/
theorem HandsOver.task?_nextTask (h : HandsOver client t w u) (hfit : w.Orderly active) :
    u.task? w.nextTask =
      if w.running then some ⟨w.nextTask, .call (.teardown t .shutdown), [], none, none⟩
      else none := by
  have hfresh : w.tasks.find? (fun t => decide (t.id = w.nextTask)) = none :=
    List.find?_eq_none.2 fun t ht hid =>
      Nat.lt_irrefl _ (of_decide_eq_true hid ▸ hfit.fresh ht)
  rw [World.task?, h.tasks, List.find?_append, hfresh, Option.none_or]
  split
  · simp
  · rfl

theorem HandsOver.mem_contacts (h : HandsOver client t w u) {other : ClientId} {joined : TaskId}
    {t' : Teardown} :
    (other, .teardown joined t') ∈ u.contacts ↔ (other, .teardown joined t') ∈ w.contacts ∨
      other = client ∧ joined = w.nextTask ∧ t' = t := by
  rw [h.contacts, List.mem_append, List.mem_singleton]
  simp

theorem HandsOver.history (h : HandsOver client t w u) :
    u.history client = w.history client ++ [.teardown w.nextTask t] := by
  simp [World.history, h.contacts]

theorem HandsOver.history_ne (h : HandsOver client t w u) {other : ClientId}
    (hne : other ≠ client) : u.history other = w.history other := by
  simp [World.history, h.contacts, Ne.symm hne]

theorem HandsOver.continues (h : HandsOver client t w u) (hfit : w.Orderly active) :
    Continues w u where
  toParts := h.toParts
  contacts := ⟨_, h.contacts.symm⟩
  handed hentry := by
    rcases h.mem_contacts.1 hentry with hentry | ⟨-, rfl, -⟩
    · exact .inl hentry
    · refine .inr ⟨Nat.le_refl _, ?_⟩
      rw [h.nextTask]
      exact Nat.lt_succ_self _
  finished hfinish := (h.finish? hfit).2 (.inl hfinish)
  nextTask := by
    rw [h.nextTask]
    exact Nat.le_succ _
  started hstarted := by
    rcases hstarted with ⟨t', ht', hid⟩ | ⟨finish, hfinish⟩
    · refine .inl ⟨t', ?_, hid⟩
      rw [h.tasks]
      exact List.mem_append_left _ ht'
    · exact .inr ⟨finish, (h.finish? hfit).2 (.inl hfinish)⟩
  ended hentry hfinish := by
    rcases (h.finish? hfit).1 hfinish with hfinish | ⟨-, -, rfl⟩
    · rcases h.mem_contacts.1 hentry with hentry | ⟨-, rfl, -⟩
      · exact .inr ⟨hentry, hfinish⟩
      · exact absurd (hfit.past hfinish) (Nat.lt_irrefl _)
    · exact .inl rfl

/-- The client that was open is closed as it has to be, and the other clients are as before. -/
theorem HandsOver.clients (h : HandsOver client t w u) (hfit : w.CallsFit active)
    (hclient : t.client = client)
    (hstate : w.state? client = some (.opened t.endpoint t.strategy)) (other : ClientId) :
    u.ClientOk other := by
  have hgoes := h.continues hfit.toOrderly
  by_cases hne : other = client
  · subst hne
    obtain ⟨-, hopened, hhas⟩ := (hfit.clients other).of_opened hstate
    have hbefore : ∀ call ∈ w.history other, call.isTeardown = false :=
      fun call => hopened.not_isTeardown
    -- nothing has been handed over so far, so the journal splits at this teardown
    have hfirst : beforeTeardown (u.history other) = w.history other := by
      rw [h.history, beforeTeardown_split hbefore]
    have hlast : afterTeardown (u.history other) = [] := by
      rw [h.history, afterTeardown_split hbefore]
    rw [ClientOk, h.state_eq]
    refine ⟨h.closed_eq, w.nextTask, t, ?_⟩
    exact
      { state := h.state_eq
        history := by rw [hfirst, hlast, h.history]
        client_eq := hclient
        opened := by rwa [hfirst]
        has := hhas.parts h.toParts
        calls := ⟨false, false, by rw [hlast]; exact List.nil_prefix⟩
        started := by
          cases hrunning : w.running with
          | true =>
              refine .inl ⟨⟨w.nextTask, .call (.teardown t .shutdown), [], none, none⟩, ?_, rfl⟩
              rw [h.tasks, hrunning]
              exact List.mem_append_right _ (List.mem_singleton_self _)
          | false => exact .inr ⟨_, (h.finish? hfit.toOrderly).2 (.inr ⟨hrunning, rfl, rfl⟩)⟩
        ended := fun hfinish => by
          rcases (h.finish? hfit.toOrderly).1 hfinish with hfinish | ⟨-, -, rfl⟩
          · exact absurd (hfit.past hfinish) (Nat.lt_irrefl _)
          · exact .inl rfl }
  · exact (hfit.clients other).of_eq hgoes (h.state other hne) (h.closed other hne)
      (h.history_ne hne)

/-! ## Passing on the lock -/

theorem owner?_giveLock (hclient : ∃ c, w.clients[client]? = some c) (task : TaskId) :
    (w.giveLock client task).owner? client = some task := by
  obtain ⟨c, hc⟩ := hclient
  simp [owner?, giveLock, modifyClient, Lock.give, hc]

theorem owner?_giveLock_ne {other : ClientId} (hne : other ≠ client) (task : TaskId) :
    (w.giveLock client task).owner? other = w.owner? other := by
  simp [owner?, giveLock, modifyClient, Ne.symm hne]

theorem state?_giveLock (w : World) (client : ClientId) (task : TaskId) (other : ClientId) :
    (w.giveLock client task).state? other = w.state? other := by
  simp only [state?, giveLock, modifyClient, List.getElem?_modify]
  cases w.clients[other]? with
  | none => rfl
  | some c => by_cases h : client = other <;> simp [h]

theorem closed?_giveLock (w : World) (client : ClientId) (task : TaskId) (other : ClientId) :
    (w.giveLock client task).closed? other = w.closed? other := by
  simp only [closed?, giveLock, modifyClient, List.getElem?_modify]
  cases w.clients[other]? with
  | none => rfl
  | some c => by_cases h : client = other <;> simp [h]

theorem continues_giveLock (w : World) (client : ClientId) (task : TaskId) :
    Continues w (w.giveLock client task) where
  toParts := .of_eq rfl rfl rfl
  contacts := List.prefix_rfl
  handed := .inl
  finished hfinish := hfinish
  nextTask := Nat.le_refl _
  started hstarted := hstarted
  ended hentry hfinish := .inr ⟨hentry, hfinish⟩

/-- In a running world the new task has the lock and waits for its first poll. -/
theorem HandsOver.giveLock (h : HandsOver client t w u) (hfit : w.CallsFit (some task))
    (hclient : t.client = client) (howner : w.owner? client = some task)
    (hstate : w.state? client = some (.opened t.endpoint t.strategy))
    (hrunning : w.running = true) :
    Proceeds task w (u.giveLock client w.nextTask) := by
  subst hclient
  have hgoes := (h.continues hfit.toOrderly).trans (continues_giveLock u t.client w.nextTask)
  obtain ⟨c, hc, -⟩ := state?_eq_some.1 h.state_eq
  have howner' : (u.giveLock t.client w.nextTask).owner? t.client = some w.nextTask :=
    owner?_giveLock ⟨c, hc⟩ _
  have hstate' : (u.giveLock t.client w.nextTask).state? t.client = some (.closed (.ok ())) :=
    (state?_giveLock u t.client _ _).trans h.state_eq
  have hrespects : Respects (some task) w (u.giveLock t.client w.nextTask) := by
    refine ⟨hgoes.toGrows, fun {other owner} hother hactive => ?_⟩
    have hne : other ≠ t.client := by
      rintro rfl
      rw [howner] at hother
      exact hactive hother
    refine ⟨?_, (state?_giveLock u _ _ other).trans (h.state other hne), h.history_ne hne⟩
    rw [owner?_giveLock_ne hne, h.owner, hother]
  have hopened := ((hfit.clients t.client).of_opened hstate).2.1
  have hlast : afterTeardown (u.history t.client) = [] := by
    rw [h.history, afterTeardown_split fun call => hopened.not_isTeardown]
  have hhanded : .teardown w.nextTask t ∈ u.history t.client := by
    rw [h.history]
    exact List.mem_append_right _ (List.mem_singleton_self _)
  refine ⟨hgoes, ?_, fun other => ?_⟩
  · refine hfit.new hrespects
      (t := ⟨w.nextTask, .call (.teardown t .shutdown), [], none, none⟩) rfl ?_ h.nextTask ?_
      (.inl rfl) rfl ?_
    · exact h.tasks.trans (by rw [hrunning, if_pos rfl])
    · exact h.finished.trans (by rw [hrunning, if_pos rfl])
    · exact
        { typed := by
            refine ⟨nofun, fun other t' hentry => ?_⟩
            rcases h.mem_contacts.1 hentry with hentry | ⟨-, -, rfl⟩
            · exact absurd (hfit.handed hentry) (Nat.lt_irrefl _)
            · rfl
          callHolds := fun hsome => by
            cases hsome
            exact ⟨howner', ⟨_, hstate'⟩, hhanded, hlast⟩
          frameHolds := nofun }
  · exact (h.clients hfit rfl hstate other).of_eq (continues_giveLock u t.client w.nextTask)
      (state?_giveLock u _ _ other) (closed?_giveLock u _ _ other) rfl

/-- Where nothing runs any more the new task is lost, and the lock can be left. -/
theorem HandsOver.lose (h : HandsOver client t w u) (hfit : w.CallsFit (some task))
    (hclient : t.client = client) (howner : w.owner? client = some task)
    (hstate : w.state? client = some (.opened t.endpoint t.strategy))
    (hrunning : w.running = false) : Proceeds task w u := by
  have hgoes := h.continues hfit.toOrderly
  have hrespects : Respects (some task) w u := by
    refine ⟨hgoes.toGrows, fun {other owner} hother hactive => ?_⟩
    have hne : other ≠ client := by
      rintro rfl
      rw [howner] at hother
      exact hactive hother
    exact ⟨(h.owner other).trans hother, h.state other hne, h.history_ne hne⟩
  refine ⟨hgoes, hfit.lose hrespects ?_ h.nextTask ?_, h.clients hfit hclient hstate⟩
  · exact h.tasks.trans (by rw [hrunning]; exact List.append_nil _)
  · exact h.finished.trans (by rw [hrunning]; rfl)

/-! ## Closes -/

theorem At.close {interrupt : Option TokenName}
    (h : w.At task (.call (.close client interrupt)) frames) :
    Advances task w (w.close task client interrupt frames) := by
  have hstack : w.Stack task (.close client) frames := h.typed
  have hlocks := relocks_requestLock w task client
  refine .goto (hlocks.proceeds h.fits) (.free ⟨rfl, ?_⟩ ?_ rfl)
  · exact hstack.grow hlocks.continues.toGrows h.fresh
  · exact List.forall_mem_cons.2 ⟨rfl, hstack.hold?_eq_none rfl⟩

/-- Leaving the lock ends a close with a reply. -/
theorem Proceeds.endClose (h : Proceeds task w v) (hstack : v.Stack task (.close client) frames)
    (reply : Reply) :
    Advances task w ((v.leaveLock task client).answer task reply frames) := by
  have hlocks := relocks_leaveLock v task client
  refine .goto (h.trans (hlocks.proceeds h.fits)) (.free ?_ (hstack.hold?_eq_none rfl) rfl)
  exact ⟨.close client, hstack.keep hlocks.continues.toGrows fun hentry => by
    rwa [hlocks.contacts] at hentry, trivial⟩

/-- A close that has got the lock hands over the teardown, unless the client is closed. -/
theorem At.lockedClose {interrupt : Option TokenName}
    (h : w.At task (.reply reply) (.closeLock client interrupt :: frames)) :
    Advances task w (w.lockedClose task client interrupt frames) := by
  obtain ⟨job, rfl, hstack, howner⟩ := h.reply
  have hproceeds := (Quiet.refl w).proceeds h.fits
  unfold World.lockedClose
  split
  next endpoint strategy hstate =>
    obtain ⟨c, hc, -⟩ := state?_eq_some.1 hstate
    obtain ⟨hjoined, hover⟩ := handOver_spec ⟨c, hc⟩ ⟨client, endpoint, strategy, interrupt⟩
    generalize w.handOver client ⟨client, endpoint, strategy, interrupt⟩ = pair at hjoined hover
    obtain ⟨joined, u⟩ := pair
    dsimp only at hjoined hover ⊢
    subst hjoined
    have hhanded : (client, .teardown w.nextTask ⟨client, endpoint, strategy, interrupt⟩) ∈
        u.contacts := hover.mem_contacts.2 (.inr ⟨rfl, rfl, rfl⟩)
    -- wherever the lock goes, the close waits for the task that was handed the teardown
    have hwait : ∀ {v : World}, Proceeds task w v → v.contacts = u.contacts →
        Advances task w (v.await task (.join w.nextTask) (.closeJoin client :: frames)) := by
      intro v hv hcontacts
      refine .goto hv (.free ⟨⟨_, _, rfl, hcontacts ▸ hhanded⟩, ?_⟩ ?_ rfl)
      · exact hstack.grow hv.toGrows h.fresh
      · exact List.forall_mem_cons.2 ⟨rfl, hstack.hold?_eq_none rfl⟩
    split
    next hrunning =>
      rw [hover.running] at hrunning
      exact hwait (hover.giveLock h.fits rfl howner hstate hrunning) rfl
    next hrunning =>
      rw [hover.running, Bool.not_eq_true] at hrunning
      have hlost := hover.lose h.fits rfl howner hstate hrunning
      have hlocks := relocks_leaveLock u task client
      exact hwait (hlost.trans (hlocks.proceeds hlost.fits)) hlocks.contacts
  next => exact hproceeds.endClose hstack _
  next => exact hproceeds.endClose hstack _

/-- A close whose teardown was lost asks for the lock to note that. -/
theorem At.closeLost (h : w.At task .lost (.closeJoin client :: frames)) :
    Advances task w (w.closeLost task client frames) := by
  obtain ⟨joined, ⟨⟨joined', t, hjob, hhanded⟩, hstack⟩, haborted⟩ := h.typed
  cases hjob
  have hswallow := quiet_swallow w client .join lostTeardown
  have hlocks := relocks_requestLock (w.swallow client .join lostTeardown) task client
  have hlogged := hswallow.proceeds h.fits
  have hproceeds := hlogged.trans (hlocks.proceeds hlogged.fits)
  refine .goto hproceeds (.free ⟨⟨rfl, rfl, joined, t, ?_, ?_⟩, ?_⟩ ?_ rfl)
  · exact hproceeds.mem hhanded
  · exact hproceeds.finished haborted
  · exact hstack.grow hproceeds.toGrows h.fresh
  · exact List.forall_mem_cons.2 ⟨rfl, hstack.hold?_eq_none rfl⟩

/-- A close whose teardown was lost notes that at the client. -/
theorem At.recordFailure {error : Error}
    (h : w.At task (.reply reply) (.recordLock client error :: frames)) :
    Advances task w (w.recordFailure task client error frames) := by
  obtain ⟨job, ⟨rfl, -, joined, t, hhanded, haborted⟩, hstack, howner⟩ := h.reply
  obtain ⟨outcome, hclosing⟩ := (h.fits.clients client).closing (mem_history.2 hhanded)
  have hwork := work_recordOutcome w client (.error error.clone)
  have hrecord := hclosing.work h.fits (by simp [haborted]) howner hwork
    (state?_recordOutcome hclosing.state _) (closed?_recordOutcome w client _)
    (by simpa using hclosing.calls)
  exact hrecord.endClose (hstack.grow hrecord.toGrows h.fresh) _

end Remoting.World
