import Remoting.Proofs.Moments

/-!
# Closed once and for all

The teardown of a client is handed to one task, and every call of it is made at most once. From the
moment when the client is marked as closed nothing is made for it any more, and when the teardown
has come to its end it has closed whatever had been made before.
-/

namespace Remoting

/-- The kind of an entry: entries of one kind are calls of one function of a collaborator, or say
the same of a teardown. -/
def Contact.kind (call : Contact) : Nat :=
  call.ctorIdx

/-- What the factory has yielded for a client was closed. -/
structure NothingLeft (calls : List Contact) : Prop where
  strategies : ∀ {strategy : StrategyId}, .strategyCreated strategy ∈ calls →
    .closeStrategy strategy ∈ calls
  endpoints : ∀ {endpoint : EndpointId}, .endpointCreated endpoint ∈ calls →
    .closeEndpoint endpoint ∈ calls

namespace Teardown

variable {t : Teardown} {skipDrain skipWait : Bool}

/-- The calls of a teardown are of different kinds. -/
theorem nodup_kind (t : Teardown) (task : TaskId) (skipDrain skipWait : Bool) :
    ((.teardown task t :: t.sequence skipDrain skipWait).map Contact.kind).Nodup := by
  obtain ⟨client, endpoint, strategy, interrupt⟩ := t
  cases endpoint <;> cases strategy <;> cases skipDrain <;> cases skipWait <;>
    exact of_decide_eq_true rfl

theorem closeStrategy_mem {strategy : StrategyId} (h : t.strategy = some strategy) :
    .closeStrategy strategy ∈ t.sequence skipDrain skipWait := by
  simp [sequence, closingCalls, strategyCalls, h]

theorem closeEndpoint_mem {endpoint : EndpointId} (h : t.endpoint = some endpoint) :
    .closeEndpoint endpoint ∈ t.sequence skipDrain skipWait := by
  simp [sequence, closingCalls, endpointCalls, h]

end Teardown

namespace World

variable {w u : World} {client : ClientId} {task : TaskId}

/-- The calls that do not connect a client are of different kinds. -/
theorem ClientOk.nodup_kind (h : w.ClientOk client) :
    (((w.history client).filter fun call => !call.isConnecting).map Contact.kind).Nodup := by
  have hfilter : ∀ {calls : List Contact}, (∀ call ∈ calls, call.isConnecting = true) →
      calls.filter (fun call => !call.isConnecting) = [] := by
    intro calls hcalls
    exact List.filter_eq_nil_iff.2 fun call hcall => by simp [hcalls call hcall]
  unfold ClientOk at h
  split at h
  next =>
    rw [h]
    exact .nil
  next =>
    rw [hfilter fun call => h.2.1.isConnecting]
    exact .nil
  next =>
    obtain ⟨-, joined, t, hclosing⟩ := h
    obtain ⟨skipDrain, skipWait, hinitial⟩ := hclosing.calls
    rw [hclosing.history, List.filter_append, hfilter fun call => hclosing.opened.isConnecting,
      List.nil_append]
    refine (t.nodup_kind joined skipDrain skipWait).sublist (List.Sublist.map _ ?_)
    exact List.filter_sublist.trans (hinitial.sublist.cons_cons _)

/-- A client is marked as closed as soon as its connection is. -/
theorem ClientOk.of_closed (h : w.ClientOk client) (hclosed : w.closed? client = some true) :
    ∃ outcome, w.state? client = some (.closed outcome) ∧
      ∃ task t, w.Closing client outcome task t := by
  unfold ClientOk at h
  split at h
  next hstate =>
    obtain ⟨c, hc, -⟩ := Option.map_eq_some_iff.1 hclosed
    rw [state?, hc] at hstate
    cases hstate
  next =>
    rw [hclosed] at h
    cases h.1
  next outcome hstate => exact ⟨outcome, hstate, h.2⟩

/-- Once a client is closed no call that connects it is made. -/
theorem Closing.later {outcome : Except Error Unit} {t : Teardown}
    (h : w.Closing client outcome task t) (hu : u.ClientOk client) (hgrows : Grows w u) :
    ∃ later, u.history client = w.history client ++ later ∧
      ∀ call ∈ later, call.isConnecting = false := by
  obtain ⟨later, hlater⟩ := hgrows.history client
  refine ⟨later, hlater, fun call hcall => ?_⟩
  obtain ⟨outcome', hclosing⟩ := hu.closing (hlater ▸ List.mem_append_left later h.handed)
  obtain ⟨skipDrain, skipWait, hinitial⟩ := hclosing.calls
  rw [hlater, afterTeardown_append h.handed] at hinitial
  exact Teardown.not_isConnecting_of_mem (hinitial.subset (List.mem_append_right _ hcall))

/-- A teardown that has come to its end has closed what its client had. -/
theorem Closing.nothingLeft {outcome : Except Error Unit} {t : Teardown} {finish : Finish}
    (h : w.Closing client outcome task t) (hfinish : w.finish? task = some finish)
    (hvalue : finish ≠ .aborted) : NothingLeft (w.history client) := by
  rcases h.ended hfinish with haborted | ⟨result, -, -, skipDrain, skipWait, hcalls⟩
  · exact absurd haborted hvalue
  have hafter : ∀ {call : Contact}, call ∈ t.sequence skipDrain skipWait →
      call ∈ w.history client := by
    intro call hcall
    rw [h.history, hcalls]
    exact List.mem_append_right _ (List.mem_cons_of_mem _ hcall)
  exact
    { strategies := fun {strategy} hcall => hafter (Teardown.closeStrategy_mem
        ((h.opened.strategyCreated_iff strategy).1 ((h.connecting_iff rfl).1 hcall)))
      endpoints := fun {endpoint} hcall => hafter (Teardown.closeEndpoint_mem
        ((h.opened.endpointCreated_iff endpoint).1 ((h.connecting_iff rfl).1 hcall))) }

/-! ## Refused calls -/

/-- Nothing that belongs to a collaborator differs, and nothing was noted. -/
structure Untouched (w u : World) : Prop where
  contacts : u.contacts = w.contacts
  events : u.events = w.events
  log : u.log = w.log
  handlers : u.handlers = w.handlers
  endpoints : u.endpoints = w.endpoints
  strategies : u.strategies = w.strategies
  configs : u.configs = w.configs

theorem untouched_endChannel (w : World) (task : TaskId) (client : ClientId) (reply : Reply)
    (frames : List Frame) : Untouched w (w.endChannel task client reply frames) := by
  unfold World.endChannel leaveLock
  dsimp only
  split <;> exact ⟨rfl, rfl, rfl, rfl, rfl, rfl, rfl⟩

/-- A call for a channel that gets the lock of a closed client is refused. -/
theorem lockedChannel_closed {outcome : Except Error Unit}
    (hstate : w.state? client = some (.closed outcome)) (frames : List Frame) :
    w.lockedChannel task client frames =
      w.endChannel task client (.error (.closed clientName)) frames := by
  obtain ⟨c, hc, hclosed⟩ := state?_eq_some.1 hstate
  unfold World.lockedChannel
  rw [hc]
  split
  next heq _ =>
    cases heq
    rw [hclosed]
  next => rfl

end World

namespace Moment

variable {m : Moment} {client : ClientId}

/-- A call for a channel that gets the lock of a client after its close has begun is refused, and no
collaborator is touched. -/
theorem CallsFit.refused (h : m.CallsFit) {t : Task} {frames : List Frame} (ht : m.polled? = some t)
    (hcontrol : t.control = .wait (.lock client)) (hframes : t.frames = .getLock client :: frames)
    (howns : m.world.ownsLock t.id client = true) (hclosed : m.world.closed? client = some true) :
    ∃ last, m.run [.step, .step] = some last ∧ m.world.Untouched last.world ∧
      last.polled? =
        some { t with control := .reply (.error (.closed "ManagementClient")), frames } := by
  obtain ⟨active, hfit⟩ := h.exists_callsFit
  obtain ⟨outcome, hstate, -⟩ := (hfit.clients client).of_closed hclosed
  have hfind := polled?_task? ht
  -- the first step sees that the task has the lock
  let granted := m.world.goto t.id (.reply (.ok .unit)) t.frames
  have hgranted : granted.task? t.id =
      some { t with control := .reply (.ok .unit), frames := t.frames } := by
    rw [World.task?_goto, hfind, Option.map_some]
  have hfirst : m.world.step? t.id = some granted := by
    simp only [World.step?, hfind, hcontrol, World.ready?, howns, if_true, Option.map_some, granted]
  -- the second one finds the client closed
  let refused := granted.endChannel t.id client (.error (.closed World.clientName)) frames
  have hsecond : granted.step? t.id = some refused := by
    have hlocked : granted.lockedChannel t.id client frames = refused :=
      World.lockedChannel_closed (w := granted) hstate frames
    simp only [World.step?, hgranted, hframes, World.resume, hlocked]
  have hafter : ∀ {u t'}, u.task? t.id = some t' → polled? ⟨u, m.polling⟩ = some t' := by
    intro u t' hfind'
    obtain ⟨expired, polls, -⟩ := exists_polling ht
    rw [polled?, polls]
    exact hfind'
  have hone : m.run [.step] = some ⟨granted, m.polling⟩ := by
    simp only [run, next_of_polled ht hfirst, Option.bind_eq_bind, Option.bind_some]
  have hrun : m.run [.step, .step] = some ⟨refused, m.polling⟩ :=
    (run_snoc hone .step).trans (next_of_polled (hafter hgranted) hsecond)
  refine ⟨_, hrun, ?_, hafter ?_⟩
  · have huntouched := World.untouched_endChannel granted t.id client
      (.error (.closed World.clientName)) frames
    exact ⟨huntouched.contacts, huntouched.events, huntouched.log, huntouched.handlers,
      huntouched.endpoints, huntouched.strategies, huntouched.configs⟩
  · have hsame := (World.relocks_leaveLock granted t.id client).same
    show World.task? (World.goto _ _ _ _) _ = _
    rw [World.task?_goto, World.task?, hsame.tasks, ← World.task?, hgranted]
    rfl

/-- The close of a client is done once and leaves nothing behind: every call that it consists of is
made at most once, nothing is made for the client once it has begun, and a teardown that has come to
its end has closed all that was made. -/
theorem closed_once (h : m.Reachable) (client : ClientId) :
    (((m.world.history client).filter fun call => !call.isConnecting).map Contact.kind).Nodup ∧
      (m.world.closed? client = some true →
        (∀ {moves last}, m.run moves = some last → ∃ later,
          last.world.history client = m.world.history client ++ later ∧
            ∀ call ∈ later, call.isConnecting = false) ∧
        ∀ {t frames}, m.polled? = some t → t.control = .wait (.lock client) →
          t.frames = .getLock client :: frames → m.world.ownsLock t.id client = true →
            ∃ last, m.run [.step, .step] = some last ∧ m.world.Untouched last.world ∧
              last.polled? =
                some { t with control := .reply (.error (.closed "ManagementClient")), frames }) ∧
      ∀ {task t finish}, .teardown task t ∈ m.world.history client →
        m.world.finish? task = some finish → finish ≠ .aborted →
          NothingLeft (m.world.history client) := by
  have hclient := h.clientOk client
  refine ⟨hclient.nodup_kind, fun hclosed => ⟨fun hrun => ?_, ?_⟩, fun hhanded hfinish hvalue => ?_⟩
  · obtain ⟨outcome, -, task, t, hclosing⟩ := hclient.of_closed hclosed
    exact hclosing.later ((h.run hrun).clientOk client) (h.grows hrun)
  · exact fun ht hcontrol hframes howns => h.fits.refused ht hcontrol hframes howns hclosed
  · obtain ⟨outcome, hclosing⟩ := hclient.closing hhanded
    exact hclosing.nothingLeft hfinish hvalue

/-- A client is connected and closed, and then a call for a channel gets its lock. -/
def lateCaller : List Move :=
  [.build (.recorded default) default, .act (.getChannel 0 "first")] ++ Move.pollAll 0 10 0 ++
    .act (.close 0 "close" none) :: (Move.pollAll 1 3 0 ++ Move.pollAll 2 23 0 ++
      Move.pollAll 1 3 0) ++ [.act (.getChannel 0 "late"), .poll 3, .step]

/-- The moment after these moves. -/
def late : Moment := (start.run lateCaller).get (by decide +kernel)

theorem closed_once_of_late_caller :
    late.Reachable ∧ NothingLeft (late.world.history 0) ∧
      (∀ {moves last}, late.run moves = some last → ∃ later,
        last.world.history 0 = late.world.history 0 ++ later ∧
          ∀ call ∈ later, call.isConnecting = false) ∧
      ∃ last, late.run [.step, .step] = some last ∧ late.world.Untouched last.world ∧
        last.polled? =
          some ⟨3, .reply (.error (.closed "ManagementClient")), [], some 0, none⟩ := by
  have hreach : late.Reachable := ⟨lateCaller, (Option.some_get _).symm⟩
  obtain ⟨-, hclosed, hnothing⟩ := closed_once hreach 0
  obtain ⟨hlater, hrefused⟩ := hclosed rfl
  have hhanded : .teardown 2 ⟨0, some 0, some 0, none⟩ ∈ late.world.history 0 := by
    decide +kernel
  have hlate : late.polled? = some ⟨3, .wait (.lock 0), [.getLock 0], some 0, none⟩ := rfl
  exact ⟨hreach, hnothing hhanded rfl nofun, hlater, hrefused hlate rfl rfl rfl⟩

end Moment

end Remoting
