import Remoting.Proofs.Closed
import Remoting.Proofs.Founding
import Remoting.Proofs.Outcome
import Remoting.Proofs.Vouching

/-!
# What a close leaves behind

When the teardown of a client has ended, its association admits no operation, its configuration is
released, and its lock is free or on its way to somebody who finds the client closed. None of this
is taken back. So a call for a channel returns, unless it is dropped, and it returns that the client
is closed; and if the teardown has ended well, the endpoint of the client is closed and owns no
task.
-/

namespace Remoting

/-- An enclosing call that holds the lock of a client does something with it. -/
theorem Frame.exists_hold {frame : Frame} {client : ClientId} (h : frame.claim? = some client) :
    ∃ hold, frame.hold? = some (client, hold) := by
  cases frame with
  | creation | channel | teardown =>
      cases h
      exact ⟨_, rfl⟩
  | _ => cases h

/-- A call that asks for the lock of a client waits for no other. -/
theorem World.Awaits.ask?_eq {w : World} {frame : Frame} {client other : ClientId}
    (h : w.Awaits frame (.wait (.lock other))) (hask : frame.ask? = some client) :
    other = client := by
  cases frame with
  | getLock | closeLock =>
      cases hask
      cases h
      rfl
  | recordLock =>
      cases hask
      obtain ⟨hjob, -⟩ := h
      cases hjob
      rfl
  | _ => cases hask

theorem World.ownsLock_of_owner? {w : World} {client : ClientId} {task : TaskId}
    (h : w.owner? client = some task) : w.ownsLock task client = true := by
  obtain ⟨c, hc, howner⟩ := Option.bind_eq_some_iff.1 h
  simp [World.ownsLock, hc, howner]

namespace Moment

variable {m after last made : Moment} {move : Move} {moves later : List Move} {client : ClientId}
  {handler : HandlerId} {endpoint : EndpointId} {t : Task} {task : TaskId} {reply : Reply}
  {outer : List Frame}

/-! ## A teardown that has ended -/

/-- The teardown of a client has ended, and was not stopped. -/
def Concluded (m : Moment) (client : ClientId) : Prop :=
  ∃ task td reply, .teardown task td ∈ m.world.history client ∧
    m.world.finish? task = some (.value reply)

theorem Concluded.grow (h : m.Concluded client) (hgrows : m.world.Grows last.world) :
    last.Concluded client := by
  obtain ⟨task, td, reply, hhanded, hfinish⟩ := h
  exact ⟨task, td, reply, World.mem_history.2 (hgrows.mem (World.mem_history.1 hhanded)),
    hgrows.finished hfinish⟩

/-- A close returns after the teardown has ended. -/
theorem Returns.concluded (h : m.Reachable) (hlost : ¬ m.world.LostTeardown client)
    (hreturns : m.Returns after (.close client) reply) : m.Concluded client := by
  obtain ⟨task, td, result, hhanded, hfinish, -⟩ := hreturns.outcome h hlost
  exact ⟨task, td, _, hhanded, hfinish⟩

/-- A teardown that has ended has made all its calls. -/
theorem Concluded.mem_history (hm : m.Reachable) (h : m.Concluded client) {call : Contact}
    (hcall : ∀ td : Teardown, ∀ skipDrain skipWait, call ∈ td.sequence skipDrain skipWait) :
    call ∈ m.world.history client := by
  obtain ⟨task, td, reply, hhanded, hfinish⟩ := h
  obtain ⟨skipDrain, skipWait, -, hall⟩ := hm.sequence hhanded
  obtain ⟨outcome, hclosing⟩ := (hm.clientOk client).closing hhanded
  rw [hclosing.history, hall _ hfinish fun heq => by cases heq]
  exact List.mem_append_right _ (List.mem_cons_of_mem _ (hcall td skipDrain skipWait))

/-- Nobody does anything any more that is done with the lock of a client before its teardown
ends. -/
theorem Concluded.not_held (hm : m.Reachable) (h : m.Concluded client) (ht : t ∈ m.world.tasks)
    {hold : Hold} : ¬ m.world.Held t.id client hold := by
  intro hheld
  obtain ⟨task, td, reply, hhanded, hfinish⟩ := h
  obtain ⟨outcome, hclosing⟩ := (hm.clientOk client).closing hhanded
  obtain ⟨active, hfit⟩ := hm.fits.exists_callsFit
  have hstate := hclosing.state
  cases hold with
  | endpoint => cases hstate.symm.trans hheld.2
  | strategy =>
      obtain ⟨endpoint, hopen⟩ := hheld.2
      cases hstate.symm.trans hopen
  | teardown td' point =>
      obtain ⟨-, hhanded', -⟩ := hheld.2
      obtain ⟨hid, -⟩ := hclosing.unique hhanded'
      rw [← hid] at hfinish
      cases (hfit.unfinished ht).symm.trans hfinish

theorem Concluded.closed (hm : m.Reachable) (h : m.Concluded client) :
    ∃ outcome, m.world.state? client = some (.closed outcome) := by
  obtain ⟨task, td, reply, hhanded, -⟩ := h
  obtain ⟨outcome, hclosing⟩ := (hm.clientOk client).closing hhanded
  exact ⟨outcome, hclosing.state⟩

theorem Concluded.not_lost (hm : m.Reachable) (h : m.Concluded client) :
    ¬ m.world.LostTeardown client := by
  rintro ⟨task, td, hhanded, haborted⟩
  obtain ⟨task', td', reply, hhanded', hfinish⟩ := h
  obtain ⟨outcome, hclosing⟩ := (hm.clientOk client).closing (World.mem_history.2 hhanded)
  obtain ⟨rfl, -⟩ := hclosing.unique hhanded'
  cases hfinish.symm.trans haborted

/-! ## Calls for a channel -/

/-- A call for a channel that returns after the teardown has ended returns that the client is
closed. -/
theorem Concluded.returns (hm : m.Reachable) (h : m.Concluded client)
    (hreturns : m.Returns after (.channel client) reply) :
    reply = .error (.closed "ManagementClient") := by
  obtain ⟨t, frame, frames, reply', ht, hjob, hat, t', ht', hcontrol⟩ :=
    hreturns.resume hm.fits (.inl rfl)
  obtain ⟨hmem, -⟩ := of_polled? ht
  cases frame with
  | getLock client' =>
      cases hjob
      obtain ⟨outcome, hstate⟩ := h.closed hm
      have hend : (m.world.lockedChannel t.id client frames).task? t.id = some t' := ht'
      rw [World.lockedChannel_closed hstate] at hend
      cases (World.of_task?_goto hend).1.symm.trans hcontrol
      rfl
  | creation | channel =>
      cases hjob
      exact absurd (hat.active.frameHolds (List.mem_cons_self ..) rfl) (h.not_held hm hmem)
  | _ => cases hjob

/-- A call for a channel returns in a step of its task. -/
def Declines (m after : Moment) (task : TaskId) (outer : List Frame) : Prop :=
  m.actor? .step = some task ∧ m.next .step = some after ∧ ∃ t, after.world.task? task = some t ∧
    t.control = .reply (.error (.closed "ManagementClient")) ∧ t.frames = outer

/-- A call for a channel stands in the queue of the lock. -/
structure Queues (m : Moment) (client : ClientId) (task : TaskId) (outer : List Frame) : Prop where
  waits : ∃ t, m.world.task? task = some t ∧ t.frames = .getLock client :: outer ∧
    (t.control = .wait (.lock client) ∨ ∃ reply, t.control = .reply reply)
  queued : task ∈ m.world.queue client

/-- A move that leaves the world of a waiting call as it is. -/
theorem Queues.of_eq (h : m.Queues client task outer) (hworld : after.world = m.world) :
    after.Queues client task outer := by
  obtain ⟨waits, queued⟩ := h
  exact ⟨hworld ▸ waits, hworld ▸ queued⟩

/-- What is left of a task that waits in a call for a channel when a call is left. -/
theorem drops_of_cut {cut : World.Cut} (hframes : .getLock client :: outer =
    cut.inner ++ cut.frame :: cut.outer) (hframe : cut.frame ≠ .getLock client) :
    ∃ middle, outer = middle ++ cut.frame :: cut.outer := by
  cases hinner : cut.inner with
  | nil =>
      rw [hinner] at hframes
      injection hframes with heq
      exact absurd heq.symm hframe
  | cons first middle =>
      rw [hinner] at hframes
      injection hframes with _ heq
      exact ⟨middle, heq⟩

/-- A step of a task whose call for a channel stands in the queue of a closed client. -/
theorem Queues.step (h : m.Queues client task outer) (hm : m.Reachable)
    (hconcluded : m.Concluded client) (hnext : m.next .step = some after)
    (hactor : m.actor? .step = some task) :
    after.Queues client task outer ∨ m.Declines after task outer := by
  obtain ⟨⟨t, ht, hframes, hcontrol⟩, hqueued⟩ := h
  obtain ⟨outcome, hstate⟩ := hconcluded.closed hm
  obtain ⟨u, hstep, rfl⟩ := step_of_actor? hnext hactor
  unfold World.step? at hstep
  rw [ht] at hstep
  rcases hcontrol with hcontrol | ⟨reply, hcontrol⟩
  · -- the wait goes on, or the task has got the lock
    simp only [hcontrol, hframes] at hstep
    obtain ⟨control, hready, rfl⟩ := Option.map_eq_some_iff.1 hstep
    simp only [World.ready?] at hready
    split at hready
    next =>
      cases hready
      refine .inl ⟨⟨_, by rw [World.task?_goto, ht]; rfl, rfl, .inr ⟨_, rfl⟩⟩, ?_⟩
      exact hqueued
    next => cases hready
  · simp only [hcontrol, hframes, World.resume, World.lockedChannel_closed hstate] at hstep
    cases hstep
    have hleave : World.Deals (fun _ => True) 0 [] _ _ :=
      World.deals_leaveLock m.world task client
    exact .inr ⟨hactor, hnext, _, World.task?_goto_of_deals hleave ht _ _, rfl, rfl⟩

/-- A call for a channel that stands in the queue of a closed client goes on to do so until it
returns that the client is closed, unless it is dropped. -/
theorem Queues.next (h : m.Queues client task outer) (hm : m.Reachable)
    (hconcluded : m.Concluded client) (hnext : m.next move = some after) :
    after.Queues client task outer ∨ move = .step ∧ m.Declines after task outer ∨
      m.Drops move task outer := by
  obtain ⟨t, ht, hframes, hcontrol⟩ := h.waits
  by_cases hactor : m.actor? move = some task
  · cases move with
    | abort task' =>
        cases hactor
        exact .inr (.inr (.inl rfl))
    | poll task' =>
        cases hactor
        obtain ⟨-, rfl⟩ := next_poll hnext
        cases hcut : m.world.cut? t.frames with
        | none => exact .inl (h.of_eq (World.cutTask_eq_self ht hcut))
        | some cut =>
            obtain ⟨hsplit, hshort⟩ := World.cut?_eq_some hcut
            refine .inr (.inr (.inr ⟨t, cut, ht, ?_, .inl ⟨rfl, hcut⟩⟩))
            refine drops_of_cut (hframes.symm.trans hsplit) fun heq => ?_
            rw [heq] at hshort
            cases hshort
    | step => exact (h.step hm hconcluded hnext hactor).imp_right fun hends => .inl ⟨rfl, hends⟩
    | expire =>
        obtain ⟨-, -, rfl⟩ := expire_of_actor? hnext hactor
        cases hcut : m.world.overdue? t.frames with
        | none => exact .inl (h.of_eq (World.expireDrain_eq_self ht hcut))
        | some cut =>
            obtain ⟨hsplit, td, deadline, -, hframe, -⟩ := World.overdue?_eq_some hcut
            refine .inr (.inr (.inr ⟨t, cut, ht, ?_, .inr ⟨rfl, hactor, hcut⟩⟩))
            refine drops_of_cut (hframes.symm.trans hsplit) fun heq => ?_
            rw [heq] at hframe
            cases hframe
    | _ => cases hactor
  · refine .inl ⟨⟨t, next_task? hnext ht hactor, hframes, hcontrol⟩, ?_⟩
    exact (hm.fits.shifts hm.seats hnext).mem_queue hactor h.queued

/-- Where no task gets on, nobody waits for the lock of a client whose teardown has ended. -/
theorem Idle.queue_eq_nil (hidle : m.Idle) (hm : m.Reachable) (h : m.Concluded client) :
    m.world.queue client = [] := by
  refine List.eq_nil_iff_forall_not_mem.2 fun id hmem => ?_
  obtain ⟨owner, t, howner, ht, hclaims⟩ := hm.seats.exists_owner hmem
  obtain ⟨hthere, rfl⟩ := World.task?_mem ht
  obtain ⟨wait, hcontrol, hready, -⟩ := hidle.waits hm.fits hthere
  rw [hcontrol] at hclaims
  rcases hclaims with hclaim | ⟨frame, hframe, hclaim⟩
  · -- whoever waits for the lock has got it
    have htyped := (hm.fits.taskOk hthere).typed
    rw [hcontrol] at htyped
    cases wait with
    | lock other =>
        cases hframes : t.frames with
        | nil =>
            rw [hframes] at hclaim
            cases hclaim
        | cons frame frames =>
            rw [hframes] at hclaim htyped
            obtain rfl := World.Awaits.ask?_eq htyped.1 hclaim
            rw [World.ready?, if_pos (World.ownsLock_of_owner? howner)] at hready
            cases hready
    | _ => cases hclaim
  · obtain ⟨hold, hhold⟩ := Frame.exists_hold hclaim
    exact h.not_held hm hthere ((hm.fits.taskOk hthere).frameHolds hframe hhold)

/-- A task that calls for a channel gets in the queue of the lock. -/
theorem Concluded.queues (hm : m.Reachable) (h : m.Concluded client) (ht : m.polled? = some t)
    (hcontrol : t.control = .call (.getChannel client)) (hnext : m.next move = some after) :
    move = .step ∧ after.Queues client t.id t.frames := by
  obtain rfl := next_eq_step hnext ht fun wait heq => by cases hcontrol.symm.trans heq
  obtain ⟨outcome, hstate⟩ := h.closed hm
  obtain ⟨u, hstep, rfl⟩ := step_of_polled ht hnext
  have hfind := polled?_task? ht
  simp only [World.step?, hfind, hcontrol, World.makeCall, World.getChannel] at hstep
  cases hstep
  obtain ⟨c, hc, -⟩ := Option.map_eq_some_iff.1 hstate
  have hlock : m.world.lock? client = some c.lock := by rw [World.lock?, hc, Option.map_some]
  refine ⟨rfl, ⟨{ t with control := .wait (.lock client)
                         frames := .getLock client :: t.frames }, ?_, rfl, .inl rfl⟩, ?_⟩
  · have hthere : (m.world.requestLock t.id client).task? t.id = some t := hfind
    rw [World.await, World.task?_goto, hthere]
    rfl
  · have hafter : (m.world.requestLock t.id client).lock? client = some (c.lock.request t.id) := by
      refine (World.lock?_modifyLock m.world client (·.request t.id) client).trans ?_
      rw [hlock, Option.map_some, if_pos rfl]
    show t.id ∈ (m.world.requestLock t.id client).queue client
    rw [World.queue_of_lock? hafter]
    exact (Lock.mem_queue_request (hm.seats.singleFile hlock)).2 (.inr rfl)

/-- A call for a channel that is made after the teardown has ended is over where no task gets on: it
has returned that the client is closed, unless it was dropped. -/
theorem Concluded.settles (hm : m.Reachable) (h : m.Concluded client) (ht : m.polled? = some t)
    (hcontrol : t.control = .call (.getChannel client)) (hrun : m.run moves = some last)
    (hidle : last.Idle) : ∃ first move rest n n', moves = first ++ move :: rest ∧
      m.run first = some n ∧ n.next move = some n' ∧
      (move = .step ∧ n.Declines n' t.id t.frames ∨ n.Drops move t.id t.frames) := by
  cases moves with
  | nil =>
      cases hrun
      rw [polled?, hidle.1] at ht
      cases ht
  | cons move moves =>
      obtain ⟨after, hnext, hrest⟩ := Option.bind_eq_some_iff.1 hrun
      obtain ⟨-, hqueues⟩ := h.queues hm ht hcontrol hnext
      have hafter := hm.next hnext
      have hgone : ¬ last.Queues client t.id t.frames := fun hqueued => by
        have hlast := h.grow (hm.grows hrun)
        have hmem := hqueued.queued
        rw [hidle.queue_eq_nil (hm.run hrun) hlast] at hmem
        cases hmem
      obtain ⟨first, move', rest, n, n', rfl, hfirst, hnext', -, hthere, hnot⟩ :=
        exists_change (P := fun m => ¬ m.Queues client t.id t.frames) hrest
          (not_not.2 hqueues) hgone
      have hbefore : m.run (move :: first) = some n :=
        Option.bind_eq_some_iff.2 ⟨after, hnext, hfirst⟩
      refine ⟨move :: first, move', rest, n, n', rfl, hbefore, hnext', ?_⟩
      exact ((not_not.1 hthere).next (hm.run hbefore) (h.grow (hm.grows hbefore))
        hnext').resolve_left hnot

/-! ## The endpoint -/

/-- When a close returns that the client is closed, the endpoint of the client is closed and owns no
task. -/
theorem Returns.over (h : m.Reachable) (hlost : ¬ m.world.LostTeardown client)
    (hreturns : m.Returns after (.close client) (.ok .closed))
    (hcreated : .endpointCreated endpoint ∈ m.world.history client)
    (hplain : m.world.Plain endpoint) :
    m.world.Over endpoint := by
  obtain ⟨task, td, result, hhanded, hfinish, hreply⟩ := hreturns.outcome h hlost
  have hresult : World.closeReply result = .ok .closed := by
    cases result with
    | ok => rfl
    | error e => rcases hreply with hreply | hreply <;> cases hreply
  obtain ⟨moves, hrun⟩ := h
  obtain ⟨ending, t, hvisits, hhanded', rfl, hends⟩ := exists_ends hrun hhanded hfinish
  rw [hresult] at hends
  have hendpoint := ((Reachable.parts ⟨moves, hrun⟩ hhanded).2 endpoint).2 hcreated
  have hover := (hvisits.reachable.clears hhanded' hends) endpoint hendpoint
    (hplain.of_grows (hvisits.grows hrun))
  obtain ⟨before, later, rfl, hbefore⟩ := hvisits
  rw [run_append, hbefore] at hrun
  exact hover.lasts (run_lasts hrun)

/-- An endpoint has been closed for good: it owns no task, all tasks that it has owned have ended,
and it takes over no more. -/
structure Done (m : Moment) (endpoint : EndpointId) : Prop where
  closed : m.world.Over endpoint
  ended : ∀ {before : Moment} {moves : List Move} {owned : LocalEndpoint} {task : TaskId},
    before.run moves = some m → before.world.local? endpoint = some owned → task ∈ owned.tasks →
      m.world.HasEnded task
  rejects : ∀ script, ∃ name, m.world.spawnOwned endpoint script =
    (.error (.closed ("Endpoint " ++ name)), m.world)

theorem done_of_over (h : m.world.Over endpoint) : m.Done endpoint := by
  obtain ⟨owned, howned, hstate, htasks⟩ := h
  refine ⟨⟨owned, howned, hstate, htasks⟩,
    fun {before moves earlier task} hrun hearlier htask => ?_, fun script => ⟨owned.name, ?_⟩⟩
  · obtain ⟨owned', howned', hkeeps⟩ := (run_lasts hrun).endpoint hearlier
    cases howned.symm.trans howned'
    refine (hkeeps.tasks htask).resolve_left fun hmem => ?_
    rw [htasks] at hmem
    cases hmem
  · simp [World.spawnOwned, howned, LocalEndpoint.spawn, hstate, EndpointState.isCloseRequested]

/-! ## After a close -/

/-- A client with a handler is closed for good. Its handler admits no operation, its configuration
is released, and whoever calls for a channel or executes an operation is told that it is closed. -/
structure Shut (m : Moment) (client : ClientId) (handler : HandlerId) : Prop where
  refuses : ∃ tracker, m.world.tracker? handler = some tracker ∧ tracker.accepting = false
  released : m.world.Released client
  /-- A call for a channel returns nothing else. -/
  channels : ∀ {after reply}, m.Returns after (.channel client) reply →
    reply = .error (.closed "ManagementClient")
  /-- A call for a channel that is made now returns by the time that no task gets on, unless it is
  dropped. -/
  settles : ∀ {t moves last}, m.polled? = some t → t.control = .call (.getChannel client) →
    m.run moves = some last → last.Idle → ∃ first move rest n n', moves = first ++ move :: rest ∧
      m.run first = some n ∧ n.next move = some n' ∧
      (move = .step ∧ n.Declines n' t.id t.frames ∨ n.Drops move t.id t.frames)
  executes : ∀ {e : Execution}, e.handler = handler → m.Begins e → m.Refuses e

theorem Founded.shut (h : made.Founded client handler) (hmade : made.Reachable)
    (hrun : made.run moves = some m) (hconcluded : m.Concluded client) : m.Shut client handler := by
  have hm := hmade.run hrun
  obtain ⟨tracker, htracker, hrefuses⟩ := h.refuses hmade hrun
    (hconcluded.mem_history hm fun td _ _ => by simp [Teardown.sequence, Teardown.closingCalls])
  exact
    { refuses := ⟨tracker, htracker, hrefuses⟩
      released := h.released hrun
        (hconcluded.mem_history hm fun td _ _ => by simp [Teardown.sequence])
      channels := hconcluded.returns hm
      settles := fun ht hcontrol hrun' hidle => hconcluded.settles hm ht hcontrol hrun' hidle
      executes := fun heq hbegins =>
        hbegins.refuses (heq ▸ World.admits?_eq_none htracker hrefuses) }

/-- What a close guarantees. From the moment on at which a close returns, unless the teardown was
lost, the client is closed for good, whatever the outcome; and if the close has returned that the
client is closed, its endpoint is closed for good too. -/
theorem close_guarantees {spec : ClientSpec} {trace : AllocationTrace} {before : Moment}
    (hbefore : before.Reachable) (hbuild : before.next (.build spec trace) = some made)
    (hrecorder : spec.recorder = none)
    (hconfig : ∃ cell, made.world.configOf? before.world.clients.length = some cell)
    (hrun : made.run moves = some m) (hlost : ¬ m.world.LostTeardown before.world.clients.length)
    (hreturns : m.Returns after (.close before.world.clients.length) reply)
    (hlater : after.run later = some last) :
    last.Shut before.world.clients.length before.world.handlers.length ∧
      (reply = .ok .closed → ∀ endpoint,
        .endpointCreated endpoint ∈ last.world.history before.world.clients.length →
          last.world.Plain endpoint → last.Done endpoint) := by
  have hmade := hbefore.next hbuild
  have hm := hmade.run hrun
  have hconcluded := hreturns.concluded hm hlost
  have hgoes : m.run (.step :: later) = some last :=
    Option.bind_eq_some_iff.2 ⟨after, hreturns.1, hlater⟩
  have hgrows := hm.grows hgoes
  refine ⟨(founded_of_build hbefore hbuild hrecorder hconfig).shut hmade (run_trans hrun hgoes)
    (hconcluded.grow hgrows), ?_⟩
  rintro rfl endpoint hcreated hplain
  -- the teardown was handed the endpoint, so it was made before the close
  obtain ⟨task, td, -, hhanded, -⟩ := hconcluded
  have hhanded' := World.mem_history.2 (hgrows.mem (World.mem_history.1 hhanded))
  have hendpoint := (((hm.run hgoes).parts hhanded').2 endpoint).2 hcreated
  have hover := hreturns.over hm hlost (((hm.parts hhanded).2 endpoint).1 hendpoint)
    (hplain.of_grows hgrows)
  exact done_of_over (hover.lasts (run_lasts hgoes))

/-- A client with a handler is connected, its endpoint takes over a task, and the client is closed.
The task ends when it is told to, and the close is about to return. -/
def owningClose : List Move :=
  [.act (.getChannel 0 "channel")] ++ Move.pollAll 0 10 0 ++
    [.act (.spawnOwned 0 "task" [.shutdown]), .act (.close 0 "close" none)] ++
    (Move.pollAll 2 3 0 ++ Move.pollAll 3 16 0 ++ Move.pollAll 1 5 0 ++ Move.pollAll 3 6 0) ++
    [.poll 2, .step]

/-- The moves up to a call for a channel after the close. -/
def lateChannel : List Move :=
  [.step, .expire, .rest, .act (.getChannel 0 "late"), .poll 4]

/-- The client is made. -/
def owningMade : Moment :=
  (start.next (.build (.handling default) default)).get (by decide +kernel)

/-- The moment at which the close returns. -/
def owningReturn : Moment := (owningMade.run owningClose).get (by decide +kernel)

/-- The moment after that. -/
def owningAfter : Moment := (owningReturn.next .step).get (by decide +kernel)

/-- A call for a channel is about to be made. -/
def owningLate : Moment := (owningAfter.run lateChannel).get (by decide +kernel)

theorem close_guarantees_of_owned_task :
    start.next (.build (.handling default) default) = some owningMade ∧
      owningMade.run owningClose = some owningReturn ∧
      ¬ owningReturn.world.LostTeardown 0 ∧
      owningReturn.Returns owningAfter (.close 0) (.ok .closed) ∧
      owningAfter.run lateChannel = some owningLate ∧
      owningLate.Shut 0 0 ∧ owningLate.Done 0 := by
  have hbuild : start.next (.build (.handling default) default) = some owningMade :=
    (Option.some_get _).symm
  have hrun : owningMade.run owningClose = some owningReturn := (Option.some_get _).symm
  have hlater : owningAfter.run lateChannel = some owningLate := (Option.some_get _).symm
  have hstart : start.Reachable := ⟨[], rfl⟩
  have hhanded : .teardown 3 ⟨0, some 0, some 0, none⟩ ∈ owningReturn.world.history 0 := by
    decide +kernel
  have hlost : ¬ owningReturn.world.LostTeardown 0 :=
    Concluded.not_lost ((hstart.next hbuild).run hrun) ⟨3, _, .ok .closed, hhanded, rfl⟩
  have hreturns : owningReturn.Returns owningAfter (.close 0) (.ok .closed) :=
    ⟨(Option.some_get _).symm, ⟨2, .reply (.ok .closed), [.closeJoin 0], some 0, none⟩,
      .closeJoin 0, [], rfl, rfl, rfl, rfl⟩
  obtain ⟨hshut, hdone⟩ := close_guarantees hstart hbuild rfl ⟨_, rfl⟩ hrun hlost hreturns hlater
  have hplain : owningLate.world.Plain 0 := fun plan hplan => by
    have hsome : owningLate.world.endpointPlan? 0 = some default := rfl
    cases hsome.symm.trans hplan
    rfl
  exact ⟨hbuild, hrun, hlost, hreturns, hlater, hshut, hdone rfl 0 (by decide +kernel) hplain⟩

end Moment

end Remoting
