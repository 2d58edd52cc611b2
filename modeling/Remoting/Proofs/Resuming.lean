import Remoting.Proofs.Limiting
import Remoting.Proofs.Trying

/-!
# Calls for a channel that are left

Only the task that has the lock of an open client changes what the client keeps (`CallsFit.still`).
A call for a channel that has the lock goes on inside of its frames until it is left: its task has
ended, or goes on outside of the call, and the lock is given back. `Trying` says where a call is and
what it has made so far, `Tried` what it has made when it is over, and `Attempted` that its task has
left it. The step with which a call starts is `step_locks`.
-/

namespace Remoting

/-- The calls of an open client say what it keeps. -/
theorem Opened.unique {e e' : Option EndpointId} {s s' : Option StrategyId} {calls : List Contact}
    (h : Opened e s calls) (h' : Opened e' s' calls) : e = e' ∧ s = s' :=
  ⟨Option.ext fun x => (h.endpointCreated_iff x).symm.trans (h'.endpointCreated_iff x),
    Option.ext fun x => (h.strategyCreated_iff x).symm.trans (h'.strategyCreated_iff x)⟩

/-- A task is inside of a call for a channel of a client, around which there are some frames. -/
inductive Task.Asks (t : Task) (client : ClientId) (outer : List Frame) : Prop
  | locks (frames : t.frames = .getLock client :: outer) : Asks t client outer
  | connects {endpoint : EndpointId} (control : t.control = .call (.connect client endpoint))
      (frames : t.frames = outer) : Asks t client outer
  | creates {inner : List Frame} {endpoint : EndpointId} {plan : StrategyPlan}
      (frames : t.frames = inner ++ .creation client endpoint plan :: outer) : Asks t client outer
  | opens {strategy : StrategyId} (control : t.control = .call (.openChannel client strategy))
      (frames : t.frames = outer) : Asks t client outer
  | obtains {inner : List Frame} {strategy : StrategyId} {channel : ChannelId}
      (frames : t.frames = inner ++ .channel client strategy channel :: outer) : Asks t client outer

/-- A task that has left a call for a channel is inside of it no more. -/
theorem Task.not_asks {t : Task} {client : ClientId} {outer : List Frame}
    (hover : t.control.IsOver) (hframes : t.frames.length ≤ outer.length) :
      ¬ t.Asks client outer := by
  intro hasks
  cases hasks with
  | connects control | opens control =>
      rw [control] at hover
      rcases hover with ⟨_, heq⟩ | ⟨_, heq⟩ <;> cases heq
  | locks frames | creates frames | obtains frames =>
      rw [frames] at hframes
      simp at hframes
      try omega

/-- A collaborator that acts inside a call is inside of nothing but its own delay. -/
theorem Serial.Acts.behaviours {outcome : Option Ending} {control : Control} {inner : List Frame}
    (h : Serial.Acts outcome control inner) :
    ∀ frame ∈ inner, ∃ behaviour, frame = .behaviour behaviour := by
  cases h <;> simp

/-- A task that connects a client does not wait. -/
theorem Task.Connects.not_wait {t : Task} {client : ClientId} (h : t.Connects client)
    (wait : Wait) :
    t.control ≠ .wait wait := by
  intro heq
  cases h with
  | lock control | connect control | creation control | openChannel control =>
      cases control.symm.trans heq

namespace World

variable {w u : World} {t : Task} {task : TaskId} {client : ClientId} {control : Control}
  {frames outer : List Frame} {job : Job} {e : Option EndpointId} {s : Option StrategyId}

theorem history_of_adds {entries : List (ClientId × Contact)}
    (heq : u.contacts = w.contacts ++ entries) (hnone : ∀ call, (client, call) ∉ entries) :
    u.history client = w.history client := by
  have hnil : entries.filterMap (fun entry => if entry.1 = client then some entry.2 else none) =
      [] := by
    refine List.filterMap_eq_nil_iff.2 fun entry hentry => if_neg fun hclient => ?_
    exact hnone entry.2 (hclient ▸ hentry)
  rw [history, heq, List.filterMap_append, hnil, List.append_nil, history]

/-- A frame that is not inside of a call is around it. -/
theorem exists_middle {inner inner' outer' : List Frame} {frame frame' : Frame}
    (h : inner ++ frame :: outer = inner' ++ frame' :: outer') (hnot : frame' ∉ inner ++ [frame]) :
    ∃ middle, outer = middle ++ frame' :: outer' := by
  rw [List.append_cons] at h
  rcases List.append_eq_append_iff.1 h with ⟨middle, -, heq⟩ | ⟨middle, heq, heq'⟩
  · exact ⟨middle, heq⟩
  · cases middle with
    | nil => exact ⟨[], heq'.symm⟩
    | cons first middle =>
        obtain ⟨rfl, -⟩ := List.cons.inj heq'
        exact absurd (heq ▸ List.mem_append_right _ (List.mem_cons_self ..)) hnot

/-- The factory of a client yields an endpoint when it is asked for the next one. -/
def YieldsEndpoint (w : World) (client : ClientId) : Prop :=
  ∃ c, w.clients[client]? = some c ∧ c.YieldsEndpoint

/-- The settings of a client give the address of its target. -/
def Addressable (w : World) (client : ClientId) : Prop :=
  ∃ cell settings, w.configOf? client = some cell ∧
    ConnectionSettings.ofConfig cell.config = .ok settings

/-! ## Who has the lock -/

/-- A call for a channel that connects its client has the lock. -/
theorem TaskOk.owner_of_connects (h : w.TaskOk t.id t.control t.frames)
    (hconnects : t.Connects client) : w.owner? client = some t.id := by
  cases hconnects with
  | lock control frames =>
      have htyped := h.typed
      rw [control, frames] at htyped
      obtain ⟨job, ⟨rfl, -⟩, hdelivers⟩ := htyped
      exact hdelivers
  | connect control | openChannel control =>
      exact (h.callHolds (show t.control.hold? = _ by rw [control]; rfl)).1
  | @creation endpoint plan _ _ _ frames =>
      have hframe : Frame.creation client endpoint plan ∈ t.frames := by
        rw [frames]
        exact List.mem_cons_self ..
      exact (h.frameHolds hframe rfl).1

/-- A close that hands over a teardown has the lock. -/
theorem TaskOk.owner_of_takes (h : w.TaskOk t.id t.control t.frames) {td : Teardown}
    (htakes : w.Takes t td) : w.owner? td.client = some t.id := by
  obtain ⟨-, ⟨reply, hcontrol⟩, frames, hframes⟩ := htakes
  have htyped := h.typed
  rw [hcontrol, hframes] at htyped
  obtain ⟨job, ⟨rfl, -⟩, hdelivers⟩ := htyped
  exact hdelivers

/-- Around a call that is over no lock is asked for or held. -/
theorem Stack.not_claims (hstack : w.Stack task job outer) (houter : job.isOuter = true)
    (hover : control.IsOver) : ¬ Claims control outer client := by
  rintro (hclaim | ⟨frame, hframe, hclaim⟩)
  · rcases hover with ⟨reply, rfl⟩ | ⟨content, rfl⟩
    · cases outer with
      | nil => cases hclaim
      | cons frame frames =>
          have hawaits := hstack.1
          cases frame with
          | getLock | closeLock =>
              cases (show job = .wait (.lock _) from hawaits)
              cases houter
          | recordLock =>
              cases hawaits.1
              cases houter
          | _ => cases hclaim
    · cases outer <;> cases hclaim
  · have hunheld := hstack.hold?_eq_none houter frame hframe
    cases frame with
    | creation | channel | teardown => cases hunheld
    | _ => cases hclaim

/-- A client that has handed over no teardown is open. -/
theorem ClientOk.exists_opened_of_not_handed (h : w.ClientOk client) (hnot : ¬ w.Handed client)
    {c : Client} (hc : w.clients[client]? = some c) :
    ∃ e s, w.state? client = some (.opened e s) ∧ Opened e s (w.history client) := by
  cases hstate : c.state with
  | opened e s =>
      have hopen : w.state? client = some (.opened e s) := state?_eq_some.2 ⟨c, hc, hstate⟩
      exact ⟨e, s, hopen, (h.of_opened hopen).2.1⟩
  | closed outcome =>
      rw [ClientOk, state?_eq_some.2 ⟨c, hc, hstate⟩] at h
      obtain ⟨-, joined, td, hclosing⟩ := h
      exact absurd ⟨joined, td, hclosing.handed⟩ hnot

theorem not_handed_of_opened (h : Opened e s (w.history client)) : ¬ w.Handed client := by
  rintro ⟨joined, td, hmem⟩
  cases h.not_isTeardown hmem

end World

namespace Moment

variable {first m n after last : Moment} {move : Move} {moves later : List Move} {t : Task}
  {task : TaskId} {client : ClientId} {outer inner : List Frame} {frame : Frame}
  {e e' : Option EndpointId} {s s' : Option StrategyId} {calls : List Contact} {available : Prop}
  {x : EndpointId} {σ : StrategyId} {call : Call}

/-- Only a step of the task that has the lock changes what an open client keeps, or makes an entry
of its journal. -/
theorem CallsFit.still (h : m.CallsFit) (hnext : m.next move = some after)
    (hopen : m.world.state? client = some (.opened e s))
    (hother : move = .step → ∀ t, m.polled? = some t → m.world.owner? client ≠ some t.id) :
    after.world.state? client = some (.opened e s) ∧
      after.world.history client = m.world.history client := by
  obtain ⟨active, hfit⟩ := h.exists_callsFit
  obtain ⟨active', hfit'⟩ := (h.next hnext).fits.exists_callsFit
  have hopened := ((hfit.clients client).of_opened hopen).2.1
  -- only a close that has the lock closes the client
  have hnot : ¬ after.world.Handed client := by
    intro hhanded
    obtain ⟨rfl, t, td, ht, htakes, rfl⟩ :=
      takes_of_handed h hnext (World.not_handed_of_opened hopened) hhanded
    exact hother rfl t ht ((h.taskOk (of_polled? ht).1).owner_of_takes htakes)
  obtain ⟨c, hc, -⟩ := World.state?_eq_some.1 hopen
  obtain ⟨c', hc'⟩ := (next_lasts hnext).found ⟨c, hc⟩
  obtain ⟨e', s', hopen', hopened'⟩ :=
    (hfit'.clients client).exists_opened_of_not_handed hnot hc'
  obtain ⟨entries, heq, hmakes⟩ := (h.next hnext).adds
  have hhistory : after.world.history client = m.world.history client := by
    refine World.history_of_adds heq fun call hmem => ?_
    have hentry : (client, call) ∈ after.world.contacts := heq ▸ List.mem_append_right _ hmem
    -- an entry that connects a client is made by the task that has the lock
    have hconnecting := hopened'.isConnecting (World.mem_history.2 hentry)
    rcases hmakes _ hmem with rfl | ⟨t, ht, ⟨-, hconnects⟩ | rfl | ⟨td, stage, -, -, hmade⟩ |
      ⟨joined, td, -, rfl, -⟩⟩
    · cases hconnecting
    · have howner := (h.taskOk (of_polled? ht).1).owner_of_connects hconnects
      exact hother (next_eq_step hnext ht hconnects.not_wait) t ht howner
    · cases hconnecting
    · cases (Contact.not_isConnecting (Teardown.isClosing_of_call? hmade)).symm.trans hconnecting
    · cases hconnecting
  rw [hhistory] at hopened'
  obtain ⟨rfl, rfl⟩ := hopened.unique hopened'
  exact ⟨hopen', hhistory⟩

/-! ## Calls that are left -/

/-- At a moment a task is inside of a call for a channel of a client. -/
def Asks (m : Moment) (task : TaskId) (client : ClientId) (outer : List Frame) : Prop :=
  ∃ t, m.world.task? task = some t ∧ t.Asks client outer

/-- A task has given the lock of a client back, and is inside of the call for a channel no more. -/
def Left (m : Moment) (task : TaskId) (client : ClientId) (outer : List Frame) : Prop :=
  m.world.owner? client ≠ some task ∧ ¬ m.Asks task client outer

/-- A task that has ended holds nothing. -/
theorem Reachable.left_of_hasEnded (h : m.Reachable) (hended : m.world.HasEnded task) :
    m.Left task client outer := by
  refine ⟨fun howner => ?_, fun ⟨t, ht, _⟩ => h.fits.not_hasEnded ht hended⟩
  obtain ⟨t, ht, -⟩ := h.seats.member (World.mem_queue_of_owner howner)
  exact h.fits.not_hasEnded ht hended

/-- A task that goes on outside of the call has left it. -/
theorem Reachable.left_of_over (h : m.Reachable) (ht : m.world.task? task = some t)
    (hover : t.control.IsOver) {w : World} {job : Job} (hstack : w.Stack task job t.frames)
    (houter : job.isOuter = true) (hframes : t.frames.length ≤ outer.length) :
    m.Left task client outer := by
  refine ⟨fun howner => ?_, fun ⟨t', ht', hasks⟩ => ?_⟩
  · obtain ⟨t', ht', hclaims⟩ := h.seats.member (World.mem_queue_of_owner howner)
    cases ht.symm.trans ht'
    exact hstack.not_claims houter hover hclaims
  · cases ht.symm.trans ht'
    exact Task.not_asks hover hframes hasks

/-- A call for a channel that waits is left if its task is stopped, or if a call around it is cut
short. Otherwise its task stays as it is until it makes a step. -/
theorem Reachable.stays_or_left (h : m.Reachable) (ht : m.world.task? task = some t)
    (hframes : t.frames = inner ++ frame :: outer)
    (hinner : ∀ frame ∈ inner, ∃ behaviour, frame = .behaviour behaviour)
    (hframe : frame.job = .channel client) (hnext : m.next move = some after)
    (hmove : move = .step → m.actor? move ≠ some task) :
    after.world.task? task = some t ∨ after.Left task client outer := by
  by_cases hactor : m.actor? move = some task
  swap
  · exact .inl (next_task? hnext ht hactor)
  obtain ⟨hmem, rfl⟩ := World.task?_mem ht
  obtain ⟨job, hstack⟩ := (h.fits.taskOk hmem).typed.stack
  rw [hframes] at hstack
  obtain ⟨job', -, houter⟩ := hstack.outer
  rw [hframe] at houter
  have hunheld := houter.hold?_eq_none rfl
  -- so only a frame around the call can cut it short
  have hcalm : ∀ frame' ∈ inner ++ [frame], m.world.cutShort? frame' = none ∧
      ∀ td pause, frame' ≠ .teardown td pause := by
    intro frame' hframe'
    rcases List.mem_append.1 hframe' with hmem | hmem
    · obtain ⟨behaviour, rfl⟩ := hinner _ hmem
      exact ⟨rfl, nofun⟩
    · rw [List.mem_singleton.1 hmem]
      cases frame <;> first | exact ⟨rfl, nofun⟩ | cases hframe
  cases move with
  | abort task =>
      cases hactor
      exact .inr ((h.next hnext).left_of_hasEnded (hasEnded_of_abort hnext ht))
  | step => exact absurd hactor (hmove rfl)
  | poll task =>
      cases hactor
      have hreach := h.next hnext
      obtain ⟨-, rfl⟩ := next_poll hnext
      cases hcut : m.world.cut? t.frames with
      | none =>
          refine .inl ?_
          show (m.world.cutTask t.id).task? t.id = some t
          rw [World.cutTask_eq_self ht hcut]
          exact ht
      | some cut =>
          obtain ⟨hsplit, hshort⟩ := World.cut?_eq_some hcut
          have hafter : (m.world.cutTask t.id).task? t.id =
              some { t with control := cut.control, frames := cut.outer } :=
            World.task?_cutTask ht hcut
          have hnot : cut.frame ∉ inner ++ [frame] := fun hin => by
            cases hshort.symm.trans (hcalm _ hin).1
          obtain ⟨middle, hmiddle⟩ := World.exists_middle (hframes.symm.trans hsplit) hnot
          have hhold := hunheld cut.frame (by simp [hmiddle])
          rw [hmiddle] at houter
          obtain ⟨job, -, hrest⟩ := houter.outer
          have hlength : cut.outer.length ≤ outer.length := by
            rw [hmiddle, List.length_append, List.length_cons]
            omega
          refine .inr (hreach.left_of_over hafter ?_ hrest ?_ hlength)
          · generalize cut.frame = frame' at hshort hhold
            cases frame' with
            | supply | opening | operation =>
                obtain ⟨reason, -, hcontrol⟩ := Option.map_eq_some_iff.1 hshort
                exact .inl ⟨_, hcontrol.symm⟩
            | teardown => cases hhold
            | _ => cases hshort
          · generalize cut.frame = frame' at hshort hhold
            cases frame' with
            | supply | opening | operation => rfl
            | teardown => cases hhold
            | _ => cases hshort
  | expire =>
      obtain ⟨-, -, rfl⟩ := expire_of_actor? hnext hactor
      refine .inl ?_
      show (m.world.expireDrain t.id).task? t.id = some t
      -- the only time limit is that of a teardown, and a call is not inside of one
      have hnone : m.world.overdue? t.frames = none := by
        cases hdue : m.world.overdue? t.frames with
        | none => rfl
        | some cut =>
            obtain ⟨hsplit, td, deadline, -, hteardown, -⟩ := World.overdue?_eq_some hdue
            have hnot : cut.frame ∉ inner ++ [frame] := fun hin => (hcalm _ hin).2 _ _ hteardown
            obtain ⟨middle, hmiddle⟩ := World.exists_middle (hframes.symm.trans hsplit) hnot
            have hhold := hunheld cut.frame (by simp [hmiddle])
            rw [hteardown] at hhold
            cases hhold
      rw [World.expireDrain_eq_self ht hnone]
      exact ht
  | _ => cases hactor

/-! ## What a call makes -/

/-- With its step the task of a call for a channel keeps the strategy that the factory yields. -/
def TakesStrategy (m : Moment) (task : TaskId) (client : ClientId) (move : Move) : Prop :=
  move = .step ∧ ∃ t endpoint plan frames reply, m.polled? = some t ∧ t.id = task ∧
    t.frames = .creation client endpoint plan :: frames ∧ t.control = .reply reply ∧
    m.world.YieldsStrategy client plan reply

/-- In a run the factory yields a strategy to the call for a channel of a task. -/
def YieldsStrategy (first : Moment) (moves : List Move) (task : TaskId)
    (client : ClientId) : Prop :=
  first.Happens (·.TakesStrategy task client) moves

/-- How a call for a channel comes by an endpoint: the client has one, or the factory yields it. -/
inductive GetsEndpoint (first : Moment) (client : ClientId) :
    Option EndpointId → EndpointId → List Contact → Prop
  | kept (x : EndpointId) : GetsEndpoint first client (some x) x []
  | made (x : EndpointId) (yields : first.world.YieldsEndpoint client) :
      GetsEndpoint first client none x [.createEndpoint, .endpointCreated x]

/-- How a call for a channel comes by a strategy: the client has one, or the factory yields it. -/
inductive GetsStrategy (first : Moment) (moves : List Move) (task : TaskId) (client : ClientId) :
    Option EndpointId → Option StrategyId → Option EndpointId → StrategyId → List Contact → Prop
  | kept (e : Option EndpointId) (σ : StrategyId) :
      GetsStrategy first moves task client e (some σ) e σ []
  | made {e : Option EndpointId} {x : EndpointId} {calls : List Contact}
      (endpoint : first.GetsEndpoint client e x calls)
        (addressable : first.world.Addressable client)
      (yields : first.YieldsStrategy moves task client) (σ : StrategyId) :
      GetsStrategy first moves task client e none (some x) σ
        (calls ++ [.createStrategy x, .strategyCreated σ])

/-- The calls that a call for a channel has made when it is over, and what the client has then. The
call is over because there is no endpoint, no target, no strategy, or after the strategy was asked.
-/
inductive Tried (first : Moment) (moves : List Move) (task : TaskId) (client : ClientId) :
    Option EndpointId → Option StrategyId → List Contact → Option EndpointId →
    Option StrategyId → Prop
  | endpoint (fails : ¬ first.world.YieldsEndpoint client)
      (never : ¬ first.YieldsStrategy moves task client) :
      Tried first moves task client none none [.createEndpoint] none none
  | target {e : Option EndpointId} {x : EndpointId} {calls : List Contact}
      (endpoint : first.GetsEndpoint client e x calls)
      (unavailable : ¬ first.world.Addressable client)
      (never : ¬ first.YieldsStrategy moves task client) :
      Tried first moves task client e none calls (some x) none
  | strategy {e : Option EndpointId} {x : EndpointId} {calls : List Contact}
      (endpoint : first.GetsEndpoint client e x calls)
        (addressable : first.world.Addressable client)
      (never : ¬ first.YieldsStrategy moves task client) :
      Tried first moves task client e none (calls ++ [.createStrategy x]) (some x) none
  | channel {e e' : Option EndpointId} {s : Option StrategyId} {σ : StrategyId}
      {calls : List Contact} (strategy : first.GetsStrategy moves task client e s e' σ calls) :
      Tried first moves task client e s (calls ++ [.channel σ]) e' (some σ)

/-- The polled task has just been granted the lock for its call for a channel. -/
def Locks (m : Moment) (task : TaskId) (client : ClientId) (outer : List Frame) : Prop :=
  ∃ t reply, m.polled? = some t ∧ t.id = task ∧ t.control = .reply reply ∧
    t.frames = .getLock client :: outer

/-- Where a call for a channel is that has taken the lock of an open client, and what it has
done. -/
inductive Trying (first : Moment) (moves : List Move) (task : TaskId) (client : ClientId)
    (outer : List Frame) (e : Option EndpointId) (s : Option StrategyId) (m : Moment) : Prop
  | locks (none : moves = []) (start : m = first) (locks : first.Locks task client outer)
  | connects {t : Task} {x : EndpointId} {calls : List Contact} (polled : m.polled? = some t)
      (id : t.id = task) (control : t.control = .call (.connect client x))
        (frames : t.frames = outer)
      (unmade : s = none) (endpoint : first.GetsEndpoint client e x calls)
      (history : m.world.history client = first.world.history client ++ calls)
      (never : ¬ first.YieldsStrategy moves task client)
  | creates {t : Task} {x : EndpointId} {calls : List Contact} {inner : List Frame}
      {plan : StrategyPlan} {outcome : Option Ending} (found : m.world.task? task = some t)
      (frames : t.frames = inner ++ .creation client x plan :: outer)
      (acts : Serial.Acts outcome t.control inner) (unmade : s = none)
      (endpoint : first.GetsEndpoint client e x calls)
        (addressable : first.world.Addressable client)
      (history : m.world.history client = first.world.history client ++
        (calls ++ [.createStrategy x]))
      (never : ¬ first.YieldsStrategy moves task client)
  | opens {t : Task} {e' : Option EndpointId} {σ : StrategyId} {calls : List Contact}
      (polled : m.polled? = some t) (id : t.id = task)
      (control : t.control = .call (.openChannel client σ)) (frames : t.frames = outer)
      (strategy : first.GetsStrategy moves task client e s e' σ calls)
      (history : m.world.history client = first.world.history client ++ calls)
  | obtains {t : Task} {e' : Option EndpointId} {σ : StrategyId} {calls : List Contact}
      {inner : List Frame} {channel : ChannelId} {outcome : Option Ending}
      (found : m.world.task? task = some t)
      (frames : t.frames = inner ++ .channel client σ channel :: outer)
      (acts : Serial.Acts outcome t.control inner)
      (strategy : first.GetsStrategy moves task client e s e' σ calls)
      (history : m.world.history client = first.world.history client ++ (calls ++ [.channel σ]))

theorem Trying.asks (h : first.Trying moves task client outer e s m) :
    m.Asks task client outer := by
  cases h with
  | locks none start locks =>
      obtain ⟨t, reply, ht, rfl, -, hframes⟩ := locks
      exact ⟨t, start ▸ polled?_task? ht, .locks hframes⟩
  | connects polled id control frames =>
    exact ⟨_, id ▸ polled?_task? polled, .connects control frames⟩
  | creates found frames => exact ⟨_, found, .creates frames⟩
  | opens polled id control frames => exact ⟨_, id ▸ polled?_task? polled, .opens control frames⟩
  | obtains found frames => exact ⟨_, found, .obtains frames⟩

/-- The polled task takes a strategy from what its innermost frame has got. -/
theorem TakesStrategy.of_polled (h : m.TakesStrategy task client move) (ht : m.polled? = some t) :
    ∃ endpoint plan frames reply, t.frames = .creation client endpoint plan :: frames ∧
      t.control = .reply reply ∧ m.world.YieldsStrategy client plan reply := by
  obtain ⟨-, t', endpoint, plan, frames, reply, ht', -, hframes, hcontrol, hyields⟩ := h
  cases ht.symm.trans ht'
  exact ⟨endpoint, plan, frames, reply, hframes, hcontrol, hyields⟩

/-- A task takes a strategy from the factory only where the factory has answered. -/
theorem TakesStrategy.answered {outcome : Option Ending}
    (h : m.TakesStrategy task client move) (ht : m.world.task? task = some t)
    (hframes : t.frames = inner ++ frame :: outer) (hacts : Serial.Acts outcome t.control inner) :
    move = .step ∧ m.polled? = some t ∧ inner = [] ∧ t.control.IsOver := by
  obtain ⟨hmove, t', endpoint, plan, frames, reply, ht', rfl, hframes', hcontrol, -⟩ := h
  cases (polled?_task? ht').symm.trans ht
  refine ⟨hmove, ht', ?_, hcontrol ▸ .reply reply⟩
  cases inner with
  | nil => rfl
  | cons first inner =>
      obtain ⟨behaviour, rfl⟩ := hacts.behaviours first (List.mem_cons_self ..)
      cases hframes.symm.trans hframes'

/-! ## The next move -/

/-- A call for a channel that has been left has no lock and goes on around its frames. -/
theorem Reachable.left_of_found (h : m.Reachable) (hnext : m.next move = some after)
    (ht : t ∈ m.world.tasks) (hframes : t.frames = inner ++ frame :: outer)
    (hframe : frame.job = .channel client) {control : Control} (hover : control.IsOver)
    (hfound : after.world.task? t.id = some { t with control, frames := outer }) :
    after.Left t.id client outer := by
  obtain ⟨job, hstack⟩ := (h.fits.taskOk ht).typed.stack
  rw [hframes] at hstack
  obtain ⟨job', -, houter⟩ := hstack.outer
  rw [hframe] at houter
  exact (h.next hnext).left_of_over hfound hover houter rfl (Nat.le_refl _)

/-- While a collaborator acts for a call that has the lock, the call goes on inside of the same
frame, or is left, unless the collaborator answers. -/
theorem Reachable.acts_next (h : m.Reachable) {outcome : Option Ending} {hold : Hold}
    (ht : m.world.task? task = some t) (hframes : t.frames = inner ++ frame :: outer)
    (hacts : Serial.Acts outcome t.control inner) (hframe : frame.job = .channel client)
    (hhold : frame.hold? = some (client, hold))
    (hopen : m.world.state? client = some (.opened e s)) (hnext : m.next move = some after)
    (hnot : ¬ (move = .step ∧ m.polled? = some t ∧ inner = [] ∧ t.control.IsOver)) :
    after.world.history client = m.world.history client ∧
      ((∃ t' inner', after.world.task? task = some t' ∧ t'.frames = inner' ++ frame :: outer ∧
        Serial.Acts outcome t'.control inner') ∨ after.Left task client outer) := by
  obtain ⟨hmem, rfl⟩ := World.task?_mem ht
  have hmember : frame ∈ t.frames := hframes ▸ List.mem_append_right _ (List.mem_cons_self ..)
  have howner := ((h.fits.taskOk hmem).frameHolds hmember hhold).1
  by_cases hown : move = .step ∧ m.actor? .step = some t.id
  · obtain ⟨rfl, hactor⟩ := hown
    obtain ⟨hpolled, hstep⟩ := step?_of_next ht hactor hnext
    rcases World.Acts.step hacts ht rfl hframes hstep with
      ⟨control, inner', hgoto, hacts'⟩ | ⟨hnil, hover⟩
    · have hcontacts : after.world.contacts = m.world.contacts := by rw [hgoto]; rfl
      have hfound : after.world.task? t.id =
          some { t with control, frames := inner' ++ frame :: outer } := by
        rw [hgoto, World.task?_goto, ht]
        rfl
      exact ⟨World.history_of_contacts hcontacts client, .inl ⟨_, inner', hfound, rfl, hacts'⟩⟩
    · exact absurd ⟨rfl, hpolled, hnil, hover⟩ hnot
  · -- the lock is the task's, so no one else changes the client
    have hmove : move = .step → m.actor? move ≠ some t.id := by
      rintro rfl hactor
      exact hown ⟨rfl, hactor⟩
    have hstill := h.fits.still hnext hopen fun hstep t' ht' howner' => by
      refine hmove hstep ?_
      rw [hstep, (of_polled? ht').2]
      exact howner'.symm.trans howner
    refine ⟨hstill.2, ?_⟩
    rcases h.stays_or_left ht hframes hacts.behaviours hframe hnext hmove with hstays | hleft
    · exact .inl ⟨t, inner, hstays, hframes, hacts⟩
    · exact .inr hleft

/-! ## Steps of the call -/

/-- A call for a channel is over, and its task has left it. -/
def Attempted (first : Moment) (moves : List Move) (task : TaskId) (client : ClientId)
    (outer : List Frame) (e : Option EndpointId) (s : Option StrategyId) (m : Moment) : Prop :=
  ∃ calls e' s', first.Tried moves task client e s calls e' s' ∧
    m.world.history client = first.world.history client ++ calls ∧ m.Left task client outer

theorem not_yieldsStrategy_snoc (never : ¬ first.YieldsStrategy moves task client)
    (hrun : first.run moves = some m) (hnot : ¬ m.TakesStrategy task client move) :
    ¬ first.YieldsStrategy (moves ++ [move]) task client := fun hyields =>
  ((happens_snoc hrun).1 hyields).elim never hnot

theorem GetsStrategy.snoc {e' : Option EndpointId}
    (h : first.GetsStrategy moves task client e s e' σ calls) (hrun : first.run moves = some m)
    (move : Move) : first.GetsStrategy (moves ++ [move]) task client e s e' σ calls := by
  cases h with
  | kept => exact .kept e σ
  | made endpoint addressable yields =>
      exact .made endpoint addressable ((happens_snoc hrun).2 (.inl yields)) σ

/-- A polled task that makes a call goes on with a step. -/
theorem move_of_call (ht : m.polled? = some t) (hcontrol : t.control = .call call)
    (hnext : m.next move = some after) : move = .step :=
  next_eq_step hnext ht fun wait heq => by cases hcontrol.symm.trans heq

/-- The step of a polled task that makes a call leads to the world after the call. -/
theorem world_of_call (ht : m.polled? = some t) (hcontrol : t.control = .call call)
    (hnext : m.next .step = some after) : after.world = m.world.makeCall t.id call t.frames := by
  have hfind := polled?_task? ht
  obtain ⟨-, hstep⟩ := step?_of_next hfind (of_polled? ht).2 hnext
  exact Option.some.inj (hstep.symm.trans (World.step?_call hfind hcontrol))

/-- The step of a polled task that has got a reply hands it to the innermost frame. -/
theorem world_of_reply {reply : Reply} (ht : m.polled? = some t)
    (hcontrol : t.control = .reply reply)
    (hframes : t.frames = frame :: outer) (hnext : m.next .step = some after) :
    after.world = m.world.resume t.id frame reply outer := by
  have hfind := polled?_task? ht
  obtain ⟨-, hstep⟩ := step?_of_next hfind (of_polled? ht).2 hnext
  exact Option.some.inj (hstep.symm.trans (World.step?_reply hfind hcontrol hframes))

/-- The step of a polled task that panics lets the panic pass the innermost frame. -/
theorem world_of_unwind {content : Panic} (ht : m.polled? = some t)
    (hcontrol : t.control = .unwind content) (hframes : t.frames = frame :: outer)
    (hnext : m.next .step = some after) :
    after.world = m.world.unwind t.id frame content outer := by
  have hfind := polled?_task? ht
  obtain ⟨-, hstep⟩ := step?_of_next hfind (of_polled? ht).2 hnext
  exact Option.some.inj (hstep.symm.trans (World.step?_unwind hfind hcontrol hframes))

/-- With the lock the call goes on at the first piece that is missing. -/
theorem Reachable.step_locks (h : first.Reachable) (hlocks : first.Locks task client outer)
    (hopen : first.world.state? client = some (.opened e s)) {cell : ConfigCell}
    (hcell : first.world.configOf? client = some cell) (hnext : first.next .step = some after) :
    first.Trying [.step] task client outer e s after ∨
      first.Attempted [.step] task client outer e s after := by
  obtain ⟨t, reply, ht, rfl, hcontrol, hframes⟩ := hlocks
  have hfind := polled?_task? ht
  have hmem := (of_polled? ht).1
  obtain ⟨c, hc, hstate⟩ := World.state?_eq_some.1 hopen
  have hafter : after.world = first.world.lockedChannel t.id client outer :=
    world_of_reply ht hcontrol hframes hnext
  have never : ¬ first.YieldsStrategy [.step] t.id client := by
    have hstart : ¬ first.YieldsStrategy [] t.id client := by
      rintro ⟨before, move, later, n, heq, -⟩
      cases before <;> cases heq
    refine not_yieldsStrategy_snoc hstart rfl fun htakes => ?_
    obtain ⟨x, plan, frames, reply', hframes', -⟩ := htakes.of_polled ht
    cases hframes.symm.trans hframes'
  rcases hafter ▸ World.tries_lockedChannel hc hcell hstate with
    ⟨σ, rfl, htries⟩ | ⟨x, rfl, rfl, htries⟩ | ⟨rfl, rfl, hfails, control, hover, htries⟩ |
    ⟨rfl, rfl, hyields, x, htries⟩
  · exact .inl (.opens (polled?_step ht hnext (htries.found hfind)) rfl rfl rfl (.kept e σ)
      htries.history)
  · exact .inl (.connects (polled?_step ht hnext (htries.found hfind)) rfl rfl rfl rfl (.kept x)
      htries.history never)
  · refine .inr ⟨_, _, _, .endpoint ?_ never, htries.history,
      h.left_of_found hnext hmem ((List.nil_append _).trans hframes.symm).symm rfl hover
        (htries.found hfind)⟩
    rintro ⟨c', hc', hyields⟩
    cases hc.symm.trans hc'
    exact hfails hyields
  · exact .inl (.connects (polled?_step ht hnext (htries.found hfind)) rfl rfl rfl rfl
      (.made x ⟨c, hc, hyields⟩) htries.history never)

end Moment

end Remoting
