import Remoting.Proofs.Closing
import Remoting.Proofs.Viewing

/-!
# What the call with the lock does

`Serial.Busy` says where the call is that has the lock of a client, and what it does from there on,
as a turn of a client that is used by one call at a time: the calls to collaborators that are yet to
come, and the end, if there is one. A step of the call makes the first of these calls, if it makes
any, and leaves the rest. There is one lemma for each place where the call can be.
-/

namespace Remoting

namespace Serial

variable {s : Serial} {outcome : Option Ending} {control : Control} {frames inner : List Frame}

/-- Where a collaborator is that acts inside a call, and how it ends, if it does. -/
inductive Acts : Option Ending → Control → List Frame → Prop
  | called (behaviour : Behaviour) : Acts behaviour.outcome? (.call (.behave behaviour)) []
  | sleeps (behaviour : Behaviour) {control : Control}
      (h : (∃ deadline, control = .wait (.sleep deadline)) ∨ ∃ reply, control = .reply reply) :
      Acts behaviour.outcome? control [.behaviour behaviour]
  | silent : Acts none (.wait .forever) []
  | succeeds (value : Value) : Acts (some .succeed) (.reply (.ok value)) []
  | fails (error : Error) : Acts (some (.fail error)) (.reply (.error error)) []
  | panics (content : Panic) : Acts (some (.panic content)) (.unwind content) []

/-- Where the wait for the operations of a client is. -/
inductive Drains : Control → List Frame → Prop
  | called : Drains (.call (.awaitCompletion 0)) []
  | waits (handler : HandlerId) (deadline : Nat) : Drains (.wait (.drained handler deadline)) []
  | acts {outcome : Option Ending} {control : Control} {inner : List Frame}
      (h : Acts outcome control inner) (completed : Bool) :
      Drains control (inner ++ [.completion completed])
  | replies (reply : Reply) : Drains (.reply reply) []
  | panics (content : Panic) : Drains (.unwind content) []

/-- Where the wait for the tasks of an endpoint is. It goes on only if the endpoint was asked to
close. -/
inductive Lingers (asked : Bool) : Control → List Frame → Prop
  | called : Lingers asked (.call (.awaitLocal 0)) []
  | request : Lingers asked (.wait (.closeRequested 0)) [.localRequest 0]
  | requested (hasked : asked = true) (reply : Reply) :
      Lingers asked (.reply reply) [.localRequest 0]
  | tasks (hasked : asked = true) : Lingers asked (.wait (.tasksGone 0)) [.localTasks 0]
  | gone (hasked : asked = true) (reply : Reply) : Lingers asked (.reply reply) [.localTasks 0]
  | finished (hasked : asked = true) (reply : Reply) : Lingers asked (.reply reply) []

/-- How the wait for the tasks of an endpoint ends. -/
def lingering (asked : Bool) : Option Ending :=
  if asked then some .succeed else none

/-- Where the wait for the closure of an endpoint is, and how it ends, if it does. -/
inductive Awaits (s : Serial) (plan : Option EndpointPlan) :
    Option Ending → Control → List Frame → Prop
  | called : Awaits s plan (s.closure? plan) (.call (.awaitClosed 0)) []
  | acts {outcome : Option Ending} {control : Control} {inner : List Frame}
      (h : Acts outcome control inner) : Awaits s plan outcome control
        (inner ++ [.endpointClosed 0])
  | lingers {control : Control} {inner outer : List Frame} (h : Lingers s.asked control inner)
      (houter : outer = [] ∨ outer = [.endpointClosed 0]) :
      Awaits s plan (lingering s.asked) control (inner ++ outer)
  | replies {ending : Ending} (h : ∀ content, ending ≠ .panic content) (reply : Reply) :
      Awaits s plan (some ending) (.reply reply) []
  | panics (content : Panic) : Awaits s plan (some (.panic content)) (.unwind content) []

/-- Where the call is that has the lock of a client, and what it does from there on. -/
inductive Busy (s : Serial) : Control → List Frame → Turn → Prop
  | connect {endpoint : Option EndpointPlan} (hopen : s.outcome = none)
      (hendpoint : s.endpoint = some endpoint) (hnone : s.strategy = none) :
      Busy s (.call (.connect 0 0)) [] (s.connect endpoint)
  | creation {endpoint : Option EndpointPlan} {plan : StrategyPlan} {outcome : Option Ending}
      {control : Control} {inner : List Frame} (hopen : s.outcome = none)
      (hendpoint : s.endpoint = some endpoint) (hnone : s.strategy = none)
      (h : Acts outcome control inner) :
      Busy s control (inner ++ [.creation 0 0 plan]) (s.created plan outcome)
  | openChannel {plan : StrategyPlan} (hopen : s.outcome = none) (hsome : s.strategy = some plan) :
      Busy s (.call (.openChannel 0 0)) [] (s.openChannel plan)
  | channel {channel : ChannelId} {outcome : Option Ending} {control : Control} {inner : List Frame}
      (hopen : s.outcome = none) (h : Acts outcome control inner) :
      Busy s control (inner ++ [.channel 0 0 channel]) (s.opened channel outcome)
  | stage {stage : Teardown.Stage} {interrupt : Option TokenName}
      (hclosed : s.outcome.isSome = true)
      (hasked : stage = .shutdown ∨ stage = .closeStrategy ∨ stage = .closeEndpoint →
        s.asked = false) :
      Busy s (.call (.teardown (s.taken interrupt) stage)) [] (s.stage stage)
  | strategy {outcome : Option Ending} {control : Control} {inner : List Frame}
      {interrupt : Option TokenName} (hclosed : s.outcome.isSome = true) (hasked : s.asked = false)
      (h : Acts outcome control inner) :
      Busy s control (inner ++ [.teardown (s.taken interrupt) (.strategy 0)])
        (s.closedStrategy outcome)
  | drain {control : Control} {inner : List Frame} {interrupt : Option TokenName} {deadline : Nat}
      (hclosed : s.outcome.isSome = true) (h : Drains control inner) :
      Busy s control (inner ++ [.teardown (s.taken interrupt) (.drain deadline)]) (s.stage .release)
  | endpoint {plan : Option EndpointPlan} {outcome : Option Ending} {control : Control}
      {inner : List Frame} {interrupt : Option TokenName} (hclosed : s.outcome.isSome = true)
      (hsome : s.endpoint = some plan) (h : Awaits s plan outcome control inner) :
      Busy s control (inner ++ [.teardown (s.taken interrupt) .endpoint]) (s.awaited outcome)

end Serial

namespace World

variable {w v u : World} {s s' : Serial} {task : TaskId} {t : Task} {control : Control}
  {frames inner outer : List Frame} {made : List Contact} {new : List Task} {turn : Serial.Turn}
  {finish : Finish} {outcome : Option Ending}

/-! ## Single steps -/

theorem step?_call {call : Call} (ht : w.task? task = some t) (hcontrol : t.control = .call call) :
    w.step? task = some (w.makeCall task call t.frames) := by
  rw [step?, ht]
  dsimp only
  rw [hcontrol]

theorem step?_reply {reply : Reply} {frame : Frame} (ht : w.task? task = some t)
    (hcontrol : t.control = .reply reply) (hframes : t.frames = frame :: frames) :
    w.step? task = some (w.resume task frame reply frames) := by
  rw [step?, ht]
  dsimp only
  rw [hcontrol, hframes]

theorem step?_unwind {content : Panic} {frame : Frame} (ht : w.task? task = some t)
    (hcontrol : t.control = .unwind content) (hframes : t.frames = frame :: frames) :
    w.step? task = some (w.unwind task frame content frames) := by
  rw [step?, ht]
  dsimp only
  rw [hcontrol, hframes]

theorem step?_wait {wait : Wait} (ht : w.task? task = some t) (hcontrol : t.control = .wait wait) :
    w.step? task = (w.ready? task wait).map fun control => w.goto task control t.frames := by
  rw [step?, ht]
  dsimp only
  rw [hcontrol]

/-! ## What happens up to where a task goes on -/

/-- Some tasks have been started, some calls to collaborators made, and the world looks in a given
way. -/
structure Acted (new : List Task) (made : List Contact) (w v : World) (s : Serial) : Prop where
  tasks : v.tasks = w.tasks ++ new
  finished : v.finished = w.finished
  calls : v.calls 0 = w.calls 0 ++ made
  owned : v.view.owned = w.view.owned ++ (new.filter fun t => t.owner.isSome).map Task.id
  shows : v.view.Shows s

theorem Acted.refl (h : w.view.Shows s) : Acted [] [] w w s :=
  ⟨(List.append_nil _).symm, rfl, (List.append_nil _).symm, (List.append_nil _).symm, h⟩

theorem Acted.same (h : Acted new made w v s) (hsame : SameTasks v u)
    (hcontacts : u.contacts = v.contacts) (howned : u.view.owned = v.view.owned)
    (hshows : u.view.Shows s') : Acted new made w u s' where
  tasks := hsame.tasks.trans h.tasks
  finished := hsame.finished.trans h.finished
  calls := (calls_of_contacts hcontacts 0).trans h.calls
  owned := howned.trans h.owned
  shows := hshows

/-- Changes that touch no task and make no call, after which the world looks in another way. -/
theorem Acted.goes (h : Acted new made w v s) (hquiet : Quiet v u)
    (howned : u.view.owned = v.view.owned) (hshows : u.view.Shows s') : Acted new made w u s' :=
  h.same hquiet.same hquiet.contacts howned hshows

/-- A change that touches no task and that no call sees. -/
theorem Acted.quiet (h : Acted new made w v s) (hquiet : Quiet v u) (hview : u.view = v.view) :
    Acted new made w u s :=
  h.goes hquiet (congrArg View.owned hview) (hview ▸ h.shows)

theorem Acted.leaveLock (h : Acted new made w v s) (task : TaskId) :
    Acted new made w (v.leaveLock task 0) s :=
  have hview := view_leaveLock v task 0
  h.same (relocks_leaveLock v task 0).same (relocks_leaveLock v task 0).contacts
    (congrArg View.owned hview) (hview ▸ h.shows)

/-- A call to a collaborator. -/
theorem acted_contact (h : w.view.Shows s) (call : Contact) (hcall : call.isCall = true) :
    Acted [] [call] w (w.contact 0 call) s where
  tasks := (List.append_nil _).symm
  finished := rfl
  calls := by rw [calls_contact, List.filter_cons_of_pos hcall, List.filter_nil]
  owned := (List.append_nil _).symm
  shows := h

/-- A note in the journal that is no call. -/
theorem Acted.note (h : Acted new made w v s) (call : Contact) (hcall : call.isCall = false)
    (hcalls : u.calls 0 = (v.contact 0 call).calls 0) (hsame : SameTasks v u)
    (howned : u.view.owned = v.view.owned) (hshows : u.view.Shows s') : Acted new made w u s' where
  tasks := hsame.tasks.trans h.tasks
  finished := hsame.finished.trans h.finished
  calls := by rw [hcalls, calls_contact, List.filter_cons_of_neg (by simp [hcall]), List.filter_nil,
    List.append_nil, h.calls]
  owned := howned.trans h.owned
  shows := hshows

/-! ## Where a task goes on -/

/-- A call that has left the lock is about to end. -/
inductive Ends (w : World) : Control → List Frame → Finish → Prop
  | replies (reply : Reply) {frames : List Frame}
      (hframes : frames = [] ∨ frames = [.closeJoin 0]) :
      Ends w (.reply reply) frames (.value (reply.map w.present))
  | panics (content : Panic) {frames : List Frame}
      (hframes : frames = [] ∨ frames = [.closeJoin 0]) :
      Ends w (.unwind content) frames (.panicked content)

/-- The call with the lock has gone on: what it was to do is what it has done and what is left. Or
it has left the lock and is about to end. -/
def Onward (task : TaskId) (new : List Task) (turn : Serial.Turn) (w u : World) : Prop :=
  ∃ v s control frames made, u = v.goto task control frames ∧ Acted new made w v s ∧
    ((∃ rest, s.Busy control frames rest ∧ turn = rest.behind made) ∨
      ∃ finish, Ends v control frames finish ∧ turn = (s.ends finish).behind made)

theorem Acted.busy {rest : Serial.Turn} (h : Acted new made w v s)
    (hbusy : s.Busy control frames rest)
    (task : TaskId) : Onward task new (rest.behind made) w (v.goto task control frames) :=
  ⟨v, s, control, frames, made, rfl, h, .inl ⟨rest, hbusy, rfl⟩⟩

theorem Acted.ends (h : Acted new made w v s) (hends : Ends v control frames finish)
    (task : TaskId) :
    Onward task new ((s.ends finish).behind made) w (v.goto task control frames) :=
  ⟨v, s, control, frames, made, rfl, h, .inr ⟨finish, hends, rfl⟩⟩

/-- A call for a channel fails. -/
theorem Acted.failChannel (h : Acted new made w v s) (task : TaskId) (error : Error) :
    Onward task new ((s.fails error).behind made) w (v.endChannel task 0 (.error error) []) :=
  (h.leaveLock task).ends (.replies (.error error) (.inl rfl)) task

/-- A call for a channel panics. -/
theorem Acted.panicChannel (h : Acted new made w v s) (task : TaskId) (content : Panic) :
    Onward task new ((s.panics content).behind made) w (v.panicChannel task 0 content []) :=
  (h.leaveLock task).ends (.panics content (.inl rfl)) task

/-! ## Collaborators -/

/-- A collaborator goes on inside the call that it acts for, or has come to its end. -/
theorem Acts.step (h : Serial.Acts outcome control inner) (ht : w.task? task = some t)
    (hcontrol : t.control = control) (hframes : t.frames = inner ++ outer)
    (hstep : w.step? task = some u) :
    (∃ control' inner', u = w.goto task control' (inner' ++ outer) ∧
      Serial.Acts outcome control' inner') ∨
    inner = [] ∧ ((∃ reply, control = .reply reply) ∨ ∃ content, control = .unwind content) := by
  cases h with
  | called behaviour =>
      rw [step?_call ht hcontrol, hframes] at hstep
      obtain rfl := Option.some.inj hstep
      refine .inl ?_
      simp only [makeCall, behave]
      -- the delay comes first, and then the outcome
      split
      next ms _ => exact ⟨_, [.behaviour { behaviour with delay := none }], rfl,
        .sleeps { behaviour with delay := none } (.inl ⟨_, rfl⟩)⟩
      next =>
        split
        next hnever =>
          refine ⟨_, [], rfl, ?_⟩
          rw [Behaviour.outcome?, if_pos hnever]
          exact .silent
        next hnever =>
          refine ⟨_, [], rfl, ?_⟩
          rw [Behaviour.outcome?, if_neg hnever]
          cases behaviour.ending with
          | succeed => exact .succeeds _
          | fail error => exact .fails error
          | panic content => exact .panics content
  | sleeps behaviour h =>
      refine .inl ?_
      rcases h with ⟨deadline, rfl⟩ | ⟨reply, rfl⟩
      · rw [step?_wait ht hcontrol, hframes] at hstep
        obtain ⟨control, hready, rfl⟩ := Option.map_eq_some_iff.1 hstep
        simp only [ready?] at hready
        split at hready
        next =>
          cases hready
          exact ⟨_, [.behaviour behaviour], rfl, .sleeps behaviour (.inr ⟨_, rfl⟩)⟩
        next => cases hready
      · rw [step?_reply ht hcontrol hframes] at hstep
        obtain rfl := Option.some.inj hstep
        exact ⟨_, [], rfl, .called behaviour⟩
  | silent =>
      rw [step?_wait ht hcontrol] at hstep
      cases hstep
  | succeeds value => exact .inr ⟨rfl, .inl ⟨_, rfl⟩⟩
  | fails error => exact .inr ⟨rfl, .inl ⟨_, rfl⟩⟩
  | panics content => exact .inr ⟨rfl, .inr ⟨_, rfl⟩⟩

/-- A call goes on with a collaborator that acts inside of it, and as the collaborator has ended. -/
theorem onward_acts {frame : Frame} (h : Serial.Acts outcome control inner)
    (ht : w.task? task = some t) (hcontrol : t.control = control)
    (hframes : t.frames = inner ++ frame :: outer) (hstep : w.step? task = some u)
    (inside : ∀ {control' inner'}, Serial.Acts outcome control' inner' →
      Onward task new turn w (w.goto task control' (inner' ++ frame :: outer)))
    (succeeded : ∀ value, outcome = some .succeed →
      Onward task new turn w (w.resume task frame (.ok value) outer))
    (failed : ∀ error, outcome = some (.fail error) →
      Onward task new turn w (w.resume task frame (.error error) outer))
    (panicked : ∀ content, outcome = some (.panic content) →
      Onward task new turn w (w.unwind task frame content outer)) : Onward task new turn w u := by
  rcases Acts.step h ht hcontrol hframes hstep with ⟨control', inner', rfl, hacts'⟩ |
    ⟨rfl, ⟨reply, rfl⟩ | ⟨content, rfl⟩⟩
  · exact inside hacts'
  · rw [step?_reply ht hcontrol hframes] at hstep
    obtain rfl := Option.some.inj hstep
    cases h with
    | succeeds value => exact succeeded value rfl
    | fails error => exact failed error rfl
  · rw [step?_unwind ht hcontrol hframes] at hstep
    obtain rfl := Option.some.inj hstep
    cases h with
    | panics content => exact panicked content rfl

/-! ## Getting a channel -/

theorem endpointName_eq {plan : Option EndpointPlan} (h : w.view.Shows s)
    (hsome : s.endpoint = some plan) :
    ((plan.bind fun plan => plan.name) = none ∧ ∃ name, w.endpointName 0 = .ok name) ∨
      ∃ content, (plan.bind fun plan => plan.name) = some content ∧
        w.endpointName 0 = .error content := by
  unfold endpointName
  rw [endpointPlan?_eq h hsome]
  cases plan.bind fun plan => plan.name with
  | none => exact .inl ⟨rfl, _, rfl⟩
  | some content => exact .inr ⟨content, rfl, rfl⟩

/-- The factory is asked for a strategy. -/
theorem onward_connect {endpoint : Option EndpointPlan} (h : w.view.Shows s)
    (hopen : s.outcome = none) (hendpoint : s.endpoint = some endpoint) (hnone : s.strategy = none)
    (task : TaskId) : Onward task [] (s.connect endpoint) w (w.connect task 0 0 []) := by
  obtain ⟨c, cell, hc, hshows, hcell, hconfig⟩ := exists_configOf? h
  unfold World.connect Serial.connect
  rw [hc, hcell]
  dsimp only
  rw [hconfig]
  cases hsettings : ConnectionSettings.ofConfig s.config with
  | error error => exact (Acted.refl h).failChannel task error
  | ok settings =>
      dsimp only
      rw [hshows.factory, hshows.strategyCalls]
      have hacted : Acted [] [.createStrategy 0] w
          ((w.contact 0 (.createStrategy 0)).modifyClient 0 fun c =>
            { c with strategyCalls := c.strategyCalls + 1 })
          { s with strategyCalls := s.strategyCalls + 1 } :=
        (acted_contact h _ rfl).goes
          (quiet_modifyClient _ 0 (fun _ => rfl) (fun _ => rfl) fun _ => rfl) rfl
          (shows_countStrategy (w := w.contact 0 (.createStrategy 0)) h)
      rcases endpointName_eq hacted.shows hendpoint with
        ⟨hname, name, hok⟩ | ⟨content, hname, herror⟩
      · rw [hok, hname]
        exact (hacted.quiet (quiet_emit _ _) (view_emit _ _)).busy
          (.creation hopen hendpoint hnone (.called _)) task
      · rw [herror, hname]
        exact hacted.panicChannel task content

theorem callAssociation_snd (h : w.view.Shows s) (call : Option AssociationCall) :
    (w.callAssociation 0 call).2 = s.associationPanic call := by
  obtain ⟨c, hc, hshows, -⟩ := exists_client h
  have hassociation : w.association? 0 = some s.association := by
    rw [association?, hc]
    exact congrArg some hshows.association
  unfold callAssociation Serial.associationPanic
  cases hsame : s.association with
  | handler handler =>
      rw [hsame] at hassociation
      split <;> simp only [shutdownAssociation, shutdownAssociationNow, hassociation]
  | recorder plan =>
      rw [hsame] at hassociation
      split <;> simp only [shutdownAssociation, shutdownAssociationNow, hassociation]

/-- The factory has made a strategy, or is about to fail all the same. -/
theorem onward_created {endpoint : Option EndpointPlan} (h : w.view.Shows s)
    (hopen : s.outcome = none) (hendpoint : s.endpoint = some endpoint) (hnone : s.strategy = none)
    (plan : StrategyPlan) (value : Value) (task : TaskId) :
    Onward task [] (s.created plan (some .succeed)) w (w.created task 0 0 plan (.ok value) []) := by
  have hacted : Acted [] [] w (w.callAssociation 0 plan.onCreate).1 s :=
    (Acted.refl h).quiet (quiet_callAssociation w 0 plan.onCreate) (view_callAssociation w 0 _)
  have hpanic := callAssociation_snd h plan.onCreate
  unfold World.created Serial.created
  generalize w.callAssociation 0 plan.onCreate = called at hacted hpanic
  obtain ⟨v, content?⟩ := called
  obtain rfl : content? = s.associationPanic plan.onCreate := hpanic
  dsimp only at hacted ⊢
  cases s.associationPanic plan.onCreate with
  | some content => exact hacted.panicChannel task content
  | none =>
      dsimp only
      cases plan.failure with
      | some failure => exact hacted.failChannel task _
      | none =>
          obtain ⟨hfirst, hkept⟩ := shows_keepStrategy hacted.shows hopen hendpoint hnone plan
          dsimp only
          rw [hfirst]
          have hkeep : Acted [] [] w (v.keepStrategy 0 0 plan).2
              { s with strategy := some plan, channelCalls := 0 } :=
            hacted.note (.strategyCreated v.strategies.length) rfl rfl ⟨rfl, rfl, rfl⟩ rfl hkept
          exact hkeep.busy (.openChannel hopen rfl) task

/-- The strategy is asked for a channel. -/
theorem onward_openChannel {plan : StrategyPlan} (h : w.view.Shows s) (hopen : s.outcome = none)
    (hsome : s.strategy = some plan) (task : TaskId) :
    Onward task [] (s.openChannel plan) w (w.openChannel task 0 0 []) := by
  obtain ⟨cell, hcell, hplan, hcalls⟩ := exists_strategy h hsome
  have hlookup : w.strategies[0]? = some cell := by rw [hcell]; rfl
  have hacted : Acted [] [.channel 0] w
      ((w.contact 0 (.channel 0)).modifyStrategy 0 fun s => { s with calls := s.calls + 1 })
      { s with channelCalls := s.channelCalls + 1 } :=
    (acted_contact h _ rfl).goes
      (quiet_modifyStrategy _ 0 (fun _ => rfl) fun _ => Nat.le_succ _) rfl
      (shows_countChannel (w := w.contact 0 (.channel 0)) h hsome)
  unfold World.openChannel Serial.openChannel
  rw [hlookup]
  dsimp only
  rw [hplan, hcalls]
  exact (hacted.quiet (quiet_emit _ _) (view_emit _ _)).busy (.channel hopen (.called _)) task

/-- The strategy has yielded a channel, which is open. -/
theorem onward_opened (h : w.view.Shows s) (hopen : s.outcome = none) (channel : ChannelId)
    (value : Value) (task : TaskId) : Onward task [] (s.opened channel (some .succeed)) w
      (w.opened task 0 0 channel (.ok value) []) := by
  have hquiet : Quiet w (w.modifyStrategy 0 fun s => { s with current := some channel }) :=
    quiet_modifyStrategy w 0 (fun _ => rfl) fun _ => Nat.le_refl _
  have hacted := ((Acted.refl h).quiet hquiet
    (view_modifyStrategy w 0 fun _ => rfl)).leaveLock task
  have hends := hacted.ends (.replies (.ok (.handle channel)) (.inl rfl)) task
  have hpresent : (Except.ok (.handle channel) : Reply).map (World.present
      ((w.modifyStrategy 0 fun s => { s with current := some channel }).leaveLock task 0)) =
        .ok (.channel channel true) := by
    have hclosed := hacted.shows.closedChannels hopen
    simp only [Except.map, World.present, World.isOpen]
    rw [show World.closedChannels _ = [] from hclosed]
    rfl
  rw [hpresent] at hends
  exact hends

/-! ## Closing -/

/-- A teardown goes on at its next stage. -/
theorem Acted.nextStage {interrupt : Option TokenName} (h : Acted [] made w v s)
    (stage : Teardown.Stage) (hclosed : s.outcome.isSome = true)
    (hasked : stage = .shutdown ∨ stage = .closeStrategy ∨ stage = .closeEndpoint → s.asked = false)
    (task : TaskId) : Onward task [] ((s.stage stage).behind made) w
      (v.enter task (.teardown (s.taken interrupt) stage) []) :=
  h.busy (.stage hclosed hasked) task

/-- A teardown that no token can interrupt. -/
theorem interrupted_eq (h : w.view.Shows s) (td : Teardown) : w.interrupted td = false := by
  have hcancelled : w.cancelled = [] := h.cancelled
  rw [interrupted, hcancelled]
  cases td.interrupt <;> rfl

theorem strategyPlan_eq {plan : StrategyPlan} (h : w.view.Shows s)
    (hsome : s.strategy = some plan) :
    w.strategyPlan 0 = plan := by
  obtain ⟨cell, hcell, hplan, -⟩ := exists_strategy h hsome
  rw [strategyPlan, hcell]
  exact hplan

/-- The endpoint is asked to close, and may refuse. -/
theorem shows_closeEndpoint {plan : Option EndpointPlan} (h : w.view.Shows s)
    (hclosed : s.outcome.isSome = true) (hasked : s.asked = false)
    (hsome : s.endpoint = some plan) : (w.closeEndpoint 0 0).view.Shows s.ask ∧
      (w.closeEndpoint 0 0).view.owned = w.view.owned := by
  have hplan : (w.contact 0 (.closeEndpoint 0)).endpointPlan? 0 = plan := endpointPlan?_eq h hsome
  have hobeys : Serial.obeys plan = true → s.ask = { s with asked := true } := fun hobeys => by
    rw [Serial.ask, hsome, Option.any_some, hobeys]
  have hrefuses : Serial.obeys plan = false → s.ask = s := fun hrefuses => by
    have hsame : { s with asked := false } = s := by rw [← hasked]
    rw [← hsame, Serial.ask]
    simp only [hsome, Option.any_some, hrefuses]
  unfold closeEndpoint
  dsimp only
  rw [hplan]
  cases plan with
  | none =>
      rw [hobeys rfl]
      exact shows_closeLocal (w := w.contact 0 (.closeEndpoint 0)) h hsome hclosed
  | some plan =>
      dsimp only
      cases hclose : plan.close with
      | succeed =>
          rw [hobeys (by simp [Serial.obeys, hclose])]
          exact shows_closeLocal (w := (w.contact 0 (.closeEndpoint 0)).emit .endpointClose) h hsome
            hclosed
      | panic content =>
          rw [hrefuses (by simp [Serial.obeys, hclose])]
          simp only [view_swallowPanic, view_emit, view_contact]
          exact ⟨h, trivial⟩
      | fail error =>
          rw [hrefuses (by simp [Serial.obeys, hclose])]
          -- an endpoint that cannot be closed is passed over without a log line
          split
          next heq => cases heq
          next heq => cases heq
          all_goals
            simp only [view_swallow, view_emit, view_contact]
            exact ⟨h, trivial⟩

/-- The last stage of a teardown notes the outcome and leaves the lock. -/
theorem onward_finish (h : w.view.Shows s) (hclosed : s.outcome.isSome = true)
    (outcome : Except Error Unit) (td : Teardown) (hclient : td.client = 0) (task : TaskId) :
    Onward task [] (s.finish outcome) w (w.runStage task td (.finish outcome) []) := by
  have hacted : Acted [] [] w ((w.recordOutcome 0 outcome).leaveLock task 0)
      { s with outcome := some (outcome.mapError Error.clone) } :=
    Acted.leaveLock ((Acted.refl h).same (u := w.recordOutcome 0 outcome) ⟨rfl, rfl, rfl⟩ rfl rfl
      (shows_recordOutcome h hclosed outcome)) task
  have hends := hacted.ends (.replies (closeReply outcome) (.inl rfl)) task
  have hpresent : (closeReply outcome).map
      ((w.recordOutcome 0 outcome).leaveLock task 0).present = closeReply outcome := by
    cases outcome <;> rfl
  rw [hpresent] at hends
  simp only [World.runStage, hclient]
  exact hends

/-- Without an endpoint its stage is passed over. -/
theorem stage_of_no_endpoint (hnone : s.endpoint = none) (hasked : s.asked = false) :
    s.stage .closeEndpoint = s.stage .shutdownNow := by
  have hsame : s.ask = s := by
    have hsame : { s with asked := false } = s := by rw [← hasked]
    rw [← hsame, Serial.ask]
    simp only [hnone, Option.any_none]
  simp only [Serial.stage, Serial.closedStrategy, hsame, hnone, Option.toList_none, List.map_nil,
    List.nil_append]

/-- The stage of an endpoint asks it to close. -/
theorem stage_of_endpoint {plan : Option EndpointPlan} (hsome : s.endpoint = some plan) :
    s.stage .closeEndpoint = (s.ask.stage .shutdownNow).behind [.closeEndpoint 0] := by
  simp only [Serial.stage, Serial.closedStrategy, hsome, Serial.Turn.behind_behind]
  rfl

/-- A stage of a teardown makes the calls that are due. -/
theorem onward_stage {stage : Teardown.Stage} {interrupt : Option TokenName} (h : w.view.Shows s)
    (hclosed : s.outcome.isSome = true)
    (hasked : stage = .shutdown ∨ stage = .closeStrategy ∨ stage = .closeEndpoint → s.asked = false)
    (task : TaskId) : Onward task [] (s.stage stage) w
      (w.runStage task (s.taken interrupt) stage []) := by
  have hrefl := Acted.refl h
  cases stage with
  | shutdown =>
      have hquiet := quiet_contact_shutdown w 0 .shutdown (·.shutdownAssociation 0)
        (fun v => quiet_shutdownAssociation v 0) .shutdown
      exact ((acted_contact h _ rfl).quiet hquiet (by simp)).nextStage .closeStrategy hclosed
        (fun _ => hasked (.inl rfl)) task
  | closeStrategy =>
      have hasked : s.asked = false := hasked (.inr (.inl rfl))
      simp only [World.runStage, Serial.stage, Serial.closeStrategy, Serial.taken_strategy]
      cases hstrategy : s.strategy with
      | none => exact hrefl.nextStage .closeEndpoint hclosed (fun _ => hasked) task
      | some plan =>
          have hacted := (acted_contact h (.closeStrategy 0) rfl).quiet
            (quiet_emit _ .strategyClose) (view_emit _ _)
          have hplan : w.strategyPlan 0 = plan := strategyPlan_eq h hstrategy
          dsimp only [Option.map_some]
          rw [hplan]
          exact hacted.busy (.strategy hclosed hasked (.called plan.close)) task
  | closeEndpoint =>
      have hasked : s.asked = false := hasked (.inr (.inr rfl))
      simp only [World.runStage, Serial.taken_endpoint]
      cases hendpoint : s.endpoint with
      | none =>
          rw [stage_of_no_endpoint hendpoint hasked]
          exact hrefl.nextStage .shutdownNow hclosed (by simp) task
      | some plan =>
          rw [stage_of_endpoint hendpoint]
          obtain ⟨hshows, howned⟩ := shows_closeEndpoint h hclosed hasked hendpoint
          exact ((acted_contact h (.closeEndpoint 0) rfl).goes (quiet_closeEndpoint w 0 0) howned
            hshows).nextStage _ hclosed (by simp) task
  | shutdownNow =>
      have hquiet := quiet_contact_shutdown w 0 .shutdownNow (·.shutdownAssociationNow 0)
        (fun v => quiet_shutdownAssociationNow v 0) .shutdownNow
      have hstage : s.stage .shutdownNow = (s.stage .drain).behind [.shutdownNow] := by
        simp only [Serial.stage, Serial.Turn.behind_behind]
        rfl
      rw [hstage]
      exact ((acted_contact h .shutdownNow rfl).quiet hquiet (by simp)).nextStage _ hclosed
        (by simp) task
  | drain =>
      have hstage : s.stage .drain = (s.stage .release).behind [.awaitCompletion] := by
        simp only [Serial.stage, Serial.Turn.behind_behind]
        rfl
      rw [hstage]
      simp only [World.runStage, interrupted_eq h, Bool.false_eq_true, if_false]
      exact (acted_contact h .awaitCompletion rfl).busy (.drain hclosed .called) task
  | release =>
      obtain ⟨c, hc, -⟩ := exists_client h
      have hquiet := @quiet_releaseForTeardown w 0 c (by rw [hc]; rfl)
      exact ((acted_contact h .release rfl).quiet hquiet (by simp)).nextStage
        .awaitEndpoint hclosed (by simp) task
  | awaitEndpoint =>
      simp only [World.runStage, Serial.stage, Serial.awaitEndpoint, Serial.taken_endpoint,
        interrupted_eq h, Bool.false_eq_true, if_false]
      cases hendpoint : s.endpoint with
      | none => exact hrefl.nextStage (.finish (.ok ())) hclosed (by simp) task
      | some plan =>
          exact (acted_contact h (.awaitEndpoint 0) rfl).busy
            (.endpoint hclosed hendpoint .called) task
  | finish outcome => exact onward_finish h hclosed outcome _ rfl task

/-! ## Waits of a teardown -/

/-- A teardown goes on after it has closed the strategy. -/
theorem onward_strategyEnded {ending : Ending} {interrupt : Option TokenName} (h : w.view.Shows s)
    (hclosed : s.outcome.isSome = true) (hasked : s.asked = false) (reply : Reply) (task : TaskId) :
    Onward task [] (s.closedStrategy (some ending)) w
      (w.resume task (.teardown (s.taken interrupt) (.strategy 0)) reply []) := by
  have hquiet := quiet_pauseEnded w (s.taken interrupt) (.strategy 0) reply
  cases reply with
  | ok value =>
      obtain ⟨hshows, howned⟩ := shows_strategyClosed h hclosed 0
      exact ((Acted.refl h).goes hquiet howned hshows).nextStage
        .closeEndpoint hclosed (fun _ => hasked) task
  | error error =>
      exact ((Acted.refl h).goes hquiet rfl h).nextStage .closeEndpoint hclosed
        (fun _ => hasked) task

/-- A teardown goes on after the panic of the strategy. -/
theorem onward_strategyPanicked {ending : Ending} {interrupt : Option TokenName}
    (h : w.view.Shows s)
    (hclosed : s.outcome.isSome = true) (hasked : s.asked = false) (content : Panic)
    (task : TaskId) : Onward task [] (s.closedStrategy (some ending)) w
      (w.unwind task (.teardown (s.taken interrupt) (.strategy 0)) content []) :=
  ((Acted.refl h).goes (quiet_pausePanicked w (s.taken interrupt) (.strategy 0) content)
    rfl h).nextStage .closeEndpoint hclosed (fun _ => hasked) task

/-- After the wait for the operations of a client its configuration is released in any case. -/
theorem pauseEnded_drain (w : World) (td : Teardown) (deadline : Nat) (reply : Reply) :
    (w.pauseEnded td (.drain deadline) reply).1 = .release ∧
      (w.pauseEnded td (.drain deadline) reply).2.view = w.view := by
  rcases reply with error | value
  · exact ⟨rfl, rfl⟩
  · cases value with
    | flag drained => cases drained <;> exact ⟨rfl, rfl⟩
    | _ => exact ⟨rfl, rfl⟩

/-- The wait for the operations of a client goes on, or the teardown does. -/
theorem onward_drain {interrupt : Option TokenName} {deadline : Nat} (h : w.view.Shows s)
    (hclosed : s.outcome.isSome = true) (hdrains : Serial.Drains control inner)
    (ht : w.task? task = some t) (hcontrol : t.control = control)
    (hframes : t.frames = inner ++ [.teardown (s.taken interrupt) (.drain deadline)])
    (hstep : w.step? task = some u) : Onward task [] (s.stage .release) w u := by
  have hstay : ∀ {v control' inner'}, Quiet w v → v.view = w.view → Serial.Drains control' inner' →
      Onward task [] (s.stage .release) w (v.goto task control'
        (inner' ++ [.teardown (s.taken interrupt) (.drain deadline)])) :=
    fun hquiet hview hdrains =>
      ((Acted.refl h).quiet hquiet hview).busy (.drain hclosed hdrains) task
  cases hdrains with
  | called =>
      rw [step?_call ht hcontrol, hframes] at hstep
      obtain rfl := Option.some.inj hstep
      simp only [makeCall, World.awaitCompletion]
      split
      · exact hstay (.refl w) rfl (.waits _ _)
      · next plan _ => exact hstay (quiet_emit w _) rfl (.acts (.called plan.await) plan.completed)
      · exact hstay (.refl w) rfl (.replies _)
  | waits handler limit =>
      rw [step?_wait ht hcontrol, hframes] at hstep
      obtain ⟨control, hready, rfl⟩ := Option.map_eq_some_iff.1 hstep
      obtain ⟨drained, -, rfl⟩ := Option.map_eq_some_iff.1 hready
      exact hstay (.refl w) rfl (.replies _)
  | acts hacts completed =>
      rw [List.append_assoc] at hframes
      refine onward_acts hacts ht hcontrol hframes hstep (fun hacts' => ?_) (fun value _ => ?_)
        (fun error _ => ?_) fun content _ => ?_
      · rw [List.append_cons]
        exact hstay (.refl w) rfl (.acts hacts' completed)
      · exact hstay (quiet_emit w _) rfl (.replies _)
      · exact hstay (quiet_emit w _) rfl (.replies _)
      · exact hstay (.refl w) rfl (.panics content)
  | replies reply =>
      rw [step?_reply ht hcontrol hframes] at hstep
      obtain rfl := Option.some.inj hstep
      obtain ⟨hstage, hview⟩ := pauseEnded_drain w (s.taken interrupt) deadline reply
      simp only [resume, hstage]
      exact ((Acted.refl h).quiet (quiet_pauseEnded w _ _ reply) hview).nextStage _ hclosed
        (by simp) task
  | panics content =>
      rw [step?_unwind ht hcontrol hframes] at hstep
      obtain rfl := Option.some.inj hstep
      have hquiet := quiet_pausePanicked w (s.taken interrupt) (.drain deadline) content
      exact ((Acted.refl h).goes hquiet rfl h).nextStage _ hclosed (by simp) task

/-- A teardown whose wait for the endpoint has ended without a panic comes to its end. -/
theorem awaited_of_ne {ending : Ending} (h : ∀ content, ending ≠ .panic content) (s : Serial) :
    s.awaited (some ending) = s.stage (.finish (.ok ())) := by
  cases ending with
  | panic content => exact absurd rfl (h content)
  | _ => rfl

/-- The wait for the endpoint of a client goes on, further inside of it or further out. -/
theorem Acted.awaits {plan : Option EndpointPlan} {interrupt : Option TokenName}
    (h : Acted new made w v s) (hclosed : s.outcome.isSome = true) (hsome : s.endpoint = some plan)
    (hawaits : s.Awaits plan outcome control inner) (task : TaskId) :
    Onward task new ((s.awaited outcome).behind made) w
      (v.goto task control (inner ++ [.teardown (s.taken interrupt) .endpoint])) :=
  h.busy (.endpoint hclosed hsome hawaits) task

/-- A teardown goes on after its endpoint has closed or has failed to. -/
theorem onward_endpointEnded {interrupt : Option TokenName} {ending : Ending} (h : w.view.Shows s)
    (hclosed : s.outcome.isSome = true) (hending : ∀ content, ending ≠ .panic content)
    (reply : Reply) (task : TaskId) : Onward task [] (s.awaited (some ending)) w
      (w.resume task (.teardown (s.taken interrupt) .endpoint) reply []) := by
  rw [awaited_of_ne hending]
  cases reply <;> exact (Acted.refl h).nextStage _ hclosed (by simp) task

/-- The endpoint of a client is asked to tell when it has closed. One that has no answer of its own
waits for its tasks. -/
theorem onward_awaitClosed {plan : Option EndpointPlan} {interrupt : Option TokenName}
    (h : w.view.Shows s) (hclosed : s.outcome.isSome = true) (hsome : s.endpoint = some plan)
    (task : TaskId) : Onward task [] (s.awaited (s.closure? plan)) w
      (w.makeCall task (.awaitClosed 0) [.teardown (s.taken interrupt) .endpoint]) := by
  have hfind := endpointPlan?_eq h hsome
  have hrefl := Acted.refl h
  simp only [makeCall, World.awaitClosed]
  rw [hfind]
  cases plan with
  | none => exact hrefl.awaits hclosed hsome (.lingers .request (.inl rfl)) task
  | some plan =>
      dsimp only
      have hacted := hrefl.quiet (quiet_emit w .endpointAwait) rfl
      cases hawait : plan.await with
      | some behaviour =>
          have hclosure : s.closure? (some plan) = behaviour.outcome? := by
            rw [Serial.closure?, Option.bind_some, hawait]
          rw [hclosure]
          exact hacted.awaits hclosed hsome (.acts (.called behaviour)) task
      | none =>
          have hclosure : s.closure? (some plan) = Serial.lingering s.asked := by
            rw [Serial.closure?, Option.bind_some, hawait]
            rfl
          rw [hclosure]
          exact hacted.awaits hclosed hsome (.lingers .called (.inr rfl)) task

/-- The wait for the tasks of an endpoint goes on once the endpoint was asked to close, and ends
once they are gone. -/
theorem onward_lingers {plan : Option EndpointPlan} {interrupt : Option TokenName}
    (h : w.view.Shows s) (hclosed : s.outcome.isSome = true) (hsome : s.endpoint = some plan)
    (hlingers : Serial.Lingers s.asked control inner)
    (houter : outer = [] ∨ outer = [.endpointClosed 0]) (ht : w.task? task = some t)
    (hcontrol : t.control = control)
    (hframes : t.frames = inner ++ (outer ++ [.teardown (s.taken interrupt) .endpoint]))
    (hstep : w.step? task = some u) :
    Onward task [] (s.awaited (Serial.lingering s.asked)) w u := by
  have hstay : ∀ {v control'} inner', Acted [] [] w v s → Serial.Lingers s.asked control' inner' →
      Onward task [] (s.awaited (Serial.lingering s.asked)) w (v.goto task control'
        (inner' ++ (outer ++ [.teardown (s.taken interrupt) .endpoint]))) := by
    intro v control' inner' hacted hlingers'
    rw [← List.append_assoc]
    exact hacted.awaits hclosed hsome (.lingers hlingers' houter) task
  cases hlingers with
  | called =>
      rw [step?_call ht hcontrol, hframes] at hstep
      obtain rfl := Option.some.inj hstep
      exact hstay [.localRequest 0] (.refl h) .request
  | request =>
      obtain ⟨cell, hcell, -, hasked, -⟩ := exists_endpoint h hsome
      have hlocal : w.local? 0 = some cell.endpoint := by rw [local?, hcell]; rfl
      rw [step?_wait ht hcontrol, hframes] at hstep
      obtain ⟨control, hready, rfl⟩ := Option.map_eq_some_iff.1 hstep
      simp only [ready?, hlocal, Option.any_some] at hready
      split at hready
      next hrequested =>
        cases hready
        rw [hasked] at hrequested
        exact hstay _ (.refl h) (.requested hrequested _)
      next => cases hready
  | requested hasked reply =>
      rw [step?_reply ht hcontrol hframes] at hstep
      obtain rfl := Option.some.inj hstep
      exact hstay [.localTasks 0] (.refl h) (.tasks hasked)
  | tasks hasked =>
      rw [step?_wait ht hcontrol, hframes] at hstep
      obtain ⟨control, hready, rfl⟩ := Option.map_eq_some_iff.1 hstep
      simp only [ready?] at hready
      split at hready
      next =>
        cases hready
        exact hstay _ (.refl h) (.gone hasked _)
      next => cases hready
  | gone hasked reply =>
      rw [step?_reply ht hcontrol hframes] at hstep
      obtain rfl := Option.some.inj hstep
      obtain ⟨hshows, howned⟩ := shows_finishLocal h hsome hclosed hasked
      exact hstay [] ((Acted.refl h).goes (quiet_finishLocal w 0) howned hshows)
        (.finished hasked _)
  | finished hasked reply =>
      have hending : Serial.lingering s.asked = some .succeed := by
        rw [Serial.lingering, if_pos hasked]
      rw [hending]
      rcases houter with rfl | rfl
      · rw [step?_reply ht hcontrol hframes] at hstep
        obtain rfl := Option.some.inj hstep
        exact onward_endpointEnded h hclosed (fun _ heq => by cases heq) reply task
      · rw [step?_reply ht hcontrol hframes] at hstep
        obtain rfl := Option.some.inj hstep
        have hreplies : s.Awaits plan (some .succeed) (.reply reply) [] :=
          .replies (fun _ heq => by cases heq) reply
        have hacted := (Acted.refl h).quiet (quiet_emit w .endpointClosed) rfl
        exact hacted.awaits hclosed hsome hreplies task

/-- The wait for the endpoint of a client goes on, or the teardown does. -/
theorem onward_await {plan : Option EndpointPlan} {interrupt : Option TokenName}
    (h : w.view.Shows s) (hclosed : s.outcome.isSome = true) (hsome : s.endpoint = some plan)
    (hawaits : s.Awaits plan outcome control inner) (ht : w.task? task = some t)
    (hcontrol : t.control = control)
    (hframes : t.frames = inner ++ [.teardown (s.taken interrupt) .endpoint])
    (hstep : w.step? task = some u) : Onward task [] (s.awaited outcome) w u := by
  have hrefl := Acted.refl h
  cases hawaits with
  | called =>
      rw [step?_call ht hcontrol, hframes] at hstep
      obtain rfl := Option.some.inj hstep
      exact onward_awaitClosed h hclosed hsome task
  | acts hacts =>
      rw [List.append_assoc] at hframes
      have hended := hrefl.quiet (quiet_emit w .endpointClosed) rfl
      refine onward_acts hacts ht hcontrol hframes hstep (fun hacts' => ?_) ?_ ?_ ?_
      · rw [List.append_cons]
        exact hrefl.awaits hclosed hsome (.acts hacts') task
      · rintro value rfl
        have hreplies : s.Awaits plan (some .succeed) (.reply (.ok value)) [] :=
          .replies (fun _ heq => by cases heq) _
        exact hended.awaits hclosed hsome hreplies task
      · rintro error rfl
        have hreplies : s.Awaits plan (some (.fail error)) (.reply (.error error)) [] :=
          .replies (fun _ heq => by cases heq) _
        exact hended.awaits hclosed hsome hreplies task
      · rintro content rfl
        have hpanics : s.Awaits plan (some (.panic content)) (.unwind content) [] := .panics content
        exact hrefl.awaits hclosed hsome hpanics task
  | lingers hlingers houter =>
      rw [List.append_assoc] at hframes
      exact onward_lingers h hclosed hsome hlingers houter ht hcontrol hframes hstep
  | replies hending reply =>
      rw [step?_reply ht hcontrol hframes] at hstep
      obtain rfl := Option.some.inj hstep
      exact onward_endpointEnded h hclosed hending reply task
  | panics content =>
      rw [step?_unwind ht hcontrol hframes] at hstep
      obtain rfl := Option.some.inj hstep
      exact hrefl.nextStage (.finish (.error (.ofPanic content))) hclosed (by simp) task

/-! ## Steps of the call with the lock -/

/-- A step of the call that has the lock. -/
theorem Busy.step (hbusy : s.Busy control frames turn) (h : w.view.Shows s)
    (ht : w.task? task = some t) (hcontrol : t.control = control) (hframes : t.frames = frames)
    (hstep : w.step? task = some u) : Onward task [] turn w u := by
  cases hbusy with
  | connect hopen hendpoint hnone =>
      rw [step?_call ht hcontrol, hframes] at hstep
      obtain rfl := Option.some.inj hstep
      exact onward_connect h hopen hendpoint hnone task
  | creation hopen hendpoint hnone hacts =>
      refine onward_acts hacts ht hcontrol hframes hstep (fun hacts' =>
        (Acted.refl h).busy (.creation hopen hendpoint hnone hacts') task) ?_ ?_ ?_
      · rintro value rfl
        exact onward_created h hopen hendpoint hnone _ value task
      · rintro error rfl
        exact (Acted.refl h).failChannel task _
      · rintro content rfl
        exact (Acted.refl h).panicChannel task content
  | openChannel hopen hsome =>
      rw [step?_call ht hcontrol, hframes] at hstep
      obtain rfl := Option.some.inj hstep
      exact onward_openChannel h hopen hsome task
  | channel hopen hacts =>
      refine onward_acts hacts ht hcontrol hframes hstep (fun hacts' =>
        (Acted.refl h).busy (.channel hopen hacts') task) ?_ ?_ ?_
      · rintro value rfl
        exact onward_opened h hopen _ value task
      · rintro error rfl
        exact (Acted.refl h).failChannel task _
      · rintro content rfl
        exact (Acted.refl h).panicChannel task content
  | stage hclosed hasked =>
      rw [step?_call ht hcontrol, hframes] at hstep
      obtain rfl := Option.some.inj hstep
      exact onward_stage h hclosed hasked task
  | strategy hclosed hasked hacts =>
      refine onward_acts hacts ht hcontrol hframes hstep (fun hacts' =>
        (Acted.refl h).busy (.strategy hclosed hasked hacts') task) ?_ ?_ ?_
      · rintro value rfl
        exact onward_strategyEnded h hclosed hasked _ task
      · rintro error rfl
        exact onward_strategyEnded h hclosed hasked _ task
      · rintro content rfl
        exact onward_strategyPanicked h hclosed hasked content task
  | drain hclosed hdrains => exact onward_drain h hclosed hdrains ht hcontrol hframes hstep
  | endpoint hclosed hsome hawaits =>
      exact onward_await h hclosed hsome hawaits ht hcontrol hframes hstep

end World

end Remoting
