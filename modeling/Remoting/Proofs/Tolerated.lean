import Remoting.Proofs.Leaks
import Remoting.Proofs.Releasing

/-!
# Failures that a teardown tolerates

`World.tolerated` is what the log says about the teardown of one client: the steps that have failed,
each with its failure. This module says what the parts of a teardown add to it. A part that may fail
adds its failure if it does, `World.Tells`, and nothing else adds anything.
-/

namespace Remoting

/-! ## Failures of collaborators -/

/-- The failure of a call that ends in a given way. -/
def Ending.failure? : Ending → Option Error
  | .succeed => none
  | .fail error => some error
  | .panic content => some (.ofPanic content)

/-- With what failure, if any, the call ended that a task was inside of. -/
def Control.ended? : Control → Option (Option Error)
  | .reply (.ok _) => some none
  | .reply (.error error) => some (some error)
  | .unwind content => some (some (.ofPanic content))
  | _ => none

theorem Control.hands_of_ended? {control : Control} {failure : Option Error}
    (h : control.ended? = some failure) : control.hands = true := by
  cases control <;> first | rfl | cases h

/-- The failure that a log line tells of the teardown of a client. -/
def LogLine.tolerated? (client : ClientId) : LogLine → Option (TeardownStep × Error)
  | .swallowed number step error =>
    if number = client + 1 ∧ step ≠ .join then some (step, error) else none
  | _ => none

namespace World

variable {w v u : World} {client other : ClientId} {task : TaskId} {step : TeardownStep}
  {failure : Option Error}

/-- The failures that the teardown of a client has tolerated, in the order of the log. -/
def tolerated (w : World) (client : ClientId) : List (TeardownStep × Error) :=
  w.log.filterMap (LogLine.tolerated? client)

/-- A step of the teardown of a client ends, and the log tells its failure if there is one. -/
def Tells (client : ClientId) (step : TeardownStep) (failure : Option Error) (w u : World) : Prop :=
  u.tolerated client = w.tolerated client ++ (failure.map (step, ·)).toList

/-- The failure of an association that is told something by a teardown. Only a recording association
can fail, by a panic. -/
def associationFailure? (w : World) (client : ClientId) (panic : RecorderPlan → Option Panic) :
    Option Error :=
  match w.association? client with
  | some (.recorder plan) => (panic plan).map .ofPanic
  | _ => none

/-- The failure of the request to close an endpoint. An endpoint that cannot be closed in this way
does not fail. -/
def closeFailure? (w : World) (endpoint : EndpointId) : Option Error :=
  match (w.endpointPlan? endpoint).bind fun plan => plan.close.failure? with
  | some (.unsupportedOperation _) => none
  | failure => failure

/-- The failure of a release of the configuration of a client: the earliest failure of the cleanup
actions that the release runs. -/
def releaseFailure? (w : World) (client : ClientId) : Option Error :=
  (w.configOf? client).bind fun cell =>
    if cell.release.released then none else cell.release.disposers.findSome? Disposer.failure?

/-! ## Lines about other clients -/

/-- A log line tells nothing of the teardown of a client. -/
abbrev Aside (client : ClientId) (line : LogLine) : Prop :=
  line.tolerated? client = none

/-- Every line that tells of a teardown is notable. -/
theorem notable_of_tolerated? {line : LogLine} {entry : TeardownStep × Error}
    (h : line.tolerated? client = some entry) : line.Notable := by
  cases line with
  | swallowed number step error =>
      simp only [LogLine.tolerated?] at h
      split at h
      next hand => exact hand.2
      next => cases h
  | _ => cases h

/-- Lines that tell nothing of a teardown. -/
theorem Writes.tolerated (h : Writes (Aside client) w u) :
    u.tolerated client = w.tolerated client := by
  obtain ⟨new, hlog, hlines⟩ := h
  have hnone : new.filterMap (LogLine.tolerated? client) = [] := by
    refine List.filterMap_eq_nil_iff.2 fun line hline => ?_
    cases hline' : line.tolerated? client with
    | none => rfl
    | some entry => exact hline'.symm.trans (hlines line hline (notable_of_tolerated? hline'))
  rw [World.tolerated, hlog, List.filterMap_append, hnone, List.append_nil, World.tolerated]

theorem Deals.tolerated {handler : HandlerId} {deeds : List Deed}
    (h : Deals (Aside client) handler deeds w u) : u.tolerated client = w.tolerated client :=
  h.log.tolerated

/-! ## Failures -/

theorem Tells.of_eq (h : u.tolerated client = w.tolerated client) : Tells client step none w u :=
  h.trans (List.append_nil _).symm

/-- A part that tells a failure after a part that tells nothing. -/
theorem Tells.after (h : v.tolerated client = w.tolerated client)
    (h' : Tells client step failure v u) :
    Tells client step failure w u := by
  rw [Tells, h', h]

/-- A part that tells nothing after a part that tells a failure. -/
theorem Tells.before (h : Tells client step failure w v)
    (h' : u.tolerated client = v.tolerated client) :
    Tells client step failure w u :=
  h'.trans h

theorem tells_swallow (w : World) (client : ClientId) {step : TeardownStep} (hstep : step ≠ .join)
    (error : Error) :
    Tells client step (some error) w (w.swallow client step error) := by
  have hline : (LogLine.swallowed (client + 1) step error).tolerated? client = some (step, error) :=
    if_pos ⟨rfl, hstep⟩
  show (w.log ++ [_]).filterMap _ = _
  rw [List.filterMap_append, List.filterMap_cons, hline]
  rfl

theorem tells_swallowPanic (w : World) (client : ClientId) (hstep : step ≠ .join)
    (content : Option Panic) :
    Tells client step (content.map .ofPanic) w (w.swallowPanic client step content) := by
  cases content with
  | none => exact .of_eq rfl
  | some content => exact tells_swallow w client hstep _

/-! ## Parts of a teardown -/

theorem tells_shutdown (w : World) (client : ClientId) :
    Tells client .shutdown (w.associationFailure? client RecorderPlan.shutdown) w
      (let (v, content) := w.shutdownAssociation client
      v.swallowPanic client .shutdown content) := by
  have hdeals : Deals (Aside client) 0 _ w _ := deals_shutdownAssociation w client
  unfold shutdownAssociation associationFailure? at *
  cases hassociation : w.association? client with
  | none => exact .of_eq rfl
  | some association =>
      rw [hassociation] at hdeals
      cases association with
      | handler handler => exact .of_eq hdeals.tolerated
      | recorder plan => exact .after hdeals.tolerated (tells_swallowPanic _ client (by decide) _)

theorem tells_shutdownNow (w : World) (client : ClientId) :
    Tells client .shutdownNow (w.associationFailure? client RecorderPlan.shutdownNow) w
      (let (v, content) := w.shutdownAssociationNow client
      v.swallowPanic client .shutdownNow content) := by
  have hdeals : Deals (Aside client) 0 _ w _ := deals_shutdownAssociationNow w (fun _ => rfl) client
  unfold shutdownAssociationNow associationFailure? at *
  cases hassociation : w.association? client with
  | none => exact .of_eq rfl
  | some association =>
      rw [hassociation] at hdeals
      cases association with
      | handler handler => exact .of_eq hdeals.tolerated
      | recorder plan => exact .after hdeals.tolerated (tells_swallowPanic _ client (by decide) _)

theorem tells_closeEndpoint (w : World) (client : ClientId) (endpoint : EndpointId) :
    Tells client .closeEndpoint (w.closeFailure? endpoint) w (w.closeEndpoint client endpoint) := by
  have hlocal : ∀ v : World, (v.closeLocal endpoint).tolerated client = v.tolerated client := by
    intro v
    have hdeals : Deals (Aside client) 0 _ v _ := deals_closeLocal v endpoint
    exact hdeals.tolerated
  have hplan : (w.contact client (.closeEndpoint endpoint)).endpointPlan? endpoint =
    w.endpointPlan? endpoint := rfl
  unfold World.closeEndpoint closeFailure?
  dsimp only
  rw [hplan]
  cases w.endpointPlan? endpoint with
  | none => exact .of_eq (hlocal _)
  | some plan =>
      dsimp only [Option.bind_some]
      cases plan.close with
      | succeed => exact .of_eq (hlocal _)
      | panic content => exact tells_swallowPanic _ client (by decide) (some content)
      | fail error =>
          cases error with
          | unsupportedOperation => exact .of_eq rfl
          | _ => exact tells_swallow _ client (by decide) _

/-- The result of a release in a teardown. -/
theorem releaseConfig_result {c : Client} (hc : w.clients[client]? = some c) :
    ((w.contact client .release).releaseConfig c.config).1 =
      match w.releaseFailure? client with
      | some error => .error error
      | none => .ok () := by
  have hconfigs : (w.contact client .release).configs = w.configs := rfl
  simp only [releaseConfig, releaseFailure?, configOf?, hc, hconfigs]
  cases hcell : w.configs[c.config]? with
  | none => simp [hcell]
  | some cell =>
      obtain ⟨config, disposers, released⟩ := cell
      cases released with
      | true => simp [hcell, Release.run, Release.runNested]
      | false =>
          have hrun : Release.run ⟨disposers, false⟩ =
              ⟨Release.outcome disposers, disposers.flatMap Release.account, Release.gone⟩ :=
            Release.runNested_succ 0 disposers
          simp only [hcell, hrun, Option.bind_eq_bind, Option.bind_some, Bool.false_eq_true,
            if_false]
          rfl

theorem tells_release (w : World) (client : ClientId) :
    Tells client .releaseConfiguration (w.releaseFailure? client) w
      (w.releaseForTeardown client) := by
  unfold releaseForTeardown
  cases hc : w.clients[client]? with
  | none =>
      have hnone : w.releaseFailure? client = none := by simp [releaseFailure?, configOf?, hc]
      rw [hnone]
      exact .of_eq rfl
  | some c =>
      have hresult := releaseConfig_result hc
      have hdeals : Deals (Aside client) 0 _ (w.contact client .release) _ :=
        deals_releaseConfig (w.contact client .release) c.config
      dsimp only
      generalize (w.contact client .release).releaseConfig c.config = done at hresult hdeals
      obtain ⟨result, u⟩ := done
      dsimp only at hresult hdeals
      subst hresult
      cases w.releaseFailure? client with
      | none => exact .of_eq hdeals.tolerated
      | some error => exact .after hdeals.tolerated (tells_swallow u client (by decide) error)

/-! ## Waits of a teardown -/

theorem tolerated_strategyClosed (w : World) (client : ClientId) (strategy : StrategyId) :
    (w.strategyClosed strategy).tolerated client = w.tolerated client := by
  have hdeals : Deals (Aside client) 0 _ w _ := deals_strategyClosed w strategy
  exact hdeals.tolerated

/-- The end of a teardown tells nothing. -/
theorem tolerated_finish (w : World) (task : TaskId) (client : ClientId)
    (outcome : Except Error Unit) :
    ((w.recordOutcome client outcome).leaveLock task client).tolerated client =
      w.tolerated client := by
  have hdeals : Deals (Aside client) 0 _ w _ :=
    (deals_recordOutcome w client outcome).and (deals_leaveLock _ task client)
  exact hdeals.tolerated

theorem tells_drainTimeout (w : World) (client : ClientId) :
    Tells client .awaitCompletion
      (some (.timeout ("operations still active after " ++
        (w.completionTimeout client).describe))) w
      (w.drainTimeout client) :=
  tells_swallow w client (by decide) _

/-! ## Calls that are left -/

theorem configOf?_modifyClient {change : Client → Client} (h : ∀ c, (change c).config = c.config)
    (w : World) (client other : ClientId) :
    (w.modifyClient client change).configOf? other = w.configOf? other := by
  simp only [configOf?, modifyClient, List.getElem?_modify]
  cases w.clients[other]? with
  | none => rfl
  | some c => by_cases heq : client = other <;> simp [heq, h]

theorem configOf?_leaveLock (w : World) (task : TaskId) (client other : ClientId) :
    (w.leaveLock task client).configOf? other = w.configOf? other := by
  have hmodify :
      (w.modifyClient client fun c => { c with lock := c.lock.leave task }).configOf? other =
      w.configOf? other := configOf?_modifyClient (by intro _; rfl) w client other
  unfold leaveLock
  dsimp only
  split <;> exact hmodify

theorem configOf?_dropControl (w : World) (task : TaskId) (control : Control) (other : ClientId) :
    (w.dropControl task control).configOf? other = w.configOf? other := by
  unfold dropControl
  split <;> first | rfl | exact configOf?_leaveLock w task _ other

/-- A call that is no teardown leaves every configuration as it is. -/
theorem configOf?_dropFrame {frame : Frame} (hframe : frame.hold? = none) (w : World)
    (task : TaskId) (other : ClientId) :
    (w.dropFrame task frame).configOf? other = w.configOf? other := by
  cases frame with
  | teardown => cases hframe
  | creation client | channel client => exact configOf?_leaveLock w task client other
  | _ => rfl

theorem configOf?_dropFrames {frames : List Frame} (hframes : ∀ frame ∈ frames, frame.hold? = none)
    (w : World) (task : TaskId) (other : ClientId) :
    (w.dropFrames task frames).configOf? other = w.configOf? other := by
  induction frames generalizing w with
  | nil => rfl
  | cons frame frames ih =>
      obtain ⟨hframe, hframes⟩ := List.forall_mem_cons.1 hframes
      exact (ih hframes _).trans (configOf?_dropFrame hframe w task other)

theorem completionTimeout_of_configOf? (h : u.configOf? client = w.configOf? client) :
    u.completionTimeout client = w.completionTimeout client := by
  rw [completionTimeout, h, completionTimeout]

/-- What is inside of a teardown tells nothing when it is dropped, and leaves the configurations as
they are. -/
theorem tolerated_dropInner {frames : List Frame} (hframes : ∀ frame ∈ frames, frame.hold? = none)
    (w : World) (task : TaskId) (control : Control) (client other : ClientId) :
    ((w.dropControl task control).dropFrames task frames).tolerated client = w.tolerated client ∧
      ((w.dropControl task control).dropFrames task frames).configOf? other =
        w.configOf? other := by
  have hcontrol : Deals (Aside client) 0 _ w _ := deals_dropControl w task control
  have hdrop : Deals (Aside client) 0 _ _ _ :=
    deals_dropFrames (w.dropControl task control) task frames
    fun td deadline hmem => by cases hframes _ hmem
  exact ⟨(hcontrol.trans hdrop).tolerated,
    (configOf?_dropFrames hframes _ task other).trans (configOf?_dropControl w task control other)⟩

/-- A call that is left tells nothing, unless it has the wait for completion of a teardown
inside. -/
theorem tolerated_leaveCall (w : World) (task : TaskId) (control : Control) (cut : Cut)
    (hinner : ∀ td deadline, Frame.teardown td (.drain deadline) ∉ cut.inner) :
    (w.leaveCall task control cut).tolerated client = w.tolerated client := by
  have hruns : Runs (Aside client) 0 _ _ task _ w _ := runs_leaveCall w task control cut
    fun td deadline hmem => absurd hmem (hinner td deadline)
  exact hruns.log.tolerated

/-- A wait for completion that is over the time limit tells so. -/
theorem tells_expireDrain {t : Task} {task : TaskId} {cut : Cut} {td : Teardown}
    {pause : Teardown.Pause} (ht : w.task? task = some t) (hcut : w.overdue? t.frames = some cut)
    (hframe : cut.frame = .teardown td pause) (hinner : ∀ frame ∈ cut.inner, frame.hold? = none) :
    Tells td.client .awaitCompletion
      (some (.timeout ("operations still active after " ++
        (w.completionTimeout td.client).describe))) w (w.expireDrain task) := by
  obtain ⟨hsame, hconfig⟩ := tolerated_dropInner hinner w task t.control td.client td.client
  simp only [expireDrain, ht, hcut, hframe, leaveCall]
  rw [← completionTimeout_of_configOf? hconfig]
  exact .after hsame (tells_drainTimeout _ td.client)

/-- A task that is dropped gives back what its calls hold, the innermost first. -/
theorem dropTask_teardown (w : World) (t : Task) {inner : List Frame} {td : Teardown}
    {pause : Teardown.Pause} (hframes : t.frames = inner ++ [.teardown td pause]) :
    w.dropTask t =
      ((w.dropControl t.id t.control).dropFrames t.id inner).dropFrame t.id
        (.teardown td pause) := by
  have hdrop : (w.dropControl t.id t.control).dropFrames t.id t.frames =
      ((w.dropControl t.id t.control).dropFrames t.id inner).dropFrame t.id
        (.teardown td pause) := by
    rw [hframes, dropFrames, List.foldl_append]
    rfl
  unfold dropTask
  split
  next client interrupt other _ hbackground =>
    obtain ⟨-, heq⟩ := List.append_inj' ((List.nil_append _).trans (hbackground.symm.trans hframes))
      rfl
    cases heq
  next => exact hdrop

/-- A teardown that is stopped in its wait for completion still releases the configuration. -/
theorem tells_abortTask {t : Task} (ht : w.task? task = some t) {inner : List Frame} {td : Teardown}
    {deadline : Nat} (hframes : t.frames = inner ++ [.teardown td (.drain deadline)])
    (hinner : ∀ frame ∈ inner, frame.hold? = none) :
    Tells td.client .releaseConfiguration (w.releaseFailure? td.client) w (w.abortTask task) := by
  obtain ⟨hsame, hconfig⟩ := tolerated_dropInner hinner w t.id t.control td.client td.client
  have hfailure : w.releaseFailure? td.client =
      ((w.dropControl t.id t.control).dropFrames t.id inner).releaseFailure? td.client := by
    rw [releaseFailure?, releaseFailure?, hconfig]
  have hdrop : Deals (fun _ => True) 0 _ w _ := deals_dropTask w t fun _ _ _ => fun _ => trivial
  have hfinish : Deals (Aside td.client) 0 _ _ _ := deals_finishTask (hdrop.task? ht) .aborted
  simp only [abortTask, ht]
  refine .before ?_ hfinish.tolerated
  rw [dropTask_teardown w t hframes, hfailure]
  have hleave : Deals (Aside td.client) 0 _ _ _ := deals_leaveLock
    (((w.dropControl t.id t.control).dropFrames t.id inner).releaseForTeardown td.client) t.id
      td.client
  exact .after hsame ((tells_release _ td.client).before hleave.tolerated)

/-- Any other task that is stopped tells nothing. -/
theorem tolerated_abortTask {t : Task} (ht : w.task? task = some t)
    (hframes : ∀ td deadline, Frame.teardown td (.drain deadline) ∉ t.frames) :
    (w.abortTask task).tolerated client = w.tolerated client := by
  have hdrop : Deals (Aside client) 0 _ w _ := deals_dropTask w t
    fun td deadline hframe => absurd hframe (hframes td deadline)
  have hfinish : Deals (Aside client) 0 _ _ _ := deals_finishTask (hdrop.task? ht) .aborted
  simp only [abortTask, ht]
  exact hfinish.tolerated.trans hdrop.tolerated

end World

end Remoting
