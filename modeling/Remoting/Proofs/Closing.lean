import Remoting.Proofs.Connecting

/-!
# Steps that close a client

The first close that gets the lock of an open client hands what it finds there to a task of its own,
together with the lock. That task goes through the stages of the teardown and is the only one that
changes the client from then on: at every stage the calls it has made are those that
`Teardown.Before` lists, and what it ends with is the verdict of the moment.
-/

namespace Remoting.World

variable {w v u : World} {task : TaskId} {client : ClientId} {frames : List Frame} {reply : Reply}
  {t : Teardown} {calls : List Contact}

/-! ## Work of a teardown -/

/-- The client of a teardown that a task runs is closed, and its calls are those of the teardown. -/
theorem CallsFit.closing (h : w.CallsFit (some task)) {point : Teardown.Point}
    (hheld : w.Held task t.client (.teardown t point)) :
    ∃ outcome, w.Closing t.client outcome task t :=
  (h.clients t.client).closing hheld.2.2.1

/-- A change of a closed client whose teardown has not ended with a value. It may change the outcome
and make the next calls. -/
theorem Closing.work {outcome outcome' : Except Error Unit} {joined : TaskId}
    (h : w.Closing client outcome joined t) (hfit : w.CallsFit (some task))
    (hended : ∀ finish, w.finish? joined = some finish → finish = .aborted)
    (howner : w.owner? client = some task)
    (hwork : Work client calls w u) (hstate : u.state? client = some (.closed outcome'))
    (hclosed : u.closed? client = w.closed? client)
    (hcalls : ∃ skipDrain skipWait,
      afterTeardown (w.history client) ++ calls <+: t.sequence skipDrain skipWait) :
    Proceeds task w u := by
  -- what a teardown calls is never the hand-over of a teardown
  have hmem : ∀ call ∈ calls, call.isTeardown = false := by
    obtain ⟨skipDrain, skipWait, hinitial⟩ := hcalls
    exact fun call hcall =>
      Teardown.not_isTeardown_of_mem (hinitial.subset (List.mem_append_right _ hcall))
  have hbefore := beforeTeardown_append h.handed calls
  have hafter := afterTeardown_append h.handed calls
  have hgoes := hwork.continues hmem
  refine hwork.proceeds hfit howner hmem ?_
  have hopen : w.closed? client = some true := by
    have hclient := hfit.clients client
    rw [ClientOk, h.state] at hclient
    exact hclient.1
  rw [ClientOk, hstate]
  refine ⟨hclosed.trans hopen, joined, t, ?_⟩
  exact
    { state := hstate
      history := by
        rw [hwork.history, hbefore, hafter]
        conv => lhs; rw [h.history]
        rw [List.append_assoc, List.cons_append]
      client_eq := h.client_eq
      opened := by
        rw [hwork.history, hbefore]
        exact h.opened
      has := h.has.parts hwork.toParts
      calls := by
        rw [hwork.history, hafter]
        exact hcalls
      started := hgoes.started h.started
      ended := fun hfinish => by
        rw [hwork.same.finish?] at hfinish
        exact .inl (hended _ hfinish) }

/-- The task of a teardown makes the calls that lead to another point. -/
theorem CallsFit.tear {point point' : Teardown.Point} (h : w.CallsFit (some task))
    (hnone : w.finish? task = none) (hheld : w.Held task t.client (.teardown t point))
    (hwork : Work t.client calls w u) (hstate : u.state? t.client = w.state? t.client)
    (hclosed : u.closed? t.client = w.closed? t.client)
    (hbefore : t.Before point' (afterTeardown (w.history t.client) ++ calls)) :
    Proceeds task w u ∧ u.Held task t.client (.teardown t point') := by
  obtain ⟨outcome, hclosing⟩ := h.closing hheld
  have hstate' := hstate.trans hclosing.state
  refine ⟨hclosing.work h (by simp [hnone]) hheld.1 hwork hstate' hclosed hbefore.isPrefix,
    (hwork.owner _).trans hheld.1, ⟨outcome, hstate'⟩, ?_, ?_⟩
  · rw [hwork.history]
    exact List.mem_append_left _ hclosing.handed
  · rwa [hwork.history, afterTeardown_append hclosing.handed]

/-- Going on with a stage of a teardown. -/
theorem Proceeds.enterStage {stage : Teardown.Stage} (h : Proceeds task w v)
    (hstack : v.Stack task (.teardown t) frames)
    (hheld : v.Held task t.client (.teardown t (.stage stage)))
    (hverdict : ∀ outcome, stage = .finish outcome → outcome = v.verdict t) :
    Advances task w (v.enter task (.teardown t stage) frames) := by
  have hframes : frames = [] := hstack.eq_nil fun _ hwaiter => hwaiter
  subst hframes
  refine .goto h
    { typed := hstack
      callHolds := fun hsome => by
        cases hsome
        exact hheld
      frameHolds := nofun
      verdict := fun hcall => by
        cases hcall
        exact hverdict _ rfl
      uninterrupted := nofun }

/-- A step of a teardown from one stage to another. -/
theorem At.nextStage {control : Control} {frames' : List Frame} {point : Teardown.Point}
    {stage : Teardown.Stage} (h : w.At task control frames')
    (hstack : w.Stack task (.teardown t) frames)
    (hheld : w.Held task t.client (.teardown t point)) (hwork : Work t.client calls w u)
    (hstate : u.state? t.client = w.state? t.client)
    (hclosed : u.closed? t.client = w.closed? t.client)
    (hbefore : t.Before (.stage stage) (afterTeardown (w.history t.client) ++ calls))
    (hverdict : ∀ outcome, stage = .finish outcome → outcome = u.verdict t) :
    Advances task w (u.enter task (.teardown t stage) frames) := by
  obtain ⟨hproceeds, hheld'⟩ := h.fits.tear h.unfinished hheld hwork hstate hclosed hbefore
  exact hproceeds.enterStage (hstack.grow hproceeds.toGrows h.fresh) hheld' hverdict

/-- A step of a teardown into one of its waits. -/
theorem At.pause {control : Control} {call : Call} {frames' : List Frame} {point : Teardown.Point}
    {pause : Teardown.Pause} (h : w.At task control frames')
    (hstack : w.Stack task (.teardown t) frames)
    (hheld : w.Held task t.client (.teardown t point)) (hwork : Work t.client calls w u)
    (hstate : u.state? t.client = w.state? t.client)
    (hclosed : u.closed? t.client = w.closed? t.client)
    (hbefore : t.Before (.pause pause) (afterTeardown (w.history t.client) ++ calls))
    (hcall : (Control.call call).hold? = none) (hawaits : u.Awaits (.teardown t pause) call.job)
    (huninterrupted : pause = .endpoint → u.interrupted t = false) :
    Advances task w (u.enter task call (.teardown t pause :: frames)) := by
  obtain ⟨hproceeds, hheld'⟩ := h.fits.tear h.unfinished hheld hwork hstate hclosed hbefore
  have hstack' : u.Stack task (.teardown t) frames := hstack.grow hproceeds.toGrows h.fresh
  have hframes : frames = [] := hstack.eq_nil fun _ hwaiter => hwaiter
  subst hframes
  have hactive : u.Active task (.call call) [.teardown t pause] := by
    refine .holding ⟨hawaits, hstack'⟩ hcall rfl hheld' (by simp) fun {t'} heq => ?_
    rw [Frame.teardown.injEq] at heq
    obtain ⟨rfl, rfl⟩ := heq
    exact huninterrupted rfl
  exact .goto hproceeds hactive

/-! ## Stages -/

theorem quiet_closeEndpoint (w : World) (client : ClientId) (endpoint : EndpointId) :
    Quiet (w.contact client (.closeEndpoint endpoint)) (w.closeEndpoint client endpoint) := by
  unfold closeEndpoint
  dsimp only
  split
  · exact quiet_closeLocal _ _
  · have hemit := quiet_emit (w.contact client (.closeEndpoint endpoint)) .endpointClose
    split
    · exact hemit.trans (quiet_closeLocal _ _)
    · exact hemit.trans (quiet_swallowPanic _ _ _ _)
    · exact hemit
    · exact hemit.trans (quiet_swallow _ _ _ _)

theorem quiet_releaseForTeardown {c : Client} (hc : w.clients[client]? = some c) :
    Quiet (w.contact client .release) (w.releaseForTeardown client) := by
  have hrelease := quiet_releaseConfig (w.contact client .release) c.config
  unfold releaseForTeardown
  rw [hc]
  dsimp only
  split
  next hresult =>
    rwa [hresult] at hrelease
  next hresult =>
    rw [hresult] at hrelease
    exact hrelease.trans (quiet_swallow _ _ _ _)

/-- A call of a client followed by changes that are quiet. -/
theorem work_of_contact {call : Contact} (h : Quiet (w.contact client call) u) :
    Work client [call] w u :=
  (work_contact w client call).trans (h.work client)

theorem quiet_contact_shutdown (w : World) (client : ClientId) (call : Contact)
    (act : World → World × Option Panic) (hact : ∀ v, Quiet v (act v).1) (step : TeardownStep) :
    Quiet (w.contact client call)
      ((act (w.contact client call)).1.swallowPanic client step (act (w.contact client call)).2) :=
  (hact _).trans (quiet_swallowPanic _ _ _ _)

/-- A teardown that has got to its endpoint waits for it unless it is interrupted. -/
theorem At.runAwaitEndpoint (h : w.At task (.call (.teardown t .awaitEndpoint)) frames) :
    Advances task w (w.runStage task t .awaitEndpoint frames) := by
  have hstack : w.Stack task (.teardown t) frames := h.typed
  have hheld : w.Held task t.client (.teardown t (.stage .awaitEndpoint)) := h.callHeld rfl
  obtain ⟨skipped, hcalls⟩ := hheld.2.2.2
  simp only [World.runStage]
  cases hendpoint : t.endpoint with
  | none =>
      refine h.nextStage hstack hheld ((Quiet.refl w).work t.client) rfl rfl ⟨skipped, false, ?_⟩
        fun outcome heq => ?_
      · rw [hcalls]
        simp [Teardown.sequence, Teardown.waitCalls, hendpoint]
      · cases heq
        rw [verdict, hendpoint]
  | some endpoint =>
      dsimp only
      -- an interrupt that came earlier skips the wait
      split
      next hinterrupted =>
        refine h.nextStage hstack hheld (work_contact w t.client (.endpointSkipped endpoint)) rfl
          rfl ⟨skipped, true, ?_⟩ fun outcome heq => ?_
        · rw [hcalls]
          simp [Teardown.sequence, Teardown.waitCalls, hendpoint]
        · cases heq
          show _ = w.verdict t
          simp only [verdict, hendpoint, if_pos hinterrupted]
      next hinterrupted =>
        obtain ⟨outcome, hclosing⟩ := h.fits.closing hheld
        obtain ⟨cell, hcell⟩ := hclosing.has.endpoint hendpoint
        refine h.pause hstack hheld (work_contact w t.client (.awaitEndpoint endpoint)) rfl rfl
          ⟨skipped, ?_⟩ rfl ⟨endpoint, cell, hendpoint, hcell, .inl rfl⟩ fun _ => ?_
        · rw [hcalls]
          simp [Teardown.sequence, Teardown.waitCalls, hendpoint]
        · exact Bool.eq_false_iff.2 hinterrupted

/-- Every stage of a teardown but the last makes the calls that are due and goes on. -/
theorem At.runStage {stage : Teardown.Stage} (h : w.At task (.call (.teardown t stage)) frames)
    (hstage : ∀ outcome, stage ≠ .finish outcome) :
    Advances task w (w.runStage task t stage frames) := by
  have hstack : w.Stack task (.teardown t) frames := h.typed
  have hheld : w.Held task t.client (.teardown t (.stage stage)) := h.callHeld rfl
  have hbefore := hheld.2.2.2
  have hrefl : Work t.client [] w w := (Quiet.refl w).work t.client
  cases stage with
  | shutdown =>
      have hquiet := quiet_contact_shutdown w t.client .shutdown (·.shutdownAssociation t.client)
        (fun v => quiet_shutdownAssociation v t.client) .shutdown
      exact h.nextStage hstack hheld (work_of_contact hquiet) (hquiet.state _) (hquiet.closed _)
        (congrArg (· ++ [_]) hbefore) fun _ heq => by cases heq
  | closeStrategy =>
      simp only [World.runStage]
      cases hstrategy : t.strategy with
      | none =>
          refine h.nextStage hstack hheld hrefl rfl rfl ?_ fun _ heq => by cases heq
          simpa [Teardown.Before, Teardown.strategyCalls, hstrategy] using hbefore
      | some strategy =>
          have hquiet := quiet_emit (w.contact t.client (.closeStrategy strategy)) .strategyClose
          refine h.pause hstack hheld (work_of_contact hquiet) (hquiet.state _) (hquiet.closed _)
            ⟨hstrategy, ?_⟩ rfl ⟨hstrategy, .inr ⟨_, rfl⟩⟩ fun heq => by cases heq
          rw [show afterTeardown (w.history t.client) = [.shutdown] from hbefore]
          simp [Teardown.strategyCalls, hstrategy]
  | closeEndpoint =>
      simp only [World.runStage]
      cases hendpoint : t.endpoint with
      | none =>
          refine h.nextStage hstack hheld hrefl rfl rfl ?_ fun _ heq => by cases heq
          simpa [Teardown.Before, Teardown.endpointCalls, hendpoint] using hbefore
      | some endpoint =>
          have hquiet := quiet_closeEndpoint w t.client endpoint
          refine h.nextStage hstack hheld (work_of_contact hquiet) (hquiet.state _)
            (hquiet.closed _) ?_ fun _ heq => by cases heq
          rw [show afterTeardown (w.history t.client) = .shutdown :: t.strategyCalls from hbefore]
          simp [Teardown.Before, Teardown.endpointCalls, hendpoint]
  | shutdownNow =>
      have hquiet := quiet_contact_shutdown w t.client .shutdownNow
        (·.shutdownAssociationNow t.client) (fun v => quiet_shutdownAssociationNow v t.client)
        .shutdownNow
      refine h.nextStage hstack hheld (work_of_contact hquiet) (hquiet.state _) (hquiet.closed _)
        ?_ fun _ heq => by cases heq
      have hcalls : afterTeardown (w.history t.client) = _ := hbefore
      rw [hcalls]
      simp [Teardown.Before, Teardown.closingCalls]
  | drain =>
      have hcalls : afterTeardown (w.history t.client) = t.closingCalls := hbefore
      simp only [World.runStage]
      -- an interrupt that came earlier skips the wait
      split
      next =>
        refine h.nextStage hstack hheld (work_contact w t.client .completionSkipped) rfl rfl
          ⟨true, ?_⟩ fun _ heq => by cases heq
        rw [hcalls]
        rfl
      next =>
        refine h.pause hstack hheld (work_contact w t.client .awaitCompletion) rfl rfl ?_ rfl
          (.inl rfl) fun heq => by cases heq
        rw [hcalls]
        rfl
  | release =>
      obtain ⟨outcome, hstate⟩ := hheld.2.1
      obtain ⟨c, hc, -⟩ := state?_eq_some.1 hstate
      obtain ⟨skipped, hcalls⟩ := hbefore
      have hquiet := quiet_releaseForTeardown hc
      refine h.nextStage hstack hheld (work_of_contact hquiet) (hquiet.state _) (hquiet.closed _)
        ⟨skipped, ?_⟩ fun _ heq => by cases heq
      rw [hcalls, List.append_assoc]
  | awaitEndpoint => exact h.runAwaitEndpoint
  | finish outcome => exact absurd rfl (hstage outcome)

/-- Noting an outcome at a closed client. -/
theorem work_recordOutcome (w : World) (client : ClientId) (outcome : Except Error Unit) :
    Work client [] w (w.recordOutcome client outcome) := by
  refine work_modifyClient w client fun c => ?_
  split <;> rfl

theorem state?_recordOutcome {outcome : Except Error Unit}
    (hstate : w.state? client = some (.closed outcome)) (outcome' : Except Error Unit) :
    (w.recordOutcome client outcome').state? client =
      some (.closed (outcome'.mapError Error.clone)) := by
  obtain ⟨c, hc, hclosed⟩ := state?_eq_some.1 hstate
  rw [recordOutcome, state?_modifyClient, hc, Option.map_some, hclosed]

theorem closed?_recordOutcome (w : World) (client : ClientId) (outcome : Except Error Unit) :
    (w.recordOutcome client outcome).closed? client = w.closed? client := by
  rw [recordOutcome, closed?_modifyClient, closed?]
  refine congrArg (Option.map · _) (funext fun c => ?_)
  split <;> rfl

/-- The last stage of a teardown notes the verdict, leaves the lock and replies with the verdict. -/
theorem At.finish {outcome : Except Error Unit}
    (h : w.At task (.call (.teardown t (.finish outcome))) frames) :
    Advances task w (w.runStage task t (.finish outcome) frames) := by
  have hstack : w.Stack task (.teardown t) frames := h.typed
  have hframes : frames = [] := hstack.eq_nil fun _ hwaiter => hwaiter
  subst hframes
  have hheld : w.Held task t.client (.teardown t (.stage (.finish outcome))) := h.callHeld rfl
  obtain rfl : outcome = w.verdict t := h.active.verdict rfl
  obtain ⟨outcome', hclosing⟩ := h.fits.closing hheld
  have hwork := work_recordOutcome w t.client (w.verdict t)
  have hstate := state?_recordOutcome hclosing.state (w.verdict t)
  have hrecord := hclosing.work h.fits (by simp [h.unfinished]) hheld.1 hwork hstate
    (closed?_recordOutcome w t.client _) (by simpa using hclosing.calls)
  have hlocks := relocks_leaveLock (w.recordOutcome t.client (w.verdict t)) task t.client
  have hproceeds := hrecord.trans (hlocks.proceeds hrecord.fits)
  have hhistory := history_of_contacts (hlocks.contacts.trans
    (show (w.recordOutcome t.client (w.verdict t)).contacts = w.contacts from rfl)) t.client
  have hverdict : ((w.recordOutcome t.client (w.verdict t)).leaveLock task t.client).verdict t =
      w.verdict t := (hlocks.toParts.verdict hlocks.endpoints hlocks.cancelled t).trans
    (hwork.toParts.verdict rfl rfl t)
  refine .goto hproceeds (.free ⟨.teardown t, ?_, ?_⟩ (by simp) rfl)
  · exact hstack.grow hproceeds.toGrows h.fresh
  · refine ⟨by rw [hverdict], by rw [hhistory]; exact hclosing.handed, ?_, ?_⟩
    · rw [hverdict, hlocks.state, hstate]
    · rw [hhistory]
      exact hheld.2.2.2

/-! ## Waits of a teardown -/

theorem quiet_pauseEnded (w : World) (t : Teardown) (pause : Teardown.Pause) (reply : Reply) :
    Quiet w (w.pauseEnded t pause reply).2 := by
  unfold pauseEnded
  split
  · exact quiet_strategyClosed w _
  · exact quiet_swallow w _ _ _
  · exact quiet_drainTimeout w _
  · exact .refl w
  · exact .refl w

theorem quiet_pausePanicked (w : World) (t : Teardown) (pause : Teardown.Pause) (content : Panic) :
    Quiet w (w.pausePanicked t pause content).2 := by
  cases pause with
  | strategy => exact quiet_swallow w t.client .closeStrategy (.ofPanic content)
  | drain => exact quiet_swallow w t.client .awaitCompletion (.ofPanic content)
  | endpoint => exact .refl w

/-- A wait of a teardown ends: the next stage comes after the same calls. -/
theorem At.leavePause {control : Control} {pause : Teardown.Pause} {stage : Teardown.Stage}
    (h : w.At task control (.teardown t pause :: frames)) (hquiet : Quiet w u)
    (hstack : w.Stack task (.teardown t) frames)
    (hbefore : t.Before (.pause pause) (afterTeardown (w.history t.client)) →
      t.Before (.stage stage) (afterTeardown (w.history t.client)))
    (hverdict : ∀ outcome, stage = .finish outcome → outcome = w.verdict t) :
    Advances task w (u.enter task (.teardown t stage) frames) := by
  have hheld : w.Held task t.client (.teardown t (.pause pause)) := h.frameHeld rfl
  refine h.nextStage hstack hheld (hquiet.work t.client) (hquiet.state _) (hquiet.closed _) ?_
    fun outcome heq => ?_
  · rw [List.append_nil]
    exact hbefore hheld.2.2.2
  · rw [hquiet.toAlike.verdict]
    exact hverdict outcome heq

/-- A wait of a teardown that ends with a reply. -/
theorem At.pauseEnded {pause : Teardown.Pause}
    (h : w.At task (.reply reply) (.teardown t pause :: frames)) :
    Advances task w
      ((w.pauseEnded t pause reply).2.enter task
        (.teardown t (w.pauseEnded t pause reply).1) frames) := by
  obtain ⟨job, hawaits, hstack, hdelivers⟩ := h.reply
  refine h.leavePause (quiet_pauseEnded w t pause reply) hstack (fun hbefore => ?_)
    fun outcome heq => ?_
  · unfold World.pauseEnded
    split
    · exact hbefore.2
    · exact hbefore.2
    · exact ⟨false, hbefore⟩
    · exact ⟨false, hbefore⟩
    · obtain ⟨skipped, hcalls⟩ := hbefore
      exact ⟨skipped, false, hcalls⟩
  · cases pause with
    | strategy => cases reply <;> cases heq
    | drain =>
        unfold World.pauseEnded at heq
        split at heq <;> contradiction
    | endpoint =>
        cases heq
        -- the verdict is a success because the wait was neither interrupted nor ended in a panic
        obtain ⟨endpoint, cell, hendpoint, hcell, hjob⟩ := hawaits
        have hnone : w.awaitPanic? endpoint = none := by
          rcases hjob with rfl | ⟨-, hplan⟩
          · exact hdelivers
          · rw [awaitPanic?, endpointPlan?_of_cell hcell, hplan, Option.bind_none]
        have huninterrupted := h.active.uninterrupted (List.mem_cons_self ..)
        simp only [verdict, hendpoint, huninterrupted, hnone, Bool.false_eq_true, if_false]

/-- A wait of a teardown that ends with a panic. -/
theorem At.pausePanicked {pause : Teardown.Pause} {content : Panic}
    (h : w.At task (.unwind content) (.teardown t pause :: frames)) :
    Advances task w
      ((w.pausePanicked t pause content).2.enter task
        (.teardown t (w.pausePanicked t pause content).1) frames) := by
  obtain ⟨job, ⟨hawaits, hstack⟩, hunwinds⟩ := h.typed
  refine h.leavePause (quiet_pausePanicked w t pause content) hstack (fun hbefore => ?_)
    fun outcome heq => ?_
  · cases pause with
    | strategy => exact hbefore.2
    | drain => exact ⟨false, hbefore⟩
    | endpoint =>
        obtain ⟨skipped, hcalls⟩ := hbefore
        exact ⟨skipped, false, hcalls⟩
  · cases pause with
    | strategy | drain => cases heq
    | endpoint =>
        cases heq
        obtain ⟨endpoint, cell, hendpoint, hcell, rfl | ⟨rfl, hplan⟩⟩ := hawaits
        · have hpanic : w.awaitPanic? endpoint = some content := hunwinds
          have huninterrupted := h.active.uninterrupted (List.mem_cons_self ..)
          simp only [verdict, hendpoint, huninterrupted, hpanic, Bool.false_eq_true, if_false]
        · cases hunwinds

end Remoting.World
