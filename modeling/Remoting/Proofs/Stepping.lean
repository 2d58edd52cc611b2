import Remoting.Proofs.HandingOver

/-!
# Steps and polls

`Acting.step` says that a step of the polled task keeps the invariant, call by call and frame by
frame. A poll also cuts calls short and ends overdue waits. What is dropped with a call gives back
its lock and its ticket, and where the call is a teardown it goes on at its next stage.
-/

namespace Remoting.World

variable {w v u : World} {task : TaskId} {frames : List Frame} {reply : Reply}

/-! ## Calls -/

/-- A call that is run in a task of its own can be started from outside. -/
theorem At.spawn {call : Call} (h : w.At task (.call (.spawn call)) frames) :
    Advances task w ((w.spawn (.call call) [] none none).2.await task
      (.join (w.spawn (.call call) [] none none).1) frames) := by
  have hstack : w.Stack task (.spawn call.isPublic) frames := h.typed
  obtain rfl : frames = [] := hstack.eq_nil fun _ hwaiter => hwaiter
  have hpublic : call.isPublic = true := by
    cases hcase : call.isPublic with
    | true => rfl
    | false => exact absurd (congrArg Job.spawn hcase) hstack.1
  have halike := alike_spawn h.fits.toOrderly (.call call) [] none none
  have hfit := h.fits.spawn hpublic none none
  refine .goto ⟨halike.continues, hfit⟩ (.free ?_ (by simp) rfl)
  exact Stack.alike halike (hstack.become nofun nofun fun _ hawaits => hawaits.waiter.elim)

/-- A call that is made keeps the invariant. -/
theorem At.makeCall {call : Call} (h : w.At task (.call call) frames) :
    Advances task w (w.makeCall task call frames) := by
  cases call with
  | getChannel => exact h.getChannel
  | connect => exact h.connect
  | openChannel => exact h.openChannel
  | supply => exact h.supply
  | clientSupply => exact h.clientSupply
  | execute => exact h.execute
  | operate => exact h.operate
  | close => exact h.close
  | teardown t stage =>
      cases stage with
      | finish => exact h.finish
      | _ => exact h.runStage fun _ => nofun
  | behave => exact h.behave
  | awaitCompletion => exact h.awaitCompletion
  | awaitClosed => exact h.awaitClosed
  | awaitLocal => exact h.awaitLocal
  | own => exact h.runOwned
  | spawn => exact h.spawn
  | await => exact h.await
  | awaitDrained => exact h.awaitDrained

/-- A reply that is handed to the innermost frame keeps the invariant. -/
theorem At.resume {frame : Frame} (h : w.At task (.reply reply) (frame :: frames)) :
    Advances task w (w.resume task frame reply frames) := by
  cases frame with
  | getLock => exact h.lockedChannel
  | creation => exact h.created
  | channel => exact h.opened
  | closeLock => exact h.lockedClose
  | closeJoin => exact h.resumeJoin
  | recordLock => exact h.recordFailure
  | background => exact h.endBackground
  | keep => exact h.resumeKeep
  | supplied => exact h.supplied
  | supply => exact h.startOperation
  | opening => exact h.startBody
  | operation => exact h.endExecute
  | script => exact h.resumeScript
  | nested => exact h.nestedDone
  | teardown => exact h.pauseEnded
  | behaviour => exact h.resumeBehaviour
  | completion => exact h.resumeCompletion
  | endpointClosed => exact h.resumeClosed
  | localRequest => exact h.resumeRequest
  | localTasks => exact h.finishClosure
  | owned => exact h.resumeOwned

/-! ## Panics and lost tasks -/

/-- A frame that holds no lock gives back at most a ticket. -/
theorem quiet_dropFrame {frame : Frame} (hhold : frame.hold? = none) (w : World) (task : TaskId) :
    Quiet w (w.dropFrame task frame) := by
  cases frame with
  | creation | channel | teardown => cases hhold
  | supply | opening | operation => exact quiet_endOperation w _ _
  | _ => exact .refl w

/-- A panic passes a frame that holds no lock. -/
theorem unwinds_of_awaits {frame : Frame} {job : Job} {content : Panic}
    (hawaits : w.Awaits frame job) (hhold : frame.hold? = none) (hunwinds : w.Unwinds job content) :
    w.Unwinds frame.job content := by
  cases frame with
  | creation | channel | teardown => cases hhold
  | behaviour =>
      obtain ⟨deadline, rfl⟩ := hawaits
      cases hunwinds
  | localRequest | localTasks =>
      cases hawaits
      cases hunwinds
  | endpointClosed endpoint =>
      obtain ⟨cell, plan, hcell, hplan, hjob⟩ := hawaits
      show w.awaitPanic? endpoint = some content
      rw [awaitPanic?_of_cell hcell hplan]
      split at hjob
      next behaviour hawait =>
        rcases hjob with rfl | rfl
        · have hending : behaviour.ending = .panic content := hunwinds
          rw [hawait, Option.bind_some, hending]
        · cases hunwinds
      next =>
        cases hjob
        cases hunwinds
  | _ => trivial

/-- A panic that passes the innermost frame, or is caught by it, keeps the invariant. -/
theorem At.unwind {frame : Frame} {content : Panic}
    (h : w.At task (.unwind content) (frame :: frames)) :
    Advances task w (w.unwind task frame content frames) := by
  obtain ⟨job, ⟨hawaits, hstack⟩, hunwinds⟩ := h.typed
  have hpass : frame.hold? = none →
      Advances task w ((w.dropFrame task frame).goto task (.unwind content) frames) := fun hhold =>
    h.pop (quiet_dropFrame hhold w task) rfl
      ⟨_, hstack, unwinds_of_awaits hawaits hhold hunwinds⟩
  cases frame with
  | creation | channel => exact ((Quiet.refl w).proceeds h.fits).panicChannel hstack content
  | teardown => exact h.pausePanicked
  | _ => exact hpass rfl

/-- Only a close waits for a task that can be lost. -/
theorem At.lost {frame : Frame} (h : w.At task .lost (frame :: frames)) :
    ∃ client, frame = .closeJoin client := by
  obtain ⟨joined, ⟨hawaits, -⟩, -⟩ := h.typed
  exact hawaits.waiter

/-! ## Steps -/

/-- A step of the polled task keeps the invariant. If it ends a teardown with a value, that is the
reply of its outermost call. -/
theorem Acting.step (h : w.Acting task) (hstep : w.step? task = some u) :
    Advances task w u ∨ ∃ t reply, w.task? task = some t ∧ t.control = .reply reply ∧
      t.frames = [] ∧ Finishes task (.value (reply.map w.present)) w u := by
  unfold step? at hstep
  split at hstep
  next => cases hstep
  next t ht =>
    have hat := h.at ht
    generalize hcontrol : t.control = control at hstep hat
    generalize hframes : t.frames = frames at hstep hat
    split at hstep
    next =>
      cases hstep
      exact .inl hat.makeCall
    next =>
      cases hstep
      exact .inl hat.resume
    next =>
      cases hstep
      exact .inr ⟨t, _, ht, hcontrol, hframes, hat.finishReply⟩
    next =>
      cases hstep
      exact .inl hat.unwind
    next =>
      cases hstep
      exact .inl hat.finishUnwind
    next =>
      cases hstep
      exact .inl hat.closeLost
    next hother =>
      obtain ⟨client, rfl⟩ := hat.lost
      exact absurd rfl (hother client)
    next =>
      cases hstep
      exact .inl hat.finishLost
    next =>
      obtain ⟨control, hready, rfl⟩ := Option.map_eq_some_iff.1 hstep
      exact .inl (hat.ready hready)

end Remoting.World
