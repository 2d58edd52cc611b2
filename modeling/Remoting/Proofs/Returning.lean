import Remoting.Proofs.Moments

/-!
# Calls that return

A call returns in the step in which its innermost frame is given a reply and hands a reply on to the
frame around it. For the calls that ask for a channel or close a client this is the only way to
return: while one of their frames waits for an inner call, that call keeps the frame.
-/

namespace Remoting

namespace World

variable {w u : World} {task : TaskId} {frame : Frame} {frames : List Frame} {reply : Reply}

/-- A frame of a call for a channel or of a close waits for a collaborator, a lock or a task. -/
theorem Awaits.of_transport {job : Job} {client : ClientId} (hawaits : w.Awaits frame job)
    (hframe : frame.job = .channel client ∨ frame.job = .close client) :
    job.Behaves ∨ ∃ wait, job = .wait wait := by
  cases frame with
  | getLock | closeLock => exact .inr ⟨_, hawaits⟩
  | recordLock => exact .inr ⟨_, hawaits.1⟩
  | closeJoin =>
      obtain ⟨joined, t, hjob, -⟩ := hawaits
      exact .inr ⟨_, hjob⟩
  | creation => exact .inl hawaits
  | channel =>
      obtain ⟨ending, -, hjob | hjob⟩ := hawaits
      · exact .inl (.inr ⟨ending, hjob⟩)
      · exact .inl (.inl hjob)
  | _ => rcases hframe with hframe | hframe <;> cases hframe

/-- A task that goes on does what it was told. -/
theorem of_task?_goto {t : Task} {control : Control}
    (ht : (w.goto task control frames).task? task = some t) :
    t.control = control ∧ t.frames = frames := by
  rw [task?_goto, Option.map_eq_some_iff] at ht
  obtain ⟨t', -, rfl⟩ := ht
  exact ⟨rfl, rfl⟩

/-- A collaborator or a wait keeps the frame around it. -/
theorem makeCall_frames {t : Task} {call : Call}
    (hjob : call.job.Behaves ∨ ∃ wait, call.job = .wait wait)
    (ht : (w.makeCall task call frames).task? task = some t) :
    ∃ inner, t.frames = inner ++ frames := by
  cases call with
  | await wait => exact ⟨[], (of_task?_goto ht).2⟩
  | behave behaviour =>
      simp only [World.makeCall, World.behave] at ht
      split at ht
      · exact ⟨[_], (of_task?_goto ht).2⟩
      · split at ht
        · exact ⟨[], (of_task?_goto ht).2⟩
        · exact ⟨[], (of_task?_goto ht).2⟩
  | _ =>
      rcases hjob with (hjob | ⟨ending, hjob⟩) | ⟨wait, hjob⟩ <;> cases hjob

end World

namespace Moment

variable {m after : Moment} {job : Job} {reply : Reply} {client : ClientId}

/-- A step of the polled task in which a call of a kind returns. -/
def Returns (m after : Moment) (job : Job) (reply : Reply) : Prop :=
  m.next .step = some after ∧ ∃ t frame frames, m.polled? = some t ∧ t.frames = frame :: frames ∧
    frame.job = job ∧ after.polled? = some { t with control := .reply reply, frames }

/-- A call for a channel or a close returns when its innermost frame is given a reply. -/
theorem Returns.resume (h : m.CallsFit) (hreturns : m.Returns after job reply)
    (hjob : job = .channel client ∨ job = .close client) :
    ∃ t frame frames reply', m.polled? = some t ∧ frame.job = job ∧
      m.world.At t.id (.reply reply') (frame :: frames) ∧
      ∃ t', (m.world.resume t.id frame reply' frames).task? t.id = some t' ∧
        t'.control = .reply reply := by
  obtain ⟨hnext, t, frame, frames, ht, hframes, rfl, ht'⟩ := hreturns
  have hat := h.polled ht
  obtain ⟨world, polling⟩ := m
  cases polling with
  | none => cases hnext
  | some polling =>
      obtain ⟨u, hstep, rfl⟩ := Option.map_eq_some_iff.1 hnext
      have hfind : world.task? polling.task = some t := ht
      have hfind' : u.task? polling.task = some { t with control := .reply reply, frames } := ht'
      obtain ⟨-, hid⟩ := World.task?_mem hfind
      rw [hid] at hat
      -- no frame is taken off unless it is given a reply
      have hkeeps : ∀ {inner}, frames ≠ inner ++ frame :: frames := by
        intro inner heq
        have hlength := congrArg List.length heq
        simp only [List.length_append, List.length_cons] at hlength
        omega
      unfold World.step? at hstep
      rw [hfind] at hstep
      dsimp only at hstep
      rw [hframes] at hstep hat
      generalize hcontrol : t.control = control at hstep hat
      cases control with
      | call call =>
          cases hstep
          have hstack : world.Stack polling.task call.job (frame :: frames) := hat.typed
          obtain ⟨inner, hinner⟩ :=
            World.makeCall_frames (hstack.1.of_transport hjob) hfind'
          exact absurd hinner hkeeps
      | reply reply' =>
          cases hstep
          rw [← hid] at hat hfind'
          exact ⟨t, frame, frames, reply', ht, rfl, hat, _, hfind', rfl⟩
      | unwind content =>
          cases hstep
          cases frame with
          | teardown => rcases hjob with hjob | hjob <;> cases hjob
          | _ => cases (World.of_task?_goto hfind').1
      | lost =>
          obtain ⟨client', rfl⟩ := hat.lost
          cases hstep
          cases (World.of_task?_goto hfind').1
      | wait wait =>
          obtain ⟨control, -, rfl⟩ := Option.map_eq_some_iff.1 hstep
          exact absurd (World.of_task?_goto hfind').2 (@hkeeps [])

end Moment

end Remoting
