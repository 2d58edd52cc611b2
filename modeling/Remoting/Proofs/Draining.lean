import Remoting.Config.Builder
import Remoting.Proofs.Cancelling
import Remoting.Proofs.Seats

/-!
# The wait for completion

After the teardown of a client has told the handler to cancel all operations, it waits until none is
left. It does not wait long: operations are left as soon as their tasks are polled, and as long as
there are such tasks the clock stands still. `Drains` says where the teardown is, with the time at
which it got there, and `cancels_operations` is the result: the wait ends at that very time, no
operation is left, and every call has returned why it was cancelled.
-/

namespace Remoting

namespace Duration

/-- A limit that is not empty is over later than it begins. -/
theorem lt_deadline {duration : Duration} (h : duration.isZero = false) (now : Nat) :
    now < duration.deadline now := by
  have hpos : 0 < duration.totalNanos := by
    unfold isZero at h
    unfold totalNanos
    simp only [Bool.and_eq_false_iff, beq_eq_false_iff_ne] at h
    omega
  have hmillis : 0 < duration.ceilMillis := Nat.div_pos (by omega) (by decide)
  unfold deadline
  split <;> omega

end Duration

/-- A configuration that is built gives operations some time to complete. -/
theorem Builder.not_isZero_of_build {builder : Builder} {config : Config}
    (h : builder.build = .ok config) : config.completionTimeout.isZero = false := by
  unfold build at h
  split at h
  · cases h
  · split at h
    · cases h
    next hzero =>
      split at h <;> cases h
      exact Bool.eq_false_iff.2 hzero

theorem Teardown.release_not_mem (td : Teardown) (skipped : Bool) :
    .release ∉ td.closingCalls ++ Teardown.drainCalls skipped := by
  cases skipped <;> simp [closingCalls, strategyCalls, endpointCalls, drainCalls]

/-- A task waits in the teardown of a client until the operations of the client have completed. -/
def Task.Drains (t : Task) (client : ClientId) : Prop :=
  ∃ td deadline, td.client = client ∧ .teardown td (.drain deadline) ∈ t.frames

namespace World

variable {w : World} {client : ClientId} {handler : HandlerId} {task : TaskId} {td : Teardown}
  {outcome : Except Error Unit} {call : Contact}

/-- The calls that close a client come after its teardown was handed over. -/
theorem Closing.mem_afterTeardown (h : w.Closing client outcome task td)
    (hclosing : call.isClosing = true) (hcall : call ∈ w.history client) :
    call ∈ afterTeardown (w.history client) := by
  rw [h.history, List.mem_append, List.mem_cons] at hcall
  rcases hcall with hbefore | rfl | hafter
  · cases (Contact.not_isConnecting hclosing).symm.trans (h.opened.isConnecting hbefore)
  · cases hclosing
  · exact hafter

theorem task?_goto_self {t : Task} (ht : w.task? task = some t) (control : Control)
    (frames : List Frame) :
    (w.goto task control frames).task? task = some { t with control, frames } := by
  rw [task?_goto, ht, Option.map_some]

/-- What the task of a teardown does in its wait for completion, which began at a time. If the clock
has not moved since then, the wait is not over because of its time limit. -/
inductive Completes (handler : HandlerId) (client : ClientId) (time : Nat) (still : Prop) :
    Control → Prop
  | call : Completes handler client time still (.call (.awaitCompletion client))
  | wait {deadline : Nat} (later : still → time < deadline) :
      Completes handler client time still (.wait (.drained handler deadline))
  | reply {drained : Bool} (complete : still → drained = true) :
      Completes handler client time still (.reply (.ok (.flag drained)))

/-- A client has a handler and gives its operations some time to complete. -/
structure Allows (w : World) (client : ClientId) (handler : HandlerId) : Prop where
  association : w.association? client = some (.handler handler)
  timeout : (w.completionTimeout client).isZero = false

theorem Allows.lasts {u : World} (h : w.Allows client handler) (hlasts : Lasts w u) :
    u.Allows client handler := by
  refine ⟨hlasts.association h.association, ?_⟩
  have htimeout := h.timeout
  unfold completionTimeout at htimeout ⊢
  split at htimeout
  next cell hcell =>
    obtain ⟨cell', hcell', hconfig, -⟩ := hlasts.config hcell
    rw [hcell']
    dsimp only
    rwa [hconfig]
  next => cases htimeout

end World

namespace Moment

variable {m after last made : Moment} {move : Move} {moves : List Move} {client : ClientId}
  {handler : HandlerId} {task : TaskId} {td : Teardown} {t : Task} {time : Nat} {still : Prop}
  {e : Execution} {fate : Fate} {reason : Error}

/-- Up to the release of the configuration a teardown has not released it. -/
theorem CallsFit.not_released (h : m.CallsFit) {point : Teardown.Point}
    (hheld : m.world.Held task td.client (.teardown td point))
    (hpoint : ∀ {calls}, td.Before point calls → .release ∉ calls) :
    .release ∉ m.world.history td.client := by
  obtain ⟨-, -, hhanded, hcalls⟩ := hheld
  obtain ⟨active, hfit⟩ := h.exists_callsFit
  obtain ⟨outcome, hclosing⟩ := (hfit.clients td.client).closing hhanded
  exact fun hrelease => hpoint hcalls (hclosing.mem_afterTeardown rfl hrelease)

/-- A task in the wait for completion is the one that was handed the teardown, and the client has
not been released. -/
theorem CallsFit.drains (h : m.CallsFit) (ht : t ∈ m.world.tasks) (hdrains : t.Drains client) :
    ∃ td, .teardown t.id td ∈ m.world.history client ∧ .awaitCompletion ∈ m.world.history client ∧
      .release ∉ m.world.history client := by
  obtain ⟨td, deadline, rfl, hframe⟩ := hdrains
  have hheld := (h.taskOk ht).frameHolds hframe rfl
  have hrelease := h.not_released hheld fun {calls} (hcalls : calls = _) => by
    rw [hcalls]
    exact td.release_not_mem false
  obtain ⟨-, -, hhanded, hcalls⟩ := hheld
  have hcalls : afterTeardown (m.world.history td.client) = td.closingCalls ++ [.awaitCompletion] :=
    hcalls
  obtain ⟨active, hfit⟩ := h.exists_callsFit
  obtain ⟨outcome, hclosing⟩ := (hfit.clients td.client).closing hhanded
  refine ⟨td, hhanded, ?_, hrelease⟩
  rw [hclosing.history]
  refine List.mem_append_right _ (List.mem_cons_of_mem _ ?_)
  rw [hcalls]
  exact List.mem_append_right _ (List.mem_singleton_self _)

/-- Where a teardown is that has told the handler of its client to cancel all operations: it is
about to wait for completion, waits, has done so, or has ended. The clock may have stood still until
it has done so. -/
inductive Drains (m : Moment) (handler : HandlerId) (td : Teardown) (task : TaskId) (time : Nat)
    (still : Prop) : Prop
  | entering {t : Task} (polled : m.polled? = some t) (id : t.id = task)
      (control : t.control = .call (.teardown td .drain)) (frames : t.frames = [])
      (now : still → m.world.now = time)
  | waiting {t : Task} {deadline : Nat} (found : m.world.task? task = some t)
      (frames : t.frames = [.teardown td (.drain deadline)]) (later : still → time < deadline)
      (control : World.Completes handler td.client time still t.control)
      (now : still → m.world.now = time)
  | leaving {t : Task} (found : m.world.task? task = some t)
      (control : t.control = .call (.teardown td .release)) (frames : t.frames = [])
  | left (released : .release ∈ m.world.history td.client)
  | gone (ended : m.world.HasEnded task)

/-- What is known from the moment on at which the handler of a client was told to cancel all
operations. -/
structure Settling (m : Moment) (handler : HandlerId) (td : Teardown) (task : TaskId) (time : Nat)
    (still : Prop) : Prop where
  fits : m.CallsFit
  tracks : m.Tracks handler
  quelled : m.Quelled handler
  outlying : m.Outlying handler
  allows : m.world.Allows td.client handler
  handed : .teardown task td ∈ m.world.history td.client
  drains : m.Drains handler td task time still

/-- Only the task of the teardown is in the wait for completion. -/
theorem Settling.waits (h : m.Settling handler td task time still) (ht : t ∈ m.world.tasks)
    (hdrains : t.Drains td.client) : m.world.task? task = some t ∧
      (still → m.world.now = time) ∧ World.Completes handler td.client time still t.control ∧
      ∃ deadline, t.frames = [.teardown td (.drain deadline)] ∧ (still → time < deadline) := by
  obtain ⟨active, hfit⟩ := h.fits.exists_callsFit
  obtain ⟨td', hhanded, -, hrelease⟩ := h.fits.drains ht hdrains
  obtain ⟨outcome, hclosing⟩ := (hfit.clients td.client).closing h.handed
  obtain ⟨hid, -⟩ := hclosing.unique h.handed
  obtain ⟨hid', -⟩ := hclosing.unique hhanded
  have hfind : m.world.task? task = some t := by
    rw [hid, ← hid']
    exact hfit.task?_eq ht
  have hnil : t.frames ≠ [] := by
    obtain ⟨td'', deadline, -, hmem⟩ := hdrains
    exact List.ne_nil_of_mem hmem
  -- of the places where the teardown may be only the wait has a frame
  cases h.drains with
  | entering polled id control frames now =>
      have hfind' := hfit.task?_eq (of_polled? polled).1
      rw [id] at hfind'
      cases hfind.symm.trans hfind'
      exact absurd frames hnil
  | waiting found frames later control now =>
      cases hfind.symm.trans found
      exact ⟨hfind, now, control, _, frames, later⟩
  | leaving found control frames =>
      cases hfind.symm.trans found
      exact absurd frames hnil
  | left released => exact absurd released hrelease
  | gone ended =>
      have hunfinished := hfit.unfinished ht
      rw [(World.task?_mem hfind).2] at hunfinished
      rw [World.HasEnded, hunfinished] at ended
      cases ended

/-- Where no task gets on no teardown of the client waits for completion. -/
theorem Settling.not_drains (h : m.Settling handler td task time still) (hidle : m.Idle)
    (ht : t ∈ m.world.tasks) : ¬ t.Drains td.client := by
  intro hdrains
  obtain ⟨-, -, hcontrol, -⟩ := h.waits ht hdrains
  obtain ⟨wait, hwait, hready, -⟩ := hidle.waits h.fits ht
  rw [hwait] at hcontrol
  cases hcontrol with
  | wait later =>
      obtain ⟨tracker, htracker, hcount⟩ := h.quelled.count_eq_zero h.fits h.tracks hidle
      obtain ⟨cell, hcell, rfl⟩ := Option.map_eq_some_iff.1 htracker
      simp [World.ready?, hcell, Tracker.drained?, hcount] at hready

/-- Where the clock has not moved no wait for completion is over because of its time limit. -/
theorem Settling.not_late (h : m.Settling handler td task time still) (hstill : still) :
    ¬ m.Late (td.client + 1) := by
  rintro ⟨t, td', deadline, ht, hclient, hlate⟩
  have hclient : td'.client = td.client := (Nat.succ.inj hclient).symm
  have hmem := (of_polled? ht).1
  have hframe : .teardown td' (.drain deadline) ∈ t.frames := by
    rcases hlate with ⟨outer, hframes, -⟩ | ⟨inner, outer, hframes, -⟩ <;> simp [hframes]
  obtain ⟨-, hnow, hcontrol, deadline', hframes, hlater⟩ :=
    h.waits hmem ⟨td', deadline, hclient, hframe⟩
  rcases hlate with ⟨outer, -, hcontrol' | ⟨content, hcontrol'⟩⟩ | ⟨inner, outer, -, hdue⟩
  · rw [hcontrol'] at hcontrol
    cases hcontrol with
    | reply complete => cases complete hstill
  · rw [hcontrol'] at hcontrol
    cases hcontrol
  · rw [hframes, List.mem_singleton] at hframe
    cases hframe
    have hearlier := hlater hstill
    rw [hnow hstill] at hdue
    omega

/-! ## Moves -/

section Moving

variable {deadline : Nat}

/-- A step of the teardown that has told the handler to cancel all operations. -/
theorem Settling.enter (h : m.Settling handler td task time still) (ht : m.polled? = some t)
    (hid : t.id = task) (hcontrol : t.control = .call (.teardown td .drain))
    (hframes : t.frames = [])
    (hnow : still → m.world.now = time) (hnext : m.next move = some after) :
    after.Drains handler td task time still := by
  obtain rfl := next_eq_step hnext ht fun wait heq => by cases hcontrol.symm.trans heq
  obtain ⟨u, hstep, rfl⟩ := step_of_polled ht hnext
  have hfind := polled?_task? ht
  subst hid
  simp only [World.step?, hfind, hcontrol, hframes, Option.some.injEq] at hstep
  subst hstep
  simp only [World.makeCall, World.runStage]
  split
  next => exact .leaving (World.task?_goto_self hfind _ _) rfl rfl
  next =>
    refine .waiting (World.task?_goto_self hfind _ _) rfl (fun hstill => ?_) .call hnow
    exact hnow hstill ▸ Duration.lt_deadline h.allows.timeout _

/-- A step of the teardown in its wait for completion. -/
theorem Settling.step (h : m.Settling handler td task time still)
    (hfind : m.world.task? task = some t)
    (hframes : t.frames = [.teardown td (.drain deadline)]) (hlater : still → time < deadline)
    (hcontrol : World.Completes handler td.client time still t.control)
    (hnow : still → m.world.now = time)
    (hnext : m.next .step = some after) (hactor : m.actor? .step = some task) :
    after.Drains handler td task time still := by
  obtain ⟨u, hstep, rfl⟩ := step_of_actor? hnext hactor
  generalize ht : t.control = control at hcontrol
  simp only [World.step?, hfind, ht, hframes] at hstep
  cases hcontrol with
  | call =>
      simp only [Option.some.injEq, World.makeCall, World.awaitCompletion,
        h.allows.association] at hstep
      subst hstep
      refine .waiting (World.task?_goto_self hfind _ _) rfl hlater (.wait fun hstill => ?_) hnow
      exact hnow hstill ▸ Duration.lt_deadline h.allows.timeout _
  | wait later =>
      obtain ⟨control, hready, rfl⟩ := Option.map_eq_some_iff.1 hstep
      obtain ⟨drained, hdrained, rfl⟩ := Option.map_eq_some_iff.1 hready
      obtain ⟨cell, -, hdrained⟩ := Option.bind_eq_some_iff.1 hdrained
      refine .waiting (World.task?_goto_self hfind _ _) rfl hlater (.reply fun hstill => ?_) hnow
      have hearlier := later hstill
      have hnow := hnow hstill
      -- the time limit is not over, so the wait can only have ended without operations
      unfold Tracker.drained? at hdrained
      split at hdrained
      · exact (Option.some.inj hdrained).symm
      · rw [if_neg (by omega)] at hdrained
        cases hdrained
  | @reply drained complete =>
      have htimeout : World.Deals (fun _ => True) handler [] _ (m.world.drainTimeout td.client) :=
        World.deals_swallow m.world fun _ => trivial
      cases drained with
      | true =>
          simp only [Option.some.injEq, World.resume, World.pauseEnded] at hstep
          subst hstep
          exact .leaving (World.task?_goto_self hfind _ _) rfl rfl
      | false =>
          simp only [Option.some.injEq, World.resume, World.pauseEnded] at hstep
          subst hstep
          exact .leaving (World.task?_goto_of_deals htimeout hfind _ _) rfl rfl

/-- A move of the teardown in its wait for completion. -/
theorem Settling.wait (h : m.Settling handler td task time still)
    (hfind : m.world.task? task = some t)
    (hframes : t.frames = [.teardown td (.drain deadline)]) (hlater : still → time < deadline)
    (hcontrol : World.Completes handler td.client time still t.control)
    (hnow : still → m.world.now = time)
    (hnext : m.next move = some after) (hactor : m.actor? move = some task) :
    after.Drains handler td task time still := by
  have hsame : after.world = m.world → after.Drains handler td task time still := fun hworld =>
    .waiting (by rw [hworld, hfind]) hframes hlater hcontrol fun hstill => by
      rw [hworld, hnow hstill]
  cases move with
  | abort task' =>
      cases hactor
      exact .gone (hasEnded_of_abort hnext hfind)
  | poll task' =>
      cases hactor
      obtain ⟨-, rfl⟩ := next_poll hnext
      cases hcut : m.world.cut? t.frames with
      | none => exact hsame (World.cutTask_eq_self hfind hcut)
      | some cut =>
          -- the teardown has the only frame there is, so it is the teardown that is cut short
          obtain ⟨hsplit, hshort⟩ := World.cut?_eq_some hcut
          rw [hframes, eq_comm, List.append_eq_singleton_iff] at hsplit
          obtain ⟨-, hcons⟩ : cut.inner = [] ∧ cut.frame :: cut.outer = _ := by
            rcases hsplit with hsplit | ⟨-, hcons⟩
            · exact hsplit
            · cases hcons
          obtain ⟨hframe, houter⟩ := List.cons.inj hcons
          have hcontrol' : cut.control = .call (.teardown td .release) := by
            rw [hframe, World.cutShort?] at hshort
            split at hshort
            · exact (Option.some.inj hshort).symm
            · cases hshort
          exact .leaving (World.task?_cutTask hfind hcut) hcontrol' houter
  | step => exact h.step hfind hframes hlater hcontrol hnow hnext hactor
  | expire =>
      obtain ⟨-, -, rfl⟩ := expire_of_actor? hnext hactor
      cases hcut : m.world.overdue? t.frames with
      | none => exact hsame (World.expireDrain_eq_self hfind hcut)
      | some cut =>
          refine .leaving (World.task?_expireDrain hfind hcut) ?_ ?_
          all_goals
            rw [hframes, World.overdue?] at hcut
            split at hcut <;> cases hcut
            rfl
  | _ => cases hactor

/-- A move of the teardown after its wait for completion. -/
theorem Settling.leave (h : m.Settling handler td task time still)
    (hfind : m.world.task? task = some t)
    (hcontrol : t.control = .call (.teardown td .release)) (hnext : m.next move = some after)
    (hactor : m.actor? move = some task) :
    after.Drains handler td task time still := by
  cases move with
  | abort task' =>
      cases hactor
      exact .gone (hasEnded_of_abort hnext hfind)
  | poll task' =>
      cases hactor
      obtain ⟨hpolling, -⟩ := next_poll hnext
      have hrest := (h.fits.rests hpolling hfind).1
      rw [hcontrol] at hrest
      cases hrest
  | step =>
      obtain ⟨u, hstep, rfl⟩ := step_of_actor? hnext hactor
      simp only [World.step?, hfind, hcontrol, Option.some.injEq] at hstep
      subst hstep
      obtain ⟨c, hc, -⟩ := Option.map_eq_some_iff.1 h.allows.association
      refine .left (World.mem_history.2 ?_)
      show (td.client, Contact.release) ∈ (m.world.releaseForTeardown td.client).contacts
      rw [(World.quiet_releaseForTeardown hc).contacts]
      exact List.mem_append_right _ (List.mem_singleton_self _)
  | expire =>
      obtain ⟨-, hwaits, rfl⟩ := expire_of_actor? hnext hactor
      obtain ⟨wait, heq, -⟩ := World.wait_of_step?_eq_none hwaits hfind
      cases hcontrol.symm.trans heq
  | _ => cases hactor

end Moving

/-- As long as the clock moves only where no task gets on, it stands still for the teardown. -/
theorem Settling.next (h : m.Settling handler td task time still) (hnext : m.next move = some after)
    (hspares : move.Spares handler) (hstill : still → ∀ ms, move = .pass ms → m.Idle) :
    after.Settling handler td task time still where
  fits := (h.fits.next hnext).fits
  tracks := h.tracks.next h.fits hnext hspares
  quelled := h.quelled.next hnext hspares
  outlying := h.outlying.next h.quelled h.fits h.tracks hnext hspares
  allows := h.allows.lasts (next_lasts hnext)
  handed := World.mem_history.2 ((h.fits.next hnext).grows.mem (World.mem_history.1 h.handed))
  drains := by
    have hlasts := next_lasts hnext
    cases h.drains with
    | entering polled id control frames now => exact h.enter polled id control frames now hnext
    | @waiting t deadline found frames later control now =>
        by_cases hactor : m.actor? move = some task
        · exact h.wait found frames later control now hnext hactor
        · refine .waiting (next_task? hnext found hactor) frames later control fun hprompt =>
            (next_now hnext fun ms heq => ?_).trans (now hprompt)
          have hdrains : t.Drains td.client := ⟨td, deadline, rfl, by simp [frames]⟩
          exact h.not_drains (hstill hprompt ms heq) (World.task?_mem found).1 hdrains
    | leaving found control frames =>
        by_cases hactor : m.actor? move = some task
        · exact h.leave found control hnext hactor
        · exact .leaving (next_task? hnext found hactor) control frames
    | left released =>
        exact .left
          (World.mem_history.2 ((h.fits.next hnext).grows.mem (World.mem_history.1 released)))
    | gone ended => exact .gone (hlasts.ended ended)

/-- In a run the clock moves only where no task gets on. -/
def Patient (m : Moment) (moves : List Move) : Prop :=
  ∀ before ms later n, moves = before ++ .pass ms :: later → m.run before = some n → n.Idle

theorem Patient.head (h : m.Patient (move :: moves)) (ms : Nat) (hmove : move = .pass ms) :
    m.Idle :=
  h [] ms moves m (by rw [hmove]; rfl) rfl

theorem Patient.tail (h : m.Patient (move :: moves)) (hnext : m.next move = some after) :
    after.Patient moves := by
  rintro before ms later n rfl hbefore
  exact h (move :: before) ms later n rfl (Option.bind_eq_some_iff.2 ⟨after, hnext, hbefore⟩)

theorem Settling.run (h : m.Settling handler td task time still) (hrun : m.run moves = some last)
    (hspares : ∀ move ∈ moves, move.Spares handler) (hpatient : still → m.Patient moves) :
    last.Settling handler td task time still := by
  induction moves generalizing m with
  | nil =>
      cases hrun
      exact h
  | cons move moves ih =>
      obtain ⟨after, hnext, hrest⟩ := Option.bind_eq_some_iff.1 hrun
      obtain ⟨hmove, hmoves⟩ := List.forall_mem_cons.1 hspares
      exact ih (h.next hnext hmove fun hstill => (hpatient hstill).head) hrest hmoves fun hstill =>
        (hpatient hstill).tail hnext

/-- No time limit is noted as over in a run in which the clock moves only where no task gets on. -/
theorem Settling.log (h : m.Settling handler td task time True) (hrun : m.run moves = some last)
    (hspares : ∀ move ∈ moves, move.Spares handler) (hpatient : m.Patient moves) {error : Error}
    (hnot : .swallowed (td.client + 1) .awaitCompletion error ∉ m.world.log) :
    .swallowed (td.client + 1) .awaitCompletion error ∉ last.world.log := by
  induction moves generalizing m with
  | nil =>
      cases hrun
      exact hnot
  | cons move moves ih =>
      obtain ⟨after, hnext, hrest⟩ := Option.bind_eq_some_iff.1 hrun
      obtain ⟨hmove, hmoves⟩ := List.forall_mem_cons.1 hspares
      refine ih (h.next hnext hmove fun _ => hpatient.head) hrest hmoves (hpatient.tail hnext)
        fun hline => ?_
      exact (next_log hnext hline).elim hnot (h.not_late trivial)

/-- Only a teardown that has waited for completion can have noted that this took too long. -/
theorem Reachable.logged (h : m.Reachable) {error : Error}
    (hline : .swallowed (client + 1) .awaitCompletion error ∈ m.world.log) :
    .awaitCompletion ∈ m.world.history client := by
  refine (Reachable.induction (P := fun m => m.CallsFit ∧
    (.swallowed (client + 1) .awaitCompletion error ∈ m.world.log →
      .awaitCompletion ∈ m.world.history client)) ⟨start_callsFit, fun hline => by cases hline⟩
    (fun {m after move} hbefore hnext => ?_) h).2 hline
  obtain ⟨hfit, hlogged⟩ := hbefore
  have hfollows := hfit.next hnext
  refine ⟨hfollows.fits, fun hline => ?_⟩
  have hbefore : .awaitCompletion ∈ m.world.history client := by
    rcases next_log hnext hline with hline | ⟨t, td, deadline, ht, hclient, hlate⟩
    · exact hlogged hline
    · have hframe : .teardown td (.drain deadline) ∈ t.frames := by
        rcases hlate with ⟨outer, hframes, -⟩ | ⟨inner, outer, hframes, -⟩ <;> simp [hframes]
      obtain ⟨-, -, hawaits, -⟩ := hfit.drains (of_polled? ht).1
        ⟨td, deadline, (Nat.succ.inj hclient).symm, hframe⟩
      exact hawaits
  exact World.mem_history.2 (hfollows.grows.mem (World.mem_history.1 hbefore))

/-! ## The result -/

/-- Once it has told the association of its client to cancel all operations, a teardown is about to
wait for completion. -/
theorem polled?_of_shutdownNow (ht : m.polled? = some t)
    (hcontrol : t.control = .call (.teardown td .shutdownNow)) (hframes : t.frames = [])
    (hnext : m.next .step = some after) :
    after.polled? = some { t with control := .call (.teardown td .drain), frames := [] } := by
  have hfind := polled?_task? ht
  refine polled?_step ht hnext ?_
  obtain ⟨u, hstep, rfl⟩ := step_of_polled ht hnext
  simp only [World.step?, hfind, hcontrol, hframes, Option.some.injEq] at hstep
  subst hstep
  have hcontact : World.Deals (fun _ => True) 0 _ _ (m.world.contact td.client .shutdownNow) :=
    World.deals_contact m.world td.client fun heq => by cases heq
  have htold :=
    (hcontact.trans (World.deals_shutdownAssociationNow _ (fun _ => trivial) td.client)).and
    (World.deals_swallowPanic _ td.client .shutdownNow trivial
      ((m.world.contact td.client .shutdownNow).shutdownAssociationNow td.client).2)
  exact World.task?_goto_of_deals htold hfind _ _

/-- The teardown of a client tells the handler of the client to cancel all operations, and the call
returns. -/
structure Cancels (m after : Moment) (handler : HandlerId) (td : Teardown)
    (task : TaskId) : Prop where
  next : m.next .step = some after
  tells : ∃ t, m.polled? = some t ∧ t.id = task ∧ t.control = .call (.teardown td .shutdownNow)

/-- From this moment on the calls of the handler settle. -/
theorem Cancels.settling (still : Prop) (h : m.Cancels after handler td task)
    (hfounded : made.Founded td.client handler)
    (hmade : made.Reachable) (hrun : made.run moves = some m) (htracks : m.Tracks handler)
    (hallows : made.world.Allows td.client handler) :
    after.Settling handler td task after.world.now still ∧
      ∀ error, .swallowed (td.client + 1) .awaitCompletion error ∉ after.world.log := by
  obtain ⟨t, ht, hid, hcontrol⟩ := h.tells
  have hm := hmade.run hrun
  have hat := hm.fits.polled ht
  rw [hcontrol] at hat
  have hheld : m.world.Held t.id td.client (.teardown td (.stage .shutdownNow)) := hat.callHeld rfl
  obtain ⟨-, -, hhanded, hcalls⟩ := hheld
  have hframes : t.frames = [] := hat.typed.eq_nil fun _ hwaiter => hwaiter
  have hfollows := hm.fits.next h.next
  have hpolled := polled?_of_shutdownNow ht hcontrol hframes h.next
  refine ⟨⟨hfollows.fits, htracks.next hm.fits h.next (Move.spares_step _),
    hfounded.quelled hrun ht rfl hcontrol h.next, fun t' hpolled' => ?_,
    hallows.lasts ((run_lasts hrun).trans (next_lasts h.next)),
    World.mem_history.2 (hfollows.grows.mem (World.mem_history.1 (hid ▸ hhanded))),
    .entering hpolled hid rfl rfl fun _ => rfl⟩, fun error hline => ?_⟩
  · cases hpolled.symm.trans hpolled'
    rfl
  rcases next_log h.next hline with hbefore | ⟨t', td', deadline, ht', -, hlate⟩
  · -- it has not waited for completion before
    obtain ⟨active, hfit⟩ := hm.fits.exists_callsFit
    obtain ⟨outcome, hclosing⟩ := (hfit.clients td.client).closing hhanded
    have hmem := hclosing.mem_afterTeardown rfl (hm.logged hbefore)
    have hcalls : afterTeardown (m.world.history td.client) =
        .shutdown :: (td.strategyCalls ++ td.endpointCalls) := hcalls
    rw [hcalls] at hmem
    simp [Teardown.strategyCalls, Teardown.endpointCalls] at hmem
  · cases ht.symm.trans ht'
    rcases hlate with ⟨outer, hframes', -⟩ | ⟨inner, outer, hframes', -⟩
    · cases hframes.symm.trans hframes'
    · exact absurd (hframes.symm.trans hframes').symm
        (List.append_ne_nil_of_right_ne_nil _ (List.cons_ne_nil _ _))

theorem Cancels.deeds (h : m.Cancels after handler td task)
    (hassociation : m.world.association? td.client = some (.handler handler)) :
    m.deeds handler .step = [.stop, .cancel .closing] := by
  obtain ⟨t, ht, -, hcontrol⟩ := h.tells
  simp only [Moment.deeds, ht, hcontrol]
  exact World.clientDeeds_of_association hassociation _

/-- A call that is in progress at this moment is cancelled, unless this has happened before. -/
theorem Cancels.due (h : m.Cancels after handler td task) (hm : m.Reachable)
    (hassociation : m.world.association? td.client = some (.handler handler))
    (hquelled : after.Quelled handler) (hhandler : e.handler = handler)
    (hfollowed : m.Followed e fate)
    (hwatched : m.Watched e) (hinside : m.Inside e) :
    ∃ reason, after.Due e reason ∧ (fate.reason = some reason ∨
      fate.reason = none ∧ reason = .cancelled "management client is closing") := by
  subst hhandler
  obtain ⟨t, ht, -, hcontrol⟩ := h.tells
  obtain ⟨t', inner, frame, hfind, hframes, hticket⟩ := hinside
  -- the task of the call is not the one of the teardown
  have hactor : m.actor? .step ≠ some e.task := by
    intro hactor
    obtain ⟨hmem, hactor'⟩ := of_polled? ht
    have hid : t.id = e.task := Option.some.inj (hactor'.symm.trans hactor)
    obtain ⟨active, hfit⟩ := hm.fits.exists_callsFit
    cases (hid ▸ hfit.task?_eq hmem).symm.trans hfind
    have hat := hm.fits.polled ht
    rw [hcontrol] at hat
    have hnil : t.frames = [] := hat.typed.eq_nil fun _ hwaiter => hwaiter
    exact absurd (hframes.symm.trans hnil)
      (List.append_ne_nil_of_right_ne_nil _ (List.cons_ne_nil _ _))
  obtain ⟨t'', inner', frame', hlives⟩ : ∃ t inner frame, m.Lives e fate t inner frame := by
    refine hfollowed.resolve_right fun hpast => ?_
    exact hpast.1.not_held hwatched (World.task?_mem hfind).1
      (World.mem_held_of_inside hframes hticket)
  have hlater := hlives.bystander hwatched h.next (Move.spares_step _) hactor
  obtain ⟨reason, hreason⟩ : ∃ reason, (m.follow after e .step fate).reason = some reason := by
    cases hreason : (m.follow after e .step fate).reason with
    | some reason => exact ⟨reason, rfl⟩
    | none =>
        obtain ⟨tracker, htracker, hshows⟩ := hlater.shows
        obtain ⟨tracker', htracker', hcancelled⟩ := hquelled
        cases htracker.symm.trans htracker'
        rw [hreason] at hshows
        have hactive : _ ∈ tracker.active := hshows
        rw [hcancelled.cancelled] at hactive
        cases hactive
  refine ⟨reason,
    ⟨⟨_, t'', inner', frame', hlater, hreason⟩, fun {polling} hpolling htask => ?_⟩, ?_⟩
  · exact hactor (htask ▸ next_polling h.next hpolling)
  · cases hbefore : fate.reason with
    | some reason' =>
        have hkept := Fate.reason_foldl_hear ((reason_notes m after e fate .step).trans hbefore)
          (m.deeds e.handler .step)
        exact .inl (hkept.symm.trans hreason)
    | none =>
        obtain ⟨notice, hmem, -, rfl⟩ :=
          Fate.exists_notice ((reason_notes m after e fate .step).trans hbefore) hreason
        rw [h.deeds hassociation] at hmem
        have hclosing : notice = .closing := by simpa using hmem
        exact .inr ⟨rfl, by rw [hclosing]; rfl⟩

/-- A call that was admitted and is in progress when all operations are cancelled: by the time that
no task gets on it has returned that the client is closing, or why it had been cancelled before,
namely because its channel had closed; unless it is dropped. -/
theorem Cancels.returns (h : m.Cancels after handler td task) {first : Moment}
    (hfirst : first.Reachable)
    (hassociation : m.world.association? td.client = some (.handler handler))
    (hquelled : after.Quelled handler) (hhandler : e.handler = handler) (hwatched : first.Watched e)
    (hbegins : first.Begins e) (hadmits : first.world.admits? e.handler = some e.operation)
    (hrun : first.run moves = some m) {later : List Move} (hlater : after.run later = some last)
    (hspares : ∀ move ∈ moves ++ later, move.Spares e.handler)
    (hinside : m.Inside e) (hidle : last.Idle) :
    ∃ before move rest n n', later = before ++ move :: rest ∧ after.run before = some n ∧
      n.next move = some n' ∧ (n.Drops move e.task e.outer ∨
        n.Answers n' e move (.error (.cancelled "management client is closing")) ∨
        ∃ channel cause, first.Notifies e .fresh moves (.channelClosed channel cause) ∧
          n.Answers n' e move (.error (World.closureReason channel cause))) := by
  -- before its first move the call is at its beginning and not inside the operation
  obtain ⟨hfollowed, hwatched'⟩ : m.Followed e (first.fate e .fresh moves) ∧ m.Watched e := by
    cases moves with
    | nil =>
        cases hrun
        exact absurd hinside hbegins.not_inside
    | cons move moves =>
        exact hbegins.followed hwatched hadmits hrun fun move hmove =>
          hspares move (List.mem_append_left _ hmove)
  obtain ⟨reason, hdue, hreason⟩ := h.due (hfirst.run hrun) hassociation hquelled hhandler hfollowed
    hwatched' hinside
  obtain ⟨before, move, rest, n, n', heq, hbefore, hnext, hends⟩ :=
    hdue.settles (hwatched'.next h.next (Move.spares_step _)) hlater
      (fun move hmove => hspares move (List.mem_append_right _ hmove)) hidle
  refine ⟨before, move, rest, n, n', heq, hbefore, hnext, ?_⟩
  rcases hends with hanswers | hdrops
  · rcases hreason with hreason | ⟨-, rfl⟩
    · obtain ⟨notice, hnotifies, rfl⟩ := exists_notifies hrun rfl hreason
      cases notice with
      | closing => exact .inr (.inl hanswers)
      | channelClosed channel cause => exact .inr (.inr ⟨channel, cause, hnotifies, hanswers⟩)
    · exact .inr (.inl hanswers)
  · exact .inl hdrops

theorem start_tracks (handler : HandlerId) : start.Tracks handler :=
  ⟨fun _ => rfl, fun heq => by cases heq⟩

/-- A client with a handler of its own is closed, and its teardown tells the handler to cancel all
operations. From then on every call of the handler is refused, and no operation gets on: the calls
that enclose what a task does and belong to an operation have done so before, so no operation is
called, and no body of one begins to run. By the time
that no task gets on, no operation is left, the teardown does not wait for completion any more, and
every call that was in progress has returned why it was cancelled, unless it was dropped. If the
clock moves only where no task gets on, then the teardown leaves its wait at the time at which it
entered it, and no time limit is noted as over. -/
theorem cancels_operations {builder : Builder} {spec : ClientSpec} {trace : AllocationTrace}
    {before : Moment} {cell : ConfigCell} {earlier later : List Move}
    (hbefore : start.run earlier = some before)
    (hbuild : before.next (.build spec trace) = some made) (hrecorder : spec.recorder = none)
    (hconfig : made.world.configOf? before.world.clients.length = some cell)
    (hbuilt : builder.build = .ok cell.config) (hrun : made.run moves = some m)
    (hclient : td.client = before.world.clients.length)
    (hcancels : m.Cancels after before.world.handlers.length td task)
    (hlater : after.run later = some last)
    (hspares : ∀ move ∈ earlier ++ .build spec trace :: (moves ++ later),
      move.Spares before.world.handlers.length) :
    (∀ {e : Execution}, e.handler = before.world.handlers.length → last.Begins e →
      last.Refuses e) ∧
    (∀ {move next t' frame id}, last.next move = some next →
      move.Spares before.world.handlers.length → t' ∈ next.world.tasks → frame ∈ t'.frames →
        frame.ticket? before.world.handlers.length = some id →
          ∃ t, last.world.task? t'.id = some t ∧ frame ∈ t.frames) ∧
    (last.Idle →
      (∃ tracker, last.world.tracker? before.world.handlers.length = some tracker ∧
        tracker.count = 0) ∧
      (∀ t ∈ last.world.tasks, ¬ t.Drains before.world.clients.length) ∧
      ∀ {e : Execution} {first : Moment} {opening running : List Move},
        e.handler = before.world.handlers.length → moves = opening ++ running →
        made.run opening = some first → first.Begins e →
        first.world.admits? e.handler = some e.operation → first.run running = some m →
        m.Inside e →
          ∃ waiting move rest n n', later = waiting ++ move :: rest ∧ after.run waiting = some n ∧
            n.next move = some n' ∧ (n.Drops move e.task e.outer ∨
              n.Answers n' e move (.error (.cancelled "management client is closing")) ∨
              ∃ channel cause, first.Notifies e .fresh running (.channelClosed channel cause) ∧
                n.Answers n' e move (.error (World.closureReason channel cause)))) ∧
    (after.Patient later →
      (∀ error, .swallowed (before.world.clients.length + 1) .awaitCompletion error ∉
        last.world.log) ∧
      ∀ {t move next}, t ∈ last.world.tasks → t.Drains before.world.clients.length →
        last.next move = some next → (∀ ms, move = .pass ms → last.Idle) →
          last.world.now = after.world.now ∧ next.world.now = after.world.now) := by
  rw [← hclient] at hconfig ⊢
  have hmade : made.Reachable := Reachable.next ⟨earlier, hbefore⟩ hbuild
  have hfounded : made.Founded td.client before.world.handlers.length := by
    have hfounded := founded_of_build ⟨earlier, hbefore⟩ hbuild hrecorder ⟨cell, hclient ▸ hconfig⟩
    rwa [← hclient] at hfounded
  have hallows : made.world.Allows td.client before.world.handlers.length := by
    refine ⟨hfounded.association, ?_⟩
    simp only [World.completionTimeout, hconfig]
    exact Builder.not_isZero_of_build hbuilt
  have hfit := hmade.fits
  -- nobody has reached into the record of the handler
  obtain ⟨hspares', hspares⟩ := List.forall_mem_append.1 hspares
  obtain ⟨hspare, hspares⟩ := List.forall_mem_cons.1 hspares
  obtain ⟨hspares₁, hspares₂⟩ := List.forall_mem_append.1 hspares
  have htracks : made.Tracks before.world.handlers.length := by
    obtain ⟨hfit', htracks'⟩ := (start_tracks _).run start_callsFit hbefore hspares'
    exact htracks'.next hfit' hbuild hspare
  have htracks₁ := (htracks.run hfit hrun hspares₁).2
  have hm := hmade.run hrun
  have hsettling : ∀ still : Prop, (still → after.Patient later) →
      last.Settling before.world.handlers.length td task after.world.now still :=
        fun still hstill =>
    (hcancels.settling still hfounded hmade hrun htracks₁ hallows).1.run hlater hspares₂ hstill
  have hquelled : after.Quelled before.world.handlers.length :=
    (hcancels.settling True hfounded hmade hrun htracks₁ hallows).1.quelled
  have hlast := hsettling False False.elim
  refine ⟨fun heq hbegins => hbegins.refuses (heq ▸ hlast.quelled.admits?),
    fun hnext hspare ht' hframe hticket => hlast.quelled.mem_frames hlast.outlying hlast.fits
      hlast.tracks hnext hspare ht' hframe hticket,
    fun hidle => ⟨hlast.quelled.count_eq_zero hlast.fits hlast.tracks hidle,
        fun t ht => hlast.not_drains hidle ht, ?_⟩, fun hpatient => ⟨fun error => ?_, ?_⟩⟩
  · rintro e first opening running hhandler rfl hopening hbegins hadmits hrunning hinside
    have hassociation := (hallows.lasts (run_lasts hrun)).association
    obtain ⟨hspares₃, hspares₄⟩ := List.forall_mem_append.1 hspares₁
    have hwatched : made.Watched e := ⟨hfit, hhandler ▸ htracks⟩
    refine hcancels.returns (hmade.run hopening) hassociation hquelled hhandler
      (hwatched.run hopening (hhandler ▸ hspares₃)) hbegins hadmits hrunning hlater ?_ hinside hidle
    exact hhandler ▸ List.forall_mem_append.2 ⟨hspares₄, hspares₂⟩
  · obtain ⟨hafter, hlog⟩ := hcancels.settling True hfounded hmade hrun htracks₁ hallows
    exact hafter.log hlater hspares₂ hpatient (hlog error)
  · intro t move next ht hdrains hnext hidle
    have hprompt := hsettling True fun _ => hpatient
    obtain ⟨-, hnow, -⟩ := hprompt.waits ht hdrains
    refine ⟨hnow trivial, (next_now hnext fun ms heq => ?_).trans (hnow trivial)⟩
    exact hprompt.not_drains (hidle ms heq) ht hdrains

/-- A client with a handler and the default configuration. -/
def ordinaryClient : ClientSpec where
  config := .own (Builder.default.build.toOption.get (by decide +kernel))
  disposers := []
  recorder := none
  factory := default

/-- A call executes an operation that never ends. -/
def endlessCall : Execution := ⟨0, 0, 1, ⟨[], [.pending]⟩, some 0, []⟩

/-- Up to the beginning of the call. -/
def endlessStart : List Move :=
  [.act (.execute 0 "operation" ⟨[], [.pending]⟩), .poll 0]

/-- The operation begins, the client is closed, and its teardown is about to tell the handler to
cancel all operations. -/
def endlessClose : List Move :=
  List.replicate 17 .step ++ [.expire, .rest, .act (.close 0 "close" none), .poll 1, .step, .step,
    .step, .expire, .rest, .poll 2] ++ List.replicate 5 .step

/-- The call returns, and then the teardown and the close do. -/
def endlessEnd : List Move :=
  [.step, .step, .expire, .rest] ++ Move.pollAll 0 1 0 ++ Move.pollAll 2 14 0 ++ Move.pollAll 1 3 0

def endlessMade : Moment :=
  (start.next (.build ordinaryClient default)).get (by decide +kernel)

def endlessBegin : Moment := (endlessMade.run endlessStart).get (by decide +kernel)

def endlessTold : Moment := (endlessBegin.run endlessClose).get (by decide +kernel)

def endlessAfter : Moment := (endlessTold.next .step).get (by decide +kernel)

def endlessLast : Moment := (endlessAfter.run endlessEnd).get (by decide +kernel)

theorem cancels_operations_of_endless_call :
    start.next (.build ordinaryClient default) = some endlessMade ∧
      endlessMade.run (endlessStart ++ endlessClose) = some endlessTold ∧
      endlessTold.Cancels endlessAfter 0 ⟨0, some 0, some 0, none⟩ 2 ∧
      endlessAfter.run endlessEnd = some endlessLast ∧ endlessLast.Idle ∧
      (∃ tracker, endlessLast.world.tracker? 0 = some tracker ∧ tracker.count = 0) ∧
      (∀ error, .swallowed 1 .awaitCompletion error ∉ endlessLast.world.log) ∧
      (∃ waiting move rest n n', endlessEnd = waiting ++ move :: rest ∧
        endlessAfter.run waiting = some n ∧ n.next move = some n' ∧
        (n.Drops move 0 [] ∨
          n.Answers n' endlessCall move (.error (.cancelled "management client is closing")) ∨
          ∃ channel cause,
            endlessBegin.Notifies endlessCall .fresh endlessClose (.channelClosed channel cause) ∧
            n.Answers n' endlessCall move (.error (World.closureReason channel cause)))) ∧
      endlessLast.world.finish? 0 =
        some (.value (.error (.cancelled "management client is closing"))) := by
  have hbuild : start.next (.build ordinaryClient default) = some endlessMade :=
    (Option.some_get _).symm
  have hbegin : endlessMade.run endlessStart = some endlessBegin := (Option.some_get _).symm
  have hclose : endlessBegin.run endlessClose = some endlessTold := (Option.some_get _).symm
  have hend : endlessAfter.run endlessEnd = some endlessLast := (Option.some_get _).symm
  have hcancels : endlessTold.Cancels endlessAfter 0 ⟨0, some 0, some 0, none⟩ 2 :=
    ⟨(Option.some_get _).symm, _, rfl, rfl, rfl⟩
  have hidle : endlessLast.Idle := ⟨rfl, fun t ht => by cases ht⟩
  have hspares : ∀ move ∈ [] ++ .build ordinaryClient default ::
      (endlessStart ++ endlessClose ++ endlessEnd), move.Spares 0 := by
    decide +kernel
  have hpatient : endlessAfter.Patient endlessEnd := by
    intro before ms later n heq
    have hmem : .pass ms ∈ endlessEnd := heq ▸ List.mem_append_right _ (List.mem_cons_self ..)
    simp [endlessEnd, Move.pollAll] at hmem
  have hbuilt : Builder.default.build =
      .ok (Builder.default.build.toOption.get (by decide +kernel)) := rfl
  obtain ⟨-, -, hsettled, hprompt⟩ := cancels_operations rfl hbuild rfl rfl hbuilt
    (run_trans hbegin hclose) rfl hcancels hend hspares
  obtain ⟨hcount, -, hreturns⟩ := hsettled hidle
  have hbegins : endlessBegin.Begins endlessCall := ⟨_, rfl, rfl, rfl, rfl⟩
  have hinside : endlessTold.Inside endlessCall := ⟨_, [], _, rfl, rfl, rfl⟩
  exact ⟨hbuild, run_trans hbegin hclose, hcancels, hend, hidle, hcount, (hprompt hpatient).1,
    hreturns rfl rfl hbegin hbegins rfl hclose hinside, rfl⟩

end Moment

end Remoting
