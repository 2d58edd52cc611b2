import Remoting.Proofs.Aftermath
import Remoting.Proofs.Draining
import Remoting.Proofs.Holding
import Remoting.Proofs.Leaks

/-!
# Clients that nobody closes

A client whose last handle is lost while it is open is closed in the background. If its reporter
returns, the loss disturbs nobody: the user goes on, and a task that held the handle ends as it
would have. The close is under way from then on, `Underway`: it is pending, or it stands in the
queue of the lock, or it has taken the lock. Where nothing can happen any more, the client is torn
down as far as its collaborators answer, unless a call that waits for a collaborator forever has the
lock.

A reporter that panics does so where the handle is lost, and then there is no close.
-/

namespace Remoting

namespace World

variable {w u : World} {task : TaskId} {t : Task} {client : ClientId}

/-! ## The loss of a handle -/

/-- Only a reporter that panics disturbs whoever loses a handle. -/
theorem dropHandle_snd (h : ¬ w.Panics client) : (w.dropHandle client).2 = none := by
  unfold dropHandle
  split
  next => rfl
  next c _ =>
    split
    next => rfl
    next =>
      split
      next v content hreport => exact absurd (panics_of_reportLeak (by rw [hreport])) h
      next => rfl

/-- A reporter that panics takes the close of the client with it. -/
theorem dropHandle_of_panics {c : Client} (h : w.Panics client) (hc : w.clients[client]? = some c)
    (hlost : w.hasHandle client = false) (hopen : c.closed = false) :
    ∃ message, w.dropHandle client =
      (w.emit (.leak ⟨client + 1, c.trace⟩), some (.text message)) := by
  obtain ⟨message, hreporter⟩ := h
  have hreport : w.reportLeak client c.trace =
      (w.emit (.leak ⟨client + 1, c.trace⟩), some (.text message)) := by
    simp only [reportLeak, hreporter]
  simp only [dropHandle, hc, hlost, hopen, Bool.or_false, Bool.false_eq_true, if_false, hreport]
  exact ⟨message, rfl⟩

theorem panics_dropHandle (h : w.Panics client) : (w.dropHandle client).1.Panics client := by
  rcases w.dropHandle_cases client with ⟨hsame, -⟩ | ⟨c, -, -, -, hreported⟩
  · rwa [hsame]
  · exact hreported.panics h

/-- A task that holds a handle of a client ends as it would have without the handle. -/
theorem finish?_finishTask (ht : w.task? task = some t) (hhandle : t.handle = some client)
    (finish : Finish) (hnormal : ¬ (w.finishTask task finish).Panics client) :
    (w.finishTask task finish).finish? task = some finish := by
  -- the configuration with the reporter outlives the task
  have hremoved : ¬ (w.removeTask task).Panics client := by
    intro hpanics
    refine hnormal ?_
    simp only [finishTask, ht, hhandle]
    have hdropped := panics_dropHandle hpanics
    have hheld := dropHeld_fst (w.removeTask task) finish (some client)
    rw [Option.elim_some] at hheld
    rw [← hheld] at hdropped
    obtain ⟨hclients, hconfigs⟩ :=
      leaveOwner_eq ((w.removeTask task).dropHeld finish (some client)).1 task t.owner
    exact panics_of_eq (by simp only [noteFinish, signal, hclients])
      (by simp only [noteFinish, signal, hconfigs]) hdropped
  have hdropped := dropHandle_snd hremoved
  have hsame : ((w.removeTask task).dropHeld finish (some client)).2 = finish := by
    simp only [dropHeld]
    split
    next heq => rw [heq] at hdropped; cases hdropped
    next => rfl
  simp only [finishTask, ht, hhandle, hsame]
  simp [finish?, noteFinish, signal]

/-- How a task ends that has nothing left to do. -/
def ending? (w : World) (t : Task) : Option Finish :=
  match t.control, t.frames with
  | .reply reply, [] => some (.value (reply.map w.present))
  | .unwind content, [] => some (.panicked content)
  | .lost, [] => some .aborted
  | _, _ => none

theorem step?_of_ending? {finish : Finish} (ht : w.task? task = some t)
    (hending : w.ending? t = some finish) : w.step? task = some (w.finishTask task finish) := by
  unfold ending? at hending
  split at hending
  next reply hcontrol hframes =>
    cases hending
    simp only [step?, ht, hcontrol, hframes]
  next content hcontrol hframes =>
    cases hending
    simp only [step?, ht, hcontrol, hframes]
  next hcontrol hframes =>
    cases hending
    simp only [step?, ht, hcontrol, hframes]
  next => cases hending

/-! ## The way to the lock -/

/-- A close in the background that has not begun is about to be made. -/
theorem isPending_iff : t.isPending client = true ↔
    ∃ interrupt background, t.control = .call (.close client interrupt) ∧
      t.frames = [.background background] := by
  unfold Task.isPending
  split
  next closed interrupt background hcontrol hframes => simp [hcontrol, hframes]
  next hother =>
    refine iff_of_false Bool.false_ne_true ?_
    rintro ⟨interrupt, background, hcontrol, hframes⟩
    exact hother _ _ _ hcontrol hframes

/-- A close in the background that begins stands in the queue of the lock. -/
theorem mem_queue_of_begins (h : w.Seats) (ht : w.task? task = some t)
    (hpending : t.isPending client = true) {c : Client} (hc : w.clients[client]? = some c)
    (hstep : w.step? task = some u) :
    ∃ t', u.task? task = some t' ∧ t'.isLocking client = true ∧ task ∈ u.queue client := by
  obtain ⟨interrupt, background, hcontrol, hframes⟩ := isPending_iff.1 hpending
  rw [step?_call ht hcontrol, hframes] at hstep
  cases hstep
  have hlock : w.lock? client = some c.lock := by
    rw [lock?, hc]
    rfl
  have hasked : (w.requestLock task client).lock? client = some (c.lock.request task) := by
    refine (lock?_modifyLock w client (·.request task) client).trans ?_
    rw [hlock, Option.map_some, if_pos rfl]
  have hrequest : Passes (fun _ => false) (fun _ => True) w (w.requestLock task client) :=
    passes_requestLock w task client
  refine ⟨_, task?_goto_self (hrequest.task? ht) _ _,
    Task.isLocking_iff.2 ⟨interrupt, background, rfl⟩, ?_⟩
  have hin : task ∈ (w.requestLock task client).queue client := by
    rw [queue_of_lock? hasked]
    exact (Lock.mem_queue_request (h.singleFile hlock)).2 (.inr rfl)
  exact hin

/-- A close in the background that has asked for the lock is not left. -/
theorem cut?_of_isLocking (h : t.isLocking client = true) :
    w.cut? t.frames = none ∧ w.overdue? t.frames = none := by
  obtain ⟨interrupt, closed, hframes⟩ := Task.isLocking_iff.1 h
  rw [hframes]
  exact ⟨rfl, rfl⟩

/-- A task that waits and asks for the lock waits for it. -/
theorem wait_of_claim? {wait : Wait} {frames : List Frame}
    (hstack : w.Stack task (.wait wait) frames)
    (hclaim : (Control.wait wait).claim? frames = some client) : wait = .lock client := by
  cases frames with
  | nil => cases wait <;> cases hclaim
  | cons frame frames =>
      cases wait with
      | lock other =>
          have hask : frame.ask? = some client := hclaim
          have hawaits := hstack.1
          cases frame with
          | getLock | closeLock =>
              cases hask
              exact Job.wait.inj hawaits
          | recordLock =>
              cases hask
              exact Job.wait.inj hawaits.1
          | _ => cases hask
      | _ => cases hclaim

end World

namespace Moment

variable {m after last : Moment} {move : Move} {moves : List Move} {client : ClientId} {t : Task}

/-- A close in the background that has begun is stopped with a move. Nobody can stop its task but
the end of the runtime. -/
def Stops (m : Moment) (client : ClientId) (move : Move) : Prop :=
  ∃ t, move = .abort t.id ∧ m.world.task? t.id = some t ∧ t.isLocking client = true

/-- A close of the client is under way. -/
inductive Underway (m : Moment) (client : ClientId) : Prop
  /-- A close in the background has not begun. -/
  | pending (h : 0 < m.world.pending client)
  /-- A close in the background waits for the lock. -/
  | queued {t : Task} (ht : m.world.task? t.id = some t) (locking : t.isLocking client = true)
      (waits : t.id ∈ m.world.queue client)
  /-- A close has taken the lock. -/
  | handed (h : m.world.Handed client)

/-- A step of a close in the background that has asked for the lock. -/
theorem Underway.step (hm : m.Reachable) (ht : m.polled? = some t)
    (hlocking : t.isLocking client = true) (hwaits : t.id ∈ m.world.queue client)
    (hfound : ∃ c, m.world.clients[client]? = some c) (hnext : m.next .step = some after) :
    after.Underway client := by
  obtain ⟨c, hc⟩ := hfound
  obtain ⟨interrupt, closed, hframes⟩ := Task.isLocking_iff.1 hlocking
  have hfind := polled?_task? ht
  have htyped := (hm.fits.polled ht).typed
  obtain ⟨u, hstep, rfl⟩ := step_of_polled ht hnext
  -- as long as it does not have the lock it stays where it is
  have hstay : ∀ control, u = m.world.goto t.id control t.frames →
      Underway ⟨u, m.polling⟩ client := by
    rintro control rfl
    refine .queued (t := { t with control := control, frames := t.frames }) ?_
      (Task.isLocking_iff.2 ⟨interrupt, closed, hframes⟩) hwaits
    exact World.task?_goto_self hfind _ _
  cases hcontrol : t.control with
  | call call =>
      rw [hcontrol, hframes] at htyped
      have hjob : call.job = .wait (.lock client) := htyped.1
      rw [World.step?_call hfind hcontrol] at hstep
      cases call with
      | await wait =>
          cases hstep
          exact hstay _ rfl
      | _ => cases hjob
  | wait wait =>
      rw [World.step?_wait hfind hcontrol] at hstep
      obtain ⟨control, -, rfl⟩ := Option.map_eq_some_iff.1 hstep
      exact hstay _ rfl
  | reply reply =>
      obtain ⟨after', joined, td, hnext', hmem, -⟩ :=
        exists_teardown_of_locked hm.fits ht hframes hcontrol hc
      cases hnext.symm.trans hnext'
      exact .handed ⟨joined, td, hmem⟩
  | unwind content =>
      rw [hcontrol, hframes] at htyped
      obtain ⟨job, ⟨rfl, -⟩, hunwinds⟩ := htyped
      exact hunwinds.elim
  | lost =>
      rw [hcontrol, hframes] at htyped
      obtain ⟨joined, ⟨hawaits, -⟩, -⟩ := htyped
      cases hawaits

/-- No move lets go of the close of a client, unless it stops one that has begun. -/
theorem Underway.next (h : m.Underway client) (hm : m.Reachable)
    (hfound : ∃ c, m.world.clients[client]? = some c) (hnext : m.next move = some after)
    (hnormal : ¬ after.world.Panics client) (hstops : ¬ m.Stops client move) :
    after.Underway client := by
  have hfollows := hm.fits.next hnext
  cases h with
  | handed h => exact .handed (h.grow hfollows.grows)
  | @queued t ht locking waits =>
      by_cases hactor : m.actor? move = some t.id
      · cases move with
        | abort task =>
            cases hactor
            exact absurd ⟨t, rfl, ht, locking⟩ hstops
        | poll task =>
            cases hactor
            obtain ⟨-, rfl⟩ := next_poll hnext
            rw [World.cutTask_eq_self ht (World.cut?_of_isLocking locking).1]
            exact .queued ht locking waits
        | expire =>
            obtain ⟨-, -, rfl⟩ := expire_of_actor? hnext hactor
            rw [World.expireDrain_eq_self ht (World.cut?_of_isLocking locking).2]
            exact .queued ht locking waits
        | step =>
            exact Underway.step hm (polled?_of_actor? hactor ht) locking waits hfound hnext
        | _ => cases hactor
      · exact .queued (next_task? hnext ht hactor) locking
          ((hm.fits.shifts hm.seats hnext).mem_queue hactor waits)
  | pending h =>
      by_cases hbegins : m.begins client move = 0
      · refine .pending ?_
        have halters := next_alters hm.fits hnext client
        rw [hbegins] at halters
        cases halters with
        | carries hcarries =>
            have hpending := hcarries.pending
            omega
        | born _ _ _ _ pending | settled _ _ _ _ pending => omega
        | leaked _ _ _ _ _ pending =>
            have hpending := pending hnormal
            omega
      · -- the close begins
        cases move with
        | step =>
            cases hpolled : m.polled? with
            | none => simp [begins, stepsOf, hpolled] at hbegins
            | some t =>
                have hpending : t.isPending client = true := by
                  simpa [begins, stepsOf, hpolled] using hbegins
                have hfind := polled?_task? hpolled
                obtain ⟨c, hc⟩ := hfound
                obtain ⟨u, hstep, rfl⟩ := step_of_polled hpolled hnext
                obtain ⟨t', ht', hlocking, hwaits⟩ :=
                  World.mem_queue_of_begins hm.seats hfind hpending hc hstep
                obtain ⟨-, hid'⟩ := World.task?_mem ht'
                rw [← hid'] at ht' hwaits
                exact .queued ht' hlocking hwaits
        | _ => exact absurd rfl hbegins

/-- In a run no close of the client that has begun in the background is stopped. -/
def Lets (m : Moment) (client : ClientId) : List Move → Prop
  | [] => True
  | move :: moves => ¬ m.Stops client move ∧
    ∀ after, m.next move = some after → after.Lets client moves

theorem lets_of_forall_ne (h : ∀ move ∈ moves, ∀ task, move ≠ .abort task) :
    m.Lets client moves := by
  induction moves generalizing m with
  | nil => trivial
  | cons move moves ih =>
      obtain ⟨hmove, hmoves⟩ := List.forall_mem_cons.1 h
      exact ⟨fun ⟨t, habort, _⟩ => hmove t.id habort, fun after _ => ih hmoves⟩

theorem Underway.run (h : m.Underway client) (hm : m.Reachable)
    (hfound : ∃ c, m.world.clients[client]? = some c) (hrun : m.run moves = some last)
    (hnormal : ¬ last.world.Panics client) (hlets : m.Lets client moves) :
    last.Underway client := by
  induction moves generalizing m with
  | nil =>
      cases hrun
      exact h
  | cons move moves ih =>
      obtain ⟨after, hnext, hrest⟩ := Option.bind_eq_some_iff.1 hrun
      obtain ⟨hstops, hlets⟩ := hlets
      have hnormal' : ¬ after.world.Panics client := fun hpanics =>
        hnormal (hpanics.lasts (run_lasts hrest))
      exact ih (h.next hm hfound hnext hnormal' hstops) (hm.next hnext)
        ((next_lasts hnext).found hfound) hrest (hlets after hnext)

/-! ## Where nothing happens any more -/

/-- The client is torn down as far as its collaborators answer. -/
def TornDown (m : Moment) (client : ClientId) : Prop :=
  ∃ task td, .teardown task td ∈ m.world.history client ∧
    (m.world.finish? task = none → ∃ t ∈ m.world.tasks, t.id = task ∧ m.Hangs t td) ∧
    ∃ skipDrain skipWait, ∀ finish, m.world.finish? task = some finish → finish ≠ .aborted →
      afterTeardown (m.world.history client) = td.sequence skipDrain skipWait

/-- A call that makes a connection or a channel has the lock of the client and waits in vain for a
collaborator. -/
def Blocked (m : Moment) (client : ClientId) : Prop :=
  ∃ t ∈ m.world.tasks, m.world.owner? client = some t.id ∧
    (∃ wait, t.control = .wait wait ∧ m.world.ready? t.id wait = none) ∧
    ((∃ endpoint plan, .creation client endpoint plan ∈ t.frames) ∨
      ∃ strategy channel, .channel client strategy channel ∈ t.frames)

theorem Handed.tornDown (h : m.world.Handed client) (hm : m.Reachable) (hsettled : m.Settled) :
    m.TornDown client := by
  obtain ⟨task, td, hhanded⟩ := h
  obtain ⟨skipDrain, skipWait, -, hall⟩ := hm.sequence hhanded
  exact ⟨task, td, hhanded, hm.hangs hsettled hhanded, skipDrain, skipWait, hall⟩

/-- A close that is under way where nothing can happen any more has had its effect, is blocked, or
is left to helpers. -/
theorem Underway.settles (h : m.Underway client) (hm : m.Reachable) (hsettled : m.Settled)
    (hhelped : client ∉ m.world.stranded) : m.TornDown client ∨ m.Blocked client := by
  cases h with
  | handed h => exact .inl (Handed.tornDown h hm hsettled)
  | pending h =>
      -- a close that is pending on the list of tasks can get on
      rw [World.pending, List.count_eq_zero_of_not_mem hhelped, Nat.add_zero,
        List.countP_pos_iff] at h
      obtain ⟨t, ht, hpending⟩ := h
      obtain ⟨interrupt, background, hcontrol, -⟩ := World.isPending_iff.1 hpending
      obtain ⟨wait, hwait, -⟩ := hsettled.idle.waits hm.fits ht
      cases hcontrol.symm.trans hwait
  | @queued t ht locking waits =>
      obtain ⟨owner, t', howner, ht', hclaims⟩ := hm.seats.exists_owner waits
      obtain ⟨hmem, rfl⟩ := World.task?_mem ht'
      obtain ⟨wait, hwait, hready, -⟩ := hsettled.idle.waits hm.fits hmem
      have hok := hm.fits.taskOk hmem
      rcases hclaims with hclaims | ⟨frame, hframe, hclaims⟩
      · -- whoever has the lock and waits for nothing else gets on
        have htyped := hok.typed
        rw [hwait] at hclaims htyped
        rw [World.wait_of_claim? htyped hclaims, World.ready?,
          if_pos (World.ownsLock_of_owner? howner)] at hready
        cases hready
      · cases frame with
        | creation other endpoint plan =>
            cases hclaims
            exact .inr ⟨t', hmem, howner, ⟨wait, hwait, hready⟩, .inl ⟨endpoint, plan, hframe⟩⟩
        | channel other strategy channel =>
            cases hclaims
            exact .inr ⟨t', hmem, howner, ⟨wait, hwait, hready⟩, .inr ⟨strategy, channel, hframe⟩⟩
        | teardown td pause =>
            cases hclaims
            have hheld : m.world.Held t'.id td.client (.teardown td (.pause pause)) :=
              hok.frameHolds hframe rfl
            exact .inl (Handed.tornDown ⟨t'.id, td, hheld.2.2.1⟩ hm hsettled)
        | _ => cases hclaims

/-! ## The result -/

/-- Nobody is disturbed by the loss of a handle with a move: a user who drops the client goes on,
and a task that held a handle ends as it would have without it. -/
structure Undisturbed (m after : Moment) (client : ClientId) (move : Move) : Prop where
  user : move = .act (.drop client) → ((Session.ofWorld m.world).act (.drop client)).1 = .nothing
  stopped : ∀ {task t}, move = .abort task → m.world.task? task = some t →
    t.handle = some client → after.world.finish? task = some .aborted
  ended : ∀ {t finish}, move = .step → m.polled? = some t → t.handle = some client →
    m.world.ending? t = some finish → after.world.finish? t.id = some finish

/-- What a user gets who drops a client. -/
theorem answer_drop {w : World} {c : Client} (hc : w.clients[client]? = some c)
    (held : c.held = true) :
    ((Session.ofWorld w).act (.drop client)).1 =
      (((w.modifyClient client fun c => { c with held := false }).dropHandle client).2).elim
        .nothing .panicked := by
  simp only [Session.act, Session.withClient, show
    (Session.ofWorld w).world.clients[client]? = some c from hc, if_pos held, Session.dropClient]
  rw [show (Session.ofWorld w).world = w from rfl]
  split
  next heq =>
    rw [heq]
    rfl
  next heq =>
    rw [heq]
    rfl

theorem act_drop {w : World} {c : Client} (hc : w.clients[client]? = some c) :
    w.act (.drop client) = if c.held then
      ((w.modifyClient client fun c => { c with held := false }).dropHandle client).1 else w := by
  simp only [World.act, Session.act, Session.withClient, show
    (Session.ofWorld w).world.clients[client]? = some c from hc]
  split
  next => exact World.world_dropClient _ client
  next => rfl

theorem next_drop (hnext : m.next (.act (.drop client)) = some after) :
    after.world = m.world.act (.drop client) := by
  cases next_transition hnext
  rfl

theorem undisturbed (hnext : m.next move = some after)
    (hfound : ∃ c, m.world.clients[client]? = some c) (hnormal : ¬ after.world.Panics client) :
    m.Undisturbed after client move where
  user heq := by
    subst heq
    obtain ⟨c, hc⟩ := hfound
    have hworld := (next_drop hnext).trans (act_drop hc)
    split at hworld
    next held =>
      have hdropped : ¬ (m.world.modifyClient client fun c => { c with held := false }).Panics
          client :=
        fun hpanics => hnormal (hworld ▸ World.panics_dropHandle hpanics)
      rw [answer_drop hc held, World.dropHandle_snd hdropped, Option.elim_none]
    next held =>
      simp only [Session.act, Session.withClient, show
        (Session.ofWorld m.world).world.clients[client]? = some c from hc, if_neg held]
  stopped {task t} heq ht hhandle := by
    subst heq
    have hdrop : World.Deals (fun _ => True) 0 _ m.world _ :=
      World.deals_dropTask m.world t fun _ _ _ => fun _ => trivial
    have hworld : after.world = (m.world.dropTask t).finishTask task .aborted := by
      rw [next_abort hnext]
      simp only [World.abortTask, ht]
    rw [hworld] at hnormal ⊢
    exact World.finish?_finishTask (hdrop.task? ht) hhandle .aborted hnormal
  ended {t finish} heq ht hhandle hending := by
    subst heq
    have hfind := polled?_task? ht
    obtain ⟨u, hstep, rfl⟩ := step_of_polled ht hnext
    rw [World.step?_of_ending? hfind hending] at hstep
    cases hstep
    exact World.finish?_finishTask hfind hhandle finish hnormal

/-- If the reporter of an open client panics, its panic leaves the drop of the last handle, and no
close is started. -/
theorem unwinds_of_panics {c : Client} (hm : m.Reachable) (hc : m.world.clients[client]? = some c)
    (hopen : c.closed = false) (hloses : m.Loses client (.act (.drop client)) after)
    (hpanics : m.world.Panics client) :
    (∃ message,
      ((Session.ofWorld m.world).act (.drop client)).1 = .panicked (.text message)) ∧
      after.world.pending client = 0 := by
  obtain ⟨before, hbefore⟩ := hm
  have hworld := (next_drop hloses.next).trans (act_drop hc)
  split at hworld
  next held =>
    have hchanged :
        (m.world.modifyClient client fun c => { c with held := false }).clients[client]? =
        some { c with held := false } := by simp [World.modifyClient, hc]
    have hpanics' : (m.world.modifyClient client fun c => { c with held := false }).Panics client :=
      hpanics.lasts
        (World.lasts_modifyClient m.world client (fun _ => rfl) (fun _ => rfl) fun _ => rfl)
    have hlost : (m.world.modifyClient client fun c => { c with held := false }).hasHandle client =
        false := by
      rcases World.dropHandle_cases (m.world.modifyClient client fun c => { c with held := false })
        client with ⟨hsame, -⟩ | ⟨-, -, hlost, -⟩
      · rw [← hsame, ← hworld]
        exact hloses.gone
      · exact hlost
    obtain ⟨message, hdrop⟩ := World.dropHandle_of_panics hpanics' hchanged hlost hopen
    rw [hdrop] at hworld
    refine ⟨⟨message, by rw [answer_drop hc held, hdrop]; rfl⟩, ?_⟩
    obtain ⟨-, -, hzero⟩ := ((attends_start client).run hbefore).custody.of_held hloses.held
    have hpending : after.world.pending client = m.world.pending client := by
      rw [hworld]
      rfl
    omega
  next held =>
    have hgone := hloses.gone
    rw [hworld, hloses.held] at hgone
    cases hgone

/-- If the reporter of a client returns, the loss of the last handle of the open client disturbs
nobody, whatever state the client is in, and a close in the background is started. As long as its
task is not stopped after it has begun, it is under way from then on, and where nothing can happen
any more it has torn the client down, unless it is blocked or left to helpers. -/
theorem closed_of_dropped {before later : List Move} {c : Client}
    (hbefore : start.run before = some m) (hc : m.world.clients[client]? = some c)
    (hopen : c.closed = false) (hloses : m.Loses client move after)
    (hlater : after.run later = some last) (hnormal : ¬ last.world.Panics client)
    (hlets : after.Lets client later) :
    m.Undisturbed after client move ∧ after.world.pending client = 1 ∧ last.Underway client ∧
      (last.Settled → client ∉ last.world.stranded → last.TornDown client ∨
        last.Blocked client) := by
  have hm : m.Reachable := ⟨before, hbefore⟩
  have hafter : ¬ after.world.Panics client := fun hpanics =>
    hnormal (hpanics.lasts (run_lasts hlater))
  obtain ⟨active, hfit⟩ := hm.fits.exists_callsFit
  have hnot : ¬ m.world.Handed client := fun hhanded => by
    rw [(World.handed_iff hfit hc).1 hhanded] at hopen
    cases hopen
  have hattends := (attends_start client).run hbefore
  obtain ⟨-, -, c', hc', -, hpending⟩ := hloses.leaked hattends hafter hnot
  have hunderway : after.Underway client := .pending (by omega)
  have hlast := hunderway.run (hm.next hloses.next) ⟨c', hc'⟩ hlater hnormal hlets
  have hreach := (hm.next hloses.next).run hlater
  exact ⟨undisturbed hloses.next ⟨c, hc⟩ hafter, hpending, hlast, fun hsettled hhelped =>
    hlast.settles hreach hsettled hhelped⟩

/-- A client is made and connected. -/
def connecting : List Move :=
  [.build (.recorded default) default, .act (.getChannel 0 "first")] ++ Move.pollAll 0 10 0

/-- A task closes the dropped client in the background: it waits for the teardown that it hands
over, which runs in a task of its own. -/
def closing : List Move :=
  Move.pollAll 1 3 0 ++ Move.pollAll 2 23 0 ++ Move.pollAll 1 4 0

/-- The moment at which the connected client is dropped. -/
def connected : Moment := (start.run connecting).get (by decide +kernel)

/-- The moment after that. -/
def unheld : Moment := (connected.next (.act (.drop 0))).get (by decide +kernel)

/-- The moment at which the close has ended. -/
def tidied : Moment := (unheld.run closing).get (by decide +kernel)

theorem closed_of_dropped_of_connected :
    start.run connecting = some connected ∧ connected.Loses 0 (.act (.drop 0)) unheld ∧
      unheld.run closing = some tidied ∧ ¬ tidied.world.Panics 0 ∧ unheld.Lets 0 closing ∧
      ((Session.ofWorld connected.world).act (.drop 0)).1 = .nothing ∧ tidied.Settled ∧
      tidied.TornDown 0 := by
  have hbefore : start.run connecting = some connected := (Option.some_get _).symm
  have hloses : connected.Loses 0 (.act (.drop 0)) unheld := ⟨(Option.some_get _).symm, rfl, rfl⟩
  have hlater : unheld.run closing = some tidied := (Option.some_get _).symm
  have hnormal : ¬ tidied.world.Panics 0 := by
    rintro ⟨message, hpanics⟩
    have hreporter : tidied.world.leakReporter 0 = default := rfl
    cases hreporter.symm.trans hpanics
  have hlets : unheld.Lets 0 closing := by
    refine lets_of_forall_ne ?_
    rintro _ hmove task rfl
    simp [closing, Move.pollAll] at hmove
  have htasks : tidied.world.tasks = [] := rfl
  have hsettled : tidied.Settled := ⟨rfl, by simp [htasks]⟩
  obtain ⟨hundisturbed, -, -, hsettles⟩ := closed_of_dropped hbefore
    (c := (connected.world.clients[0]?).get (by decide +kernel)) (Option.some_get _).symm rfl hloses
    hlater hnormal hlets
  refine ⟨hbefore, hloses, hlater, hnormal, hlets, hundisturbed.user rfl, hsettled, ?_⟩
  refine (hsettles hsettled (by decide +kernel)).resolve_right ?_
  rintro ⟨t, ht, -⟩
  rw [htasks] at ht
  cases ht

end Moment

end Remoting
