import Remoting.Proofs.Closed
import Remoting.Proofs.Orphans
import Remoting.Proofs.Outcome

/-!
# Clients that are dropped while open

A client whose last handle is lost before a close has taken its lock is reported, once and with the
place where it was made, and closed in the background, once, whoever polls that close. A client
whose last handle is lost afterwards is neither. `Custody` is the invariant, `leaks_exact` the
result.
-/

namespace Remoting

namespace World

variable {w u : World} {client : ClientId} {begun : Nat}

/-- A close has taken the lock of a client and handed over its teardown. -/
def Handed (w : World) (client : ClientId) : Prop :=
  ∃ task t, .teardown task t ∈ w.history client

/-- Who looks after a client. Some closes of it in the background have begun. -/
inductive Custody (w : World) (client : ClientId) (begun : Nat) : Prop
  | unborn (missing : w.clients[client]? = none) (handle : w.hasHandle client = false)
      (reports : w.reports client = []) (pending : w.pending client + begun = 0)
  /-- The holders of its handles do. -/
  | held (found : ∃ c, w.clients[client]? = some c) (handle : w.hasHandle client = true)
      (reports : w.reports client = []) (pending : w.pending client + begun = 0)
  /-- Nobody does any more; its close had begun when its last handle was lost. -/
  | settled (found : ∃ c, w.clients[client]? = some c) (handle : w.hasHandle client = false)
      (handed : w.Handed client) (reports : w.reports client = [])
      (pending : w.pending client + begun = 0)
  /-- One close in the background does; the client was open when its last handle was lost. -/
  | leaked {c : Client} (found : w.clients[client]? = some c) (handle : w.hasHandle client = false)
      (reports : w.reports client = [⟨client + 1, c.trace⟩])
      (pending : ¬ w.Panics client → w.pending client + begun = 1)

theorem handed_iff {active : Option TaskId} (h : w.CallsFit active) {c : Client}
    (hc : w.clients[client]? = some c) : w.Handed client ↔ c.closed = true := by
  have hclosed : w.closed? client = some c.closed := by rw [closed?, hc, Option.map_some]
  constructor
  · rintro ⟨task, t, hhanded⟩
    obtain ⟨outcome, hclosing⟩ := (h.clients client).closing hhanded
    have hclient := h.clients client
    rw [ClientOk, hclosing.state] at hclient
    exact Option.some.inj (hclosed.symm.trans hclient.1)
  · intro htrue
    obtain ⟨outcome, -, task, t, hclosing⟩ :=
      (h.clients client).of_closed (hclosed.trans (congrArg some htrue))
    exact ⟨task, t, hclosing.handed⟩

theorem Handed.found {active : Option TaskId} (h : w.Handed client) (hfit : w.CallsFit active) :
    ∃ c, w.clients[client]? = some c := by
  obtain ⟨task, t, hhanded⟩ := h
  obtain ⟨outcome, hclosing⟩ := (hfit.clients client).closing hhanded
  obtain ⟨c, hc, -⟩ := state?_eq_some.1 hclosing.state
  exact ⟨c, hc⟩

theorem Handed.grow (h : w.Handed client) (hgrows : Grows w u) : u.Handed client := by
  obtain ⟨task, t, hhanded⟩ := h
  exact ⟨task, t, mem_history.2 (hgrows.mem (mem_history.1 hhanded))⟩

/-- A reporter stays as it is. -/
theorem Panics.lasts (h : w.Panics client) (hlasts : Lasts w u) : u.Panics client := by
  obtain ⟨message, hreporter⟩ := h
  refine ⟨message, ?_⟩
  unfold leakReporter at hreporter ⊢
  split at hreporter
  next cell hcell =>
    obtain ⟨cell', hcell', hconfig, -⟩ := hlasts.config hcell
    simp only [hcell', hconfig, hreporter]
  next => cases hreporter

/-- A client stays. -/
theorem Lasts.found (h : Lasts w u) (hfound : ∃ c, w.clients[client]? = some c) :
    ∃ c, u.clients[client]? = some c := by
  obtain ⟨c, hc⟩ := hfound
  have hassociation : w.association? client = some c.association := by
    rw [association?, hc, Option.map_some]
  obtain ⟨c', hc', -⟩ := Option.map_eq_some_iff.1 (h.association hassociation)
  exact ⟨c', hc'⟩

/-- What a change does to the custody of a client that is already there or comes into being. -/
theorem Custody.alter {active : Option TaskId} {begins : Nat} (h : w.Custody client begun)
    (halters : Alters client begins w u) (hlasts : Lasts w u) (hgrows : Grows w u)
    (hfit : u.CallsFit active) : u.Custody client (begun + begins) := by
  cases halters with
  | carries hcarries =>
      have hpending := hcarries.pending
      cases h with
      | unborn missing handle reports pending =>
          have hnone : u.trace? client = none := by
            rw [hcarries.trace, trace?, missing, Option.map_none]
          exact .unborn (Option.map_eq_none_iff.1 hnone) (hcarries.handle.trans handle)
            (hcarries.reports.trans reports) (by omega)
      | held found handle reports pending =>
          exact .held (hlasts.found found) (hcarries.handle.trans handle)
            (hcarries.reports.trans reports) (by omega)
      | settled found handle handed reports pending =>
          exact .settled (hlasts.found found) (hcarries.handle.trans handle) (handed.grow hgrows)
            (hcarries.reports.trans reports) (by omega)
      | @leaked c found handle reports pending =>
          obtain ⟨c', hc'⟩ := hlasts.found ⟨c, found⟩
          have htrace : c'.trace = c.trace := by
            have htrace := hcarries.trace
            rwa [trace?, trace?, found, hc', Option.map_some, Option.map_some,
              Option.some.injEq] at htrace
          refine .leaked hc' (hcarries.handle.trans handle)
            (by rw [hcarries.reports, reports, htrace]) fun hnot => ?_
          have hbefore := pending fun hpanics => hnot (hpanics.lasts hlasts)
          omega
  | born missing found handle reports' pending' =>
      cases h with
      | unborn missing' handle' reports pending =>
          exact .held found handle (reports'.trans reports) (by omega)
      | held found' | settled found' =>
          obtain ⟨c, hc⟩ := found'
          cases missing.symm.trans hc
      | leaked hc => cases missing.symm.trans hc
  | settled held gone closed reports' pending' =>
      cases h with
      | held found handle reports pending =>
          obtain ⟨c', hc'⟩ := hlasts.found found
          exact .settled ⟨c', hc'⟩ gone ((handed_iff hfit hc').2 (closed c' hc'))
            (reports'.trans reports) (by omega)
      | unborn _ handle | settled _ handle | leaked _ handle => cases held.symm.trans handle
  | leaked found opened held gone reports' pending' =>
      cases h with
      | held _ _ reports pending =>
          refine .leaked found gone (reports' reports) fun hnot => ?_
          have hafter := pending' hnot
          omega
      | unborn _ handle | settled _ handle | leaked _ handle => cases held.symm.trans handle

/-- Nothing is reported, and no close in the background has begun or is to begin, as long as there
are handles. -/
theorem Custody.of_held (h : w.Custody client begun) (held : w.hasHandle client = true) :
    (∃ c, w.clients[client]? = some c) ∧ w.reports client = [] ∧ w.pending client + begun = 0 := by
  cases h with
  | held found _ reports pending => exact ⟨found, reports, pending⟩
  | unborn _ handle | settled _ handle | leaked _ handle => cases held.symm.trans handle

/-- A close in the background has begun only if the client leaked. -/
theorem Custody.of_pos (h : w.Custody client begun) (hpos : 0 < begun ∨ 0 < w.pending client) :
    ∃ c, w.clients[client]? = some c ∧ w.hasHandle client = false ∧
      w.reports client = [⟨client + 1, c.trace⟩] ∧
      (¬ w.Panics client → w.pending client + begun = 1) := by
  cases h with
  | leaked found handle reports pending => exact ⟨_, found, handle, reports, pending⟩
  | unborn _ _ _ pending | held _ _ _ pending | settled _ _ _ _ pending => omega

end World

namespace Moment

variable {m after last : Moment} {move : Move} {moves : List Move} {client : ClientId} {n : Nat}
  {t : Task}

/-- How many closes of a client in the background begin in a run. -/
def begun (m : Moment) (client : ClientId) : List Move → Nat
  | [] => 0
  | move :: moves => m.begins client move + (m.next move).elim 0 fun m => m.begun client moves

/-- A close takes the lock of a client in the course of a run from the empty world. -/
def Taken (moves : List Move) (client : ClientId) : Prop :=
  ∃ before later m t td, moves = before ++ .step :: later ∧ start.run before = some m ∧
    m.polled? = some t ∧ m.world.Takes t td ∧ td.client = client

/-! ## Custody -/

/-- What is known of a client at every moment. -/
structure Attends (m : Moment) (client : ClientId) (n : Nat) : Prop where
  fits : m.CallsFit
  custody : m.world.Custody client n

theorem Attends.next (h : m.Attends client n) (hnext : m.next move = some after) :
    after.Attends client (n + m.begins client move) := by
  have hfollows := h.fits.next hnext
  obtain ⟨active, hfit⟩ := hfollows.fits.exists_callsFit
  exact ⟨hfollows.fits, h.custody.alter (next_alters h.fits hnext client) (next_lasts hnext)
    hfollows.grows hfit⟩

theorem Attends.run (h : m.Attends client n) (hrun : m.run moves = some last) :
    last.Attends client (n + m.begun client moves) := by
  induction moves generalizing m n with
  | nil =>
      cases hrun
      exact h
  | cons move moves ih =>
      obtain ⟨after, hnext, hrest⟩ := Option.bind_eq_some_iff.1 hrun
      have hlast := ih (h.next hnext) hrest
      simpa only [Moment.begun, hnext, Option.elim_some, Nat.add_assoc] using hlast

theorem attends_start (client : ClientId) : start.Attends client 0 where
  fits := start_callsFit
  custody := .unborn rfl rfl rfl rfl

/-! ## The lock -/

/-- The next step of a close that has the lock. -/
theorem next_locked (ht : m.polled? = some t) {interrupt : Option TokenName} {frames : List Frame}
    (hframes : t.frames = .closeLock client interrupt :: frames) {reply : Reply}
    (hcontrol : t.control = .reply reply) :
    m.next .step = some ⟨m.world.lockedClose t.id client interrupt frames, m.polling⟩ := by
  refine next_of_polled ht ?_
  simp only [World.step?, polled?_task? ht, hcontrol, hframes]
  rfl

/-- A close that has the lock of an open client hands over the teardown in its next step. -/
theorem takes_next (ht : m.polled? = some t) {td : Teardown} (htakes : m.world.Takes t td) :
    ∃ after joined, m.next .step = some after ∧
      .teardown joined td ∈ after.world.history td.client := by
  obtain ⟨client, endpoint, strategy, interrupt⟩ := td
  obtain ⟨hstate, ⟨reply, hcontrol⟩, frames, hframes⟩ := htakes
  refine ⟨_, (m.world.handOver client ⟨client, endpoint, strategy, interrupt⟩).1,
    next_locked ht hframes hcontrol, World.mem_history.2 ?_⟩
  show (client, _) ∈ (m.world.lockedClose t.id client interrupt frames).contacts
  have hmem : ∀ td, (client, .teardown (m.world.handOver client td).1 td) ∈
      (m.world.handOver client td).2.contacts := fun td =>
    List.mem_append_right _ (List.mem_singleton_self _)
  have hfound : (m.world.clients[client]?.map fun c => c.state) =
      some (.opened endpoint strategy) :=
    hstate
  simp only [World.lockedClose, hfound]
  split
  · exact hmem _
  · show _ ∈ (World.leaveLock _ _ _).contacts
    rw [(World.relocks_leaveLock _ _ _).contacts]
    exact hmem _

/-- Only the step of a close that has the lock hands over a teardown. -/
theorem takes_of_handed (h : m.CallsFit) (hnext : m.next move = some after)
    (hnot : ¬ m.world.Handed client) (hhanded : after.world.Handed client) :
    move = .step ∧ ∃ t td, m.polled? = some t ∧ m.world.Takes t td ∧ td.client = client := by
  obtain ⟨joined, td, hmem⟩ := hhanded
  rcases (h.next hnext).adds.entry (World.mem_history.1 hmem) with hbefore | hmakes
  · exact absurd ⟨joined, td, World.mem_history.2 hbefore⟩ hnot
  rcases hmakes with hrelease | ⟨t, ht, hmakes⟩
  · cases hrelease
  rcases hmakes with ⟨hconnecting, -⟩ | hrelease | ⟨td', stage, -, -, hmade⟩ |
    ⟨joined', td', hclient, hcall, htakes⟩
  · cases hconnecting
  · cases hrelease
  · have hclosing := Teardown.isClosing_of_call? hmade
    cases hclosing
  · refine ⟨?_, t, td', ht, htakes, hclient⟩
    obtain ⟨-, ⟨reply, hcontrol⟩, -⟩ := htakes
    exact next_eq_step hnext ht fun wait heq => by cases hcontrol.symm.trans heq

/-- The teardown of a client has been handed over once a close has taken the lock, and not
before. -/
theorem taken_iff (hrun : start.run moves = some last) :
    Taken moves client ↔ last.world.Handed client := by
  constructor
  · rintro ⟨before, later, m, t, td, rfl, hbefore, ht, htakes, rfl⟩
    obtain ⟨after, joined, hnext, hmem⟩ := takes_next ht htakes
    rw [run_append, hbefore] at hrun
    obtain ⟨after', hnext', hlater⟩ := Option.bind_eq_some_iff.1
      (show m.next .step >>= (fun m => m.run later) = some last from hrun)
    obtain rfl := Option.some.inj (hnext.symm.trans hnext')
    have hreach : m.Reachable := ⟨before, hbefore⟩
    exact World.Handed.grow ⟨joined, td, hmem⟩ ((hreach.next hnext).grows hlater)
  · intro hhanded
    have hstart : ¬ start.world.Handed client := by
      rintro ⟨task, t, hmem⟩
      cases hmem
    obtain ⟨before, move, later, m, after, rfl, hbefore, hnext, -, hnot, hafter⟩ :=
      exists_change (P := fun m => m.world.Handed client) hrun hstart hhanded
    have hreach : m.Reachable := ⟨before, hbefore⟩
    obtain ⟨rfl, t, td, ht, htakes, hclient⟩ := takes_of_handed hreach.fits hnext hnot hafter
    exact ⟨before, later, m, t, td, rfl, hbefore, ht, htakes, hclient⟩

/-! ## The close in the background -/

/-- What is known where nobody closes a client without a handle of it: a close in the background
that waits for the lock has begun, and there is none any more once the teardown is handed over. -/
structure Awaited (m : Moment) (client : ClientId) (n : Nat) : Prop where
  stray : m.world.tasks.countP (Task.isStray client) = 0
  locking : m.world.tasks.countP (Task.isLocking client) ≤ n
  handed : ¬ m.world.Panics client → m.world.Handed client → m.world.hasHandle client = false →
    m.world.pending client + m.world.tasks.countP (Task.isLocking client) = 0

/-- A close without a handle that has the lock is in the background and has begun. -/
theorem Awaited.aims (h : m.Awaited client n) (ht : m.polled? = some t) {td : Teardown}
    (htakes : m.world.Takes t td) (hclient : td.client = client)
    (hhandle : m.world.hasHandle client = false) : t.aims client = true := by
  obtain ⟨-, -, frames, hframes⟩ := htakes
  have hmem := (World.task?_mem (polled?_task? ht)).1
  have hmay : t.mayClose client = true := by simp [Task.mayClose, hframes, hclient]
  have hother : t.handle ≠ some client := fun heq =>
    Bool.false_ne_true (hhandle.symm.trans (World.hasHandle_of_mem hmem heq))
  have hnot := Bool.eq_false_iff.2 (List.countP_eq_zero.1 h.stray t hmem)
  simpa [Task.isStray, hmay, hother] using (Bool.or_eq_false_iff.1 hnot).2

theorem mayClose_of_isLocking (h : t.isLocking client = true) : t.mayClose client = true := by
  obtain ⟨interrupt, closed, hframes⟩ := Task.isLocking_iff.1 h
  simp [Task.mayClose, hframes]

/-- It waits for the lock until it has taken it. -/
theorem isLocking_of_aims (haims : t.aims client = true)
    (hcontrol : ∃ reply, t.control = .reply reply) :
    t.isLocking client = true := by
  obtain ⟨reply, hcontrol⟩ := hcontrol
  rcases Task.aims_iff.1 haims with ⟨hcall, -⟩ | ⟨closed, hframes⟩
  · rw [hcontrol] at hcall
    cases hcall
  · exact Task.isLocking_iff.2 ⟨none, closed, hframes⟩

/-- With the step in which it takes the lock no such close is left. -/
theorem Awaited.takes (h : m.Awaited client n) (hattends : m.Attends client n)
    (hnext : m.next .step = some after) (ht : m.polled? = some t) {td : Teardown}
    (htakes : m.world.Takes t td) (hclient : td.client = client)
    (hnormal : ¬ m.world.Panics client) (hhandle : after.world.hasHandle client = false) :
    after.world.pending client + after.world.tasks.countP (Task.isLocking client) = 0 := by
  obtain ⟨active, hafter⟩ := (hattends.fits.next hnext).fits.exists_callsFit
  have hnodup := hafter.nodup
  cases next_does hattends.fits hnext with
  | comes hmove | leaves hmove => exact absurd rfl hmove
  | builds _ _ hmove | helps hmove | aborts _ hmove => cases hmove
  | ends _ hpolling hfind hframes =>
      obtain ⟨-, -, frames, hcons⟩ := htakes
      rw [polled?, hpolling] at ht
      obtain rfl := Option.some.inj (hfind.symm.trans ht)
      cases hframes.symm.trans hcons
  | goes _ hpolling hfind hstep hgoes =>
      have hsame := ht
      rw [polled?, hpolling] at hsame
      obtain rfl := Option.some.inj (hfind.symm.trans hsame)
      obtain ⟨hmem, hid⟩ := World.task?_mem hfind
      have hcarries := hgoes.carries hfind hnodup client
      have haims := h.aims ht htakes hclient (hcarries.handle.symm.trans hhandle)
      have hlocking := isLocking_of_aims haims htakes.2.1
      -- the acting task is itself one of those that ask for the lock, so it is the only one
      have hpos : 0 < m.world.tasks.countP (Task.isLocking client) :=
        List.countP_pos_iff.2 ⟨_, hmem, hlocking⟩
      have hle := h.locking
      obtain ⟨c, -, -, -, hone⟩ := hattends.custody.of_pos (.inl (by omega))
      have hone := hone hnormal
      have hpending := hcarries.pending
      obtain ⟨v, control, inner, hgoto, hpasses, hfits⟩ := hgoes
      have hat := hattends.fits.polled ht
      rw [hid] at hat
      have hdone := (World.aims_step hat hfind haims hstep
        (by rw [hgoto, World.task?_goto, hpasses.task? hfind, Option.map_some])).resolve_left
          fun hkept => htakes.2.1.elim fun reply hreply => hkept.2 reply hreply
      have hstray := Bool.eq_false_iff.2 (List.countP_eq_zero.1 h.stray _ hmem)
      rw [hgoto] at hnodup
      have hcount := hpasses.countP_goto (World.ignores_isLocking client)
        (Bool.or_eq_false_iff.1 hstray).1 hfind hnodup
      rw [Bool.eq_false_iff.2 fun hlock => Bool.false_ne_true
        (hdone.symm.trans (mayClose_of_isLocking hlock)), hlocking, ← hgoto] at hcount
      simp only [Bool.toNat_true, Bool.toNat_false] at hcount
      omega

theorem Awaited.next (h : m.Awaited client n) (hattends : m.Attends client n)
    (hnext : m.next move = some after) (hmay : move.mayClose client = false) :
    after.Awaited client (n + m.begins client move) where
  stray := next_isStray hattends.fits hnext hmay h.stray
  locking := (next_isLocking hattends.fits hnext hmay h.stray).trans
    (Nat.add_le_add_right h.locking _)
  handed hnot hhanded hhandle := by
    have hnormal : ¬ m.world.Panics client := fun hpanics => hnot (hpanics.lasts (next_lasts hnext))
    have hlocking := next_isLocking hattends.fits hnext hmay h.stray
    by_cases hbefore : m.world.Handed client
    · have hle := h.locking
      cases next_alters hattends.fits hnext client with
      | carries hcarries =>
          have hpending := hcarries.pending
          have hnone := h.handed hnormal hbefore (hcarries.handle.symm.trans hhandle)
          omega
      | born _ _ handle => cases hhandle.symm.trans handle
      | settled held _ _ _ pending =>
          have hcustody := (hattends.custody.of_held held).2.2
          omega
      | leaked found opened =>
          obtain ⟨active, hafter⟩ := (hattends.fits.next hnext).fits.exists_callsFit
          cases opened.symm.trans ((World.handed_iff hafter found).1 hhanded)
    · obtain ⟨rfl, t, td, ht, htakes, hclient⟩ :=
        takes_of_handed hattends.fits hnext hbefore hhanded
      exact h.takes hattends hnext ht htakes hclient hnormal hhandle

theorem awaited_start (client : ClientId) : start.Awaited client 0 where
  stray := rfl
  locking := Nat.le_refl 0
  handed _ hhanded _ := by
    obtain ⟨joined, td, hmem⟩ := hhanded
    cases hmem

theorem Awaited.run (h : m.Awaited client n) (hattends : m.Attends client n)
    (hrun : m.run moves = some last) (hmay : ∀ move ∈ moves, move.mayClose client = false) :
    last.Awaited client (n + m.begun client moves) := by
  induction moves generalizing m n with
  | nil =>
      cases hrun
      exact h
  | cons move moves ih =>
      obtain ⟨after, hnext, hrest⟩ := Option.bind_eq_some_iff.1 hrun
      obtain ⟨hmove, hmoves⟩ := List.forall_mem_cons.1 hmay
      have hlast := ih (h.next hattends hnext hmove) (hattends.next hnext) hrest hmoves
      simpa only [Moment.begun, hnext, Option.elim_some, Nat.add_assoc] using hlast

/-- A close in the background that gets the lock finds the client open. -/
theorem Awaited.not_handed (h : m.Awaited client n) (hattends : m.Attends client n)
    (hnormal : ¬ m.world.Panics client) (ht : m.polled? = some t)
    (hlocking : t.isLocking client = true) : ¬ m.world.Handed client := by
  intro hhanded
  have hpos : 0 < m.world.tasks.countP (Task.isLocking client) :=
    List.countP_pos_iff.2 ⟨t, (World.task?_mem (polled?_task? ht)).1, hlocking⟩
  have hle := h.locking
  obtain ⟨c, -, hhandle, -, -⟩ := hattends.custody.of_pos (.inl (by omega))
  have hnone := h.handed hnormal hhanded hhandle
  omega

/-- A close in the background that has the lock sees to it that there is a teardown. -/
theorem exists_teardown_of_locked (h : m.CallsFit) (ht : m.polled? = some t)
    {interrupt : Option TokenName} {frames : List Frame}
    (hframes : t.frames = .closeLock client interrupt :: frames) {reply : Reply}
    (hcontrol : t.control = .reply reply) {c : Client} (hc : m.world.clients[client]? = some c) :
    ∃ after joined td, m.next .step = some after ∧
      .teardown joined td ∈ after.world.history client ∧
      (¬ m.world.Handed client → m.world.Takes t td) := by
  obtain ⟨active, hfit⟩ := h.exists_callsFit
  cases hstate : c.state with
  | opened endpoint strategy =>
      have htakes : m.world.Takes t ⟨client, endpoint, strategy, interrupt⟩ :=
        ⟨World.state?_eq_some.2 ⟨c, hc, hstate⟩, ⟨reply, hcontrol⟩, frames, hframes⟩
      obtain ⟨after, joined, hnext, hmem⟩ := takes_next ht htakes
      exact ⟨after, joined, _, hnext, hmem, fun _ => htakes⟩
  | closed outcome =>
      obtain ⟨joined, td, hclosing⟩ : ∃ joined td, m.world.Closing client outcome joined td := by
        have hclient := hfit.clients client
        rw [World.ClientOk, World.state?_eq_some.2 ⟨c, hc, hstate⟩] at hclient
        exact hclient.2
      have hnext := next_locked ht hframes hcontrol
      obtain ⟨joined', td', hmem⟩ :=
        World.Handed.grow ⟨joined, td, hclosing.handed⟩ (h.next hnext).grows
      exact ⟨_, joined', td', hnext, hmem, fun hnot => absurd ⟨joined, td, hclosing.handed⟩ hnot⟩

/-! ## The last handle -/

/-- With a move the last handle of a client is lost. -/
structure Loses (m : Moment) (client : ClientId) (move : Move) (after : Moment) : Prop where
  next : m.next move = some after
  held : m.world.hasHandle client = true
  gone : after.world.hasHandle client = false

theorem begins_le_pending (m : Moment) (client : ClientId) (move : Move) :
    m.begins client move ≤ m.world.pending client := by
  unfold begins stepsOf
  split
  next =>
    cases ht : m.polled? with
    | none => simp
    | some t =>
        cases hpending : t.isPending client with
        | false => simp [hpending]
        | true =>
            have hpos : 0 < m.world.tasks.countP (Task.isPending client) :=
              List.countP_pos_iff.2 ⟨t, (World.task?_mem (polled?_task? ht)).1, hpending⟩
            simp only [Option.any_some, hpending, Bool.toNat_true, World.pending]
            omega
  next => exact Nat.zero_le _

/-- The last handle is not lost in the step in which a close takes the lock. -/
theorem Loses.not_handed (h : m.Loses client move after) (hfit : m.CallsFit)
    (hnot : ¬ m.world.Handed client) : ¬ after.world.Handed client := by
  intro hhanded
  obtain ⟨rfl, t, td, ht, htakes, -⟩ := takes_of_handed hfit h.next hnot hhanded
  obtain ⟨active, hafter⟩ := (hfit.next h.next).fits.exists_callsFit
  cases next_does hfit h.next with
  | comes hmove | leaves hmove => exact absurd rfl hmove
  | builds _ _ hmove | helps hmove | aborts _ hmove => cases hmove
  | ends _ hpolling hfind hframes =>
      obtain ⟨-, -, frames, hcons⟩ := htakes
      rw [polled?, hpolling] at ht
      obtain rfl := Option.some.inj (hfind.symm.trans ht)
      cases hframes.symm.trans hcons
  | goes _ hpolling hfind hstep hgoes =>
      have hhandle := (hgoes.carries hfind hafter.nodup client).handle
      cases (h.held.symm.trans hhandle.symm).trans h.gone

/-- The last handle of an open client is lost. -/
theorem Loses.leaked (h : m.Loses client move after) (hattends : m.Attends client n)
    (hnormal : ¬ after.world.Panics client) (hnot : ¬ m.world.Handed client) :
    m.world.reports client = [] ∧ m.world.pending client + n = 0 ∧
      ∃ c, after.world.clients[client]? = some c ∧
        after.world.reports client = [⟨client + 1, c.trace⟩] ∧ after.world.pending client = 1 := by
  obtain ⟨hfound, hreports, hzero⟩ := hattends.custody.of_held h.held
  have hbegins := begins_le_pending m client move
  refine ⟨hreports, hzero, ?_⟩
  cases next_alters hattends.fits h.next client with
  | carries hcarries => cases (h.held.symm.trans hcarries.handle.symm).trans h.gone
  | born _ _ handle => cases handle.symm.trans h.gone
  | settled _ _ closed =>
      obtain ⟨active, hafter⟩ := (hattends.fits.next h.next).fits.exists_callsFit
      obtain ⟨c', hc'⟩ := (next_lasts h.next).found hfound
      exact absurd ((World.handed_iff hafter hc').2 (closed c' hc'))
        (h.not_handed hattends.fits hnot)
  | leaked found _ _ _ reports pending =>
      refine ⟨_, found, reports hreports, ?_⟩
      have hpending := pending hnormal
      omega

/-- The last handle of a client is lost after a close has taken the lock. -/
theorem Loses.settled (h : m.Loses client move after) (hattends : m.Attends client n)
    (hhanded : m.world.Handed client) : after.world.reports client = [] := by
  obtain ⟨-, hreports, -⟩ := hattends.custody.of_held h.held
  cases next_alters hattends.fits h.next client with
  | carries hcarries => cases (h.held.symm.trans hcarries.handle.symm).trans h.gone
  | born _ _ handle => cases handle.symm.trans h.gone
  | settled _ _ _ hsame => exact hsame.trans hreports
  | leaked found opened =>
      obtain ⟨active, hafter⟩ := (hattends.fits.next h.next).fits.exists_callsFit
      cases opened.symm.trans ((World.handed_iff hafter found).1
        (hhanded.grow (hattends.fits.next h.next).grows))

/-- A client whose last handle was lost gets no other, and nothing is reported about it. -/
theorem run_gone (h : m.CallsFit) (hrun : m.run moves = some last)
    (hfound : ∃ c, m.world.clients[client]? = some c) (hgone : m.world.hasHandle client = false) :
    last.world.hasHandle client = false ∧
      last.world.reports client = m.world.reports client := by
  have hlast := run_induction (P := fun n => n.CallsFit ∧
    (∃ c, n.world.clients[client]? = some c) ∧ n.world.hasHandle client = false ∧
      n.world.reports client = m.world.reports client) ?_ ⟨h, hfound, hgone, rfl⟩ hrun
  · exact hlast.2.2
  rintro n after move ⟨h, hfound, hgone, hreports⟩ hnext
  cases next_alters h hnext client with
  | carries hcarries =>
      exact ⟨(h.next hnext).fits, (next_lasts hnext).found hfound, hcarries.handle.trans hgone,
        hcarries.reports.trans hreports⟩
  | born missing =>
      obtain ⟨c, hc⟩ := hfound
      cases missing.symm.trans hc
  | settled held | leaked _ _ held => cases held.symm.trans hgone

/-- What a run does for a client whose last handle is lost with one of its moves. -/
structure Leaks (moves before : List Move) (m after last : Moment) (client : ClientId) : Prop where
  /-- The client is reported with that move, and neither before nor behind it. -/
  unreported : m.world.reports client = []
  reported : ∃ c, after.world.clients[client]? = some c ∧
    after.world.reports client = [⟨client + 1, c.trace⟩] ∧
    last.world.reports client = [⟨client + 1, c.trace⟩]
  /-- One close in the background comes about with it. -/
  unclosed : m.world.pending client + start.begun client before = 0
  closing : after.world.pending client = 1
  /-- It has begun once, or is still to begin. -/
  once : last.world.pending client + start.begun client moves = 1

theorem Loses.leaks {before later : List Move} (h : m.Loses client move after)
    (hbefore : start.run before = some m) (hlater : after.run later = some last)
    (hnormal : ¬ last.world.Panics client) (hopen : ¬ Taken before client) :
    Leaks (before ++ move :: later) before m after last client := by
  have hnot : ¬ m.world.Handed client := fun hhanded => hopen ((taken_iff hbefore).2 hhanded)
  have hattends := (attends_start client).run hbefore
  rw [Nat.zero_add] at hattends
  have hafter : ¬ after.world.Panics client := fun hpanics =>
    hnormal (hpanics.lasts (run_lasts hlater))
  obtain ⟨hreports, hzero, c, hc, hreported, hpending⟩ := h.leaked hattends hafter hnot
  obtain ⟨-, hlast⟩ := run_gone (hattends.fits.next h.next).fits hlater ⟨c, hc⟩ h.gone
  refine ⟨hreports, ⟨c, hc, hreported, hlast.trans hreported⟩, hzero, hpending, ?_⟩
  have hrun : start.run (before ++ move :: later) = some last :=
    run_trans hbefore (Option.bind_eq_some_iff.2 ⟨after, h.next, hlater⟩)
  have hcustody := ((attends_start client).run hrun).custody
  rw [Nat.zero_add] at hcustody
  have hne : last.world.reports client ≠ [] := by
    rw [hlast, hreported]
    exact List.cons_ne_nil _ _
  cases hcustody with
  | leaked _ _ _ pending => exact pending hnormal
  | unborn _ _ reports | held _ _ reports | settled _ _ _ reports => exact absurd reports hne

theorem Loses.no_leak {before later : List Move} (h : m.Loses client move after)
    (hbefore : start.run before = some m) (hlater : after.run later = some last)
    (htaken : Taken before client) :
    last.world.reports client = [] ∧
      last.world.pending client + start.begun client (before ++ move :: later) = 0 := by
  have hattends := (attends_start client).run hbefore
  have hfound := (next_lasts h.next).found (hattends.custody.of_held h.held).1
  obtain ⟨-, hlast⟩ := run_gone (hattends.fits.next h.next).fits hlater hfound h.gone
  have hnone : last.world.reports client = [] :=
    hlast.trans (h.settled hattends ((taken_iff hbefore).1 htaken))
  refine ⟨hnone, ?_⟩
  have hrun : start.run (before ++ move :: later) = some last :=
    run_trans hbefore (Option.bind_eq_some_iff.2 ⟨after, h.next, hlater⟩)
  have hcustody := ((attends_start client).run hrun).custody
  rw [Nat.zero_add] at hcustody
  cases hcustody with
  | leaked _ _ reports => cases reports.symm.trans hnone
  | unborn _ _ _ pending | held _ _ _ pending | settled _ _ _ _ pending => exact pending

/-- If the reporter of a client returns, the client is reported when its last handle is lost before
a close has taken the lock, and then one close in the background comes about; otherwise neither
happens. Once this close is granted the lock, its next step sees to it that the teardown is handed
over, which happens once. Where nobody closes the client without a handle of it, this close is the
one that hands it over. -/
theorem leaks_exact (hrun : start.run moves = some last) (hnormal : ¬ last.world.Panics client) :
    ((last.world.reports client).length ≤ 1 ∧
      last.world.pending client + start.begun client moves ≤ 1) ∧
    (∀ {before move later m after}, moves = before ++ move :: later →
      start.run before = some m → m.Loses client move after →
        (¬ Taken before client → Leaks moves before m after last client) ∧
        (Taken before client → last.world.reports client = [] ∧
          last.world.pending client + start.begun client moves = 0)) ∧
    ∀ {t interrupt reply c}, last.polled? = some t → t.control = .reply reply →
      t.frames = [.closeLock client interrupt, .background client] →
      last.world.clients[client]? = some c → ∃ after joined td,
        last.next .step = some after ∧ .teardown joined td ∈ after.world.history client ∧
        (∀ joined' td', .teardown joined' td' ∈ after.world.history client →
          joined' = joined ∧ td' = td) ∧
        ((∀ move ∈ moves, move.mayClose client = false) → last.world.Takes t td) := by
  have hattends := (attends_start client).run hrun
  refine ⟨⟨?_, ?_⟩, ?_, ?_⟩
  · cases hattends.custody with
    | leaked _ _ reports => simp [reports]
    | unborn _ _ reports | held _ _ reports | settled _ _ _ reports => simp [reports]
  · cases hattends.custody with
    | leaked _ _ _ pending =>
        have hone := pending hnormal
        omega
    | unborn _ _ _ pending | held _ _ _ pending | settled _ _ _ _ pending => omega
  · rintro before move later m after rfl hbefore hloses
    -- a run from the beginning has only one moment after each of its moves
    have hlater : after.run later = some last := by
      rw [run_append, hbefore] at hrun
      obtain ⟨after', hnext, hlater⟩ := Option.bind_eq_some_iff.1
        (show m.next move >>= (fun m => m.run later) = some last from hrun)
      obtain rfl := Option.some.inj (hloses.next.symm.trans hnext)
      exact hlater
    exact ⟨hloses.leaks hbefore hlater hnormal, hloses.no_leak hbefore hlater⟩
  · intro t interrupt reply c ht hcontrol hframes hc
    obtain ⟨after, joined, td, hnext, hmem, htakes⟩ :=
      exists_teardown_of_locked hattends.fits ht hframes hcontrol hc
    obtain ⟨active, hafter⟩ := (hattends.fits.next hnext).fits.exists_callsFit
    obtain ⟨outcome, hclosing⟩ := (hafter.clients client).closing hmem
    refine ⟨after, joined, td, hnext, hmem, fun joined' td' hmem' => hclosing.unique hmem', ?_⟩
    intro hmay
    have hlocking : t.isLocking client = true := Task.isLocking_iff.2 ⟨interrupt, client, hframes⟩
    exact htakes (((awaited_start client).run (attends_start client) hrun hmay).not_handed hattends
      hnormal ht hlocking)

/-- A client is made, and a call to close it is stopped before it gets the lock. -/
def stoppedClose : List Move :=
  [.build (.recorded default) default, .act (.close 0 "close" none), .abort 0]

/-- The task that closes a dropped client in the background is stopped before it is polled. Helpers
take over, and their task gets the lock. -/
def helpedClose : List Move :=
  [.abort 1, .help, .poll 2, .step, .step]

/-- The moment at which the client is dropped. -/
def stopped : Moment := (start.run stoppedClose).get (by decide +kernel)

/-- The moment after that. -/
def dropped : Moment := (stopped.next (.act (.drop 0))).get (by decide +kernel)

/-- The moment at which the task of the helpers has the lock. -/
def helped : Moment :=
  (start.run (stoppedClose ++ .act (.drop 0) :: helpedClose)).get (by decide +kernel)

theorem leaks_exact_of_stopped_close :
    start.run (stoppedClose ++ .act (.drop 0) :: helpedClose) = some helped ∧
      ¬ helped.world.Panics 0 ∧ stopped.Loses 0 (.act (.drop 0)) dropped ∧
      ¬ Taken stoppedClose 0 ∧
      Leaks (stoppedClose ++ .act (.drop 0) :: helpedClose) stoppedClose stopped dropped helped 0 ∧
      start.begun 0 (stoppedClose ++ .act (.drop 0) :: helpedClose) = 1 ∧
      ∃ after joined, helped.next .step = some after ∧
        .teardown joined ⟨0, none, none, none⟩ ∈ after.world.history 0 := by
  have hrun : start.run (stoppedClose ++ .act (.drop 0) :: helpedClose) = some helped :=
    (Option.some_get _).symm
  have hbefore : start.run stoppedClose = some stopped := (Option.some_get _).symm
  have hnormal : ¬ helped.world.Panics 0 := by
    rintro ⟨message, hpanics⟩
    have hreporter : helped.world.leakReporter 0 = default := rfl
    cases hreporter.symm.trans hpanics
  have hloses : stopped.Loses 0 (.act (.drop 0)) dropped :=
    ⟨(Option.some_get _).symm, rfl, rfl⟩
  have hopen : ¬ Taken stoppedClose 0 := by
    intro htaken
    obtain ⟨joined, td, hmem⟩ := (taken_iff hbefore).1 htaken
    cases hmem
  obtain ⟨-, hloss, hlocked⟩ := leaks_exact hrun hnormal
  have hleaks := (hloss rfl hbefore hloses).1 hopen
  obtain ⟨after, joined, ⟨client, endpoint, strategy, interrupt⟩, hnext, hmem, -, htakes⟩ :=
    hlocked (t := ⟨2, .reply (.ok .unit), [.closeLock 0 none, .background 0], none, none⟩)
      rfl rfl rfl rfl
  obtain ⟨hstate, -, frames, hframes⟩ := htakes (by decide)
  cases hframes
  have hopened : helped.world.state? 0 = some (.opened none none) := rfl
  cases hopened.symm.trans hstate
  exact ⟨hrun, hnormal, hloses, hopen, hleaks, by decide +kernel, after, joined, hnext, hmem⟩

end Moment

end Remoting
