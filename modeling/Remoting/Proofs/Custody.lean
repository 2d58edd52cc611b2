import Remoting.Proofs.Dropping
import Remoting.Proofs.Executing

/-!
# Who looks after a client

A client is looked after by the holders of its handles. The loss of the last handle of a client that
is still open is reported, and one close in the background takes over: it is pending until it is
polled for the first time, on the list of tasks or with a helper. `Alters` says what a move does to
reports, pending closes and handles of a client, `Custody` what follows from that for a whole run.
-/

namespace Remoting

/-- Whether a task is the close of a client in the background and has not begun. -/
def Task.isPending (client : ClientId) (t : Task) : Bool :=
  match t.control, t.frames with
  | .call (.close closed _), [.background _] => closed = client
  | _, _ => false

theorem Task.isPending_of_nil {t : Task} (h : t.frames = []) (client : ClientId) :
    t.isPending client = false := by
  unfold isPending
  rw [h]
  split
  next heq => cases heq
  next => rfl

/-- A close that is made inside other calls than those of a close in the background is none. -/
theorem Fits.not_isPending {may : ClientId → Bool} {control : Control} {inner frames : List Frame}
    (h : Fits may control inner) (client : ClientId) (t : Task) :
    ({ t with control := control, frames := inner ++ frames } : Task).isPending client = false := by
  unfold Task.isPending
  dsimp only
  split
  next closed interrupt background heq =>
    obtain ⟨frame, rest, rfl⟩ := List.exists_cons_of_ne_nil (h.close _ _ rfl)
    obtain ⟨rfl, -⟩ := List.cons.inj heq
    exact absurd (List.mem_cons_self ..) (h.background background)
  next => rfl

namespace World

variable {may : ClientId → Bool} {shut : EndpointId → Prop} {w v u : World} {task : TaskId}
  {t : Task} {client : ClientId} {begun : Nat}

/-- The closes of a client in the background that have not begun, with a helper or not. -/
def pending (w : World) (client : ClientId) : Nat :=
  w.tasks.countP (Task.isPending client) + w.stranded.count client

/-- The reporter of a client panics. -/
def Panics (w : World) (client : ClientId) : Prop :=
  ∃ message, w.leakReporter client = .panicking message

/-! ## One task among others -/

/-- The tasks before and behind a task have other numbers. -/
theorem exists_split (hnodup : (w.tasks.map Task.id).Nodup) (ht : w.task? task = some t) :
    ∃ before after, w.tasks = before ++ t :: after ∧ t.id = task ∧ (∀ t' ∈ before, t'.id ≠ task) ∧
      ∀ t' ∈ after, t'.id ≠ task := by
  obtain ⟨hid, before, after, htasks, hbefore⟩ := List.find?_eq_some_iff_append.1 ht
  have hid : t.id = task := by simpa using hid
  refine ⟨before, after, htasks, hid, fun t' ht' => by simpa using hbefore t' ht', ?_⟩
  rw [htasks, List.map_append, List.map_cons] at hnodup
  intro t' ht' heq
  refine (List.nodup_cons.1 (List.nodup_append.1 hnodup).2.1).1 ?_
  rw [hid, ← heq]
  exact List.mem_map_of_mem ht'

/-- A count of tasks after one of them goes on. -/
theorem countP_goto (hnodup : (w.tasks.map Task.id).Nodup) (ht : w.task? task = some t)
    (p : Task → Bool) (control : Control) (frames : List Frame) :
    (w.goto task control frames).tasks.countP p + (p t).toNat =
      w.tasks.countP p + (p { t with control := control, frames := frames }).toNat := by
  obtain ⟨before, after, htasks, hid, hbefore, hafter⟩ := exists_split hnodup ht
  have hother : ∀ l : List Task, (∀ t' ∈ l, t'.id ≠ task) →
      l.map (fun t => if t.id = task then { t with control, frames } else t) = l := fun l hl =>
    (List.map_congr_left fun t' ht' => if_neg (hl t' ht')).trans (List.map_id' l)
  have hgoto : (w.goto task control frames).tasks =
      before ++ { t with control := control, frames := frames } :: after := by
    show w.tasks.map _ = _
    rw [htasks, List.map_append, List.map_cons, hother before hbefore, hother after hafter,
      if_pos hid]
  rw [hgoto, htasks]
  simp only [List.countP_append, List.countP_cons]
  cases p t <;> cases p { t with control := control, frames := frames } <;> simp <;> omega

/-- A count of tasks after one of them has ended. -/
theorem countP_removeTask (hnodup : (w.tasks.map Task.id).Nodup) (ht : w.task? task = some t)
    (p : Task → Bool) :
    (w.removeTask task).tasks.countP p + (p t).toNat = w.tasks.countP p := by
  obtain ⟨before, after, htasks, hid, hbefore, hafter⟩ := exists_split hnodup ht
  have hother : ∀ l : List Task, (∀ t' ∈ l, t'.id ≠ task) → l.filter (·.id ≠ task) = l :=
    fun l hl =>
    List.filter_eq_self.2 fun t' ht' => by simpa using hl t' ht'
  have hremove : (w.removeTask task).tasks = before ++ after := by
    show w.tasks.filter _ = _
    rw [htasks, List.filter_append, List.filter_cons_of_neg (by simp [hid]), hother before hbefore,
      hother after hafter]
  rw [hremove, htasks]
  simp only [List.countP_append, List.countP_cons]
  cases p t <;> simp [Nat.add_assoc]

theorem ids_goto (w : World) (task : TaskId) (control : Control) (frames : List Frame) :
    (w.goto task control frames).tasks.map Task.id = w.tasks.map Task.id := by
  show (w.tasks.map _).map Task.id = _
  rw [List.map_map]
  refine List.map_congr_left fun t _ => ?_
  show (if t.id = task then _ else _ : Task).id = t.id
  split <;> rfl

/-! ## Handles -/

/-- Where a client was made. -/
def trace? (w : World) (client : ClientId) : Option AllocationTrace :=
  w.clients[client]?.map fun c => c.trace

theorem trace?_eq (w : World) (client : ClientId) :
    w.trace? client = (w.origin? client).map Prod.snd := by
  simp [trace?, origin?, Function.comp_def]

theorem hasHandle_eq (w : World) (client : ClientId) : w.hasHandle client =
    ((w.origin? client).any Prod.fst || w.tasks.any (·.handle = some client)) := by
  rw [hasHandle, origin?, Option.any_map]

theorem any_handle_goto (w : World) (task : TaskId) (control : Control) (frames : List Frame)
    (client : ClientId) : (w.goto task control frames).tasks.any (·.handle = some client) =
      w.tasks.any (·.handle = some client) := by
  show (w.tasks.map _).any _ = _
  rw [List.any_map]
  refine congrArg w.tasks.any (funext fun t => ?_)
  show decide ((if t.id = task then _ else _ : Task).handle = some client) = _
  split <;> rfl

theorem hasHandle_of_mem (ht : t ∈ w.tasks) (hhandle : t.handle = some client) :
    w.hasHandle client = true := by
  rw [hasHandle, Bool.or_eq_true]
  exact .inr (List.any_eq_true.2 ⟨t, ht, by simpa using hhandle⟩)

theorem hasHandle_of_held {c : Client} (hc : w.clients[client]? = some c) (held : c.held = true) :
    w.hasHandle client = true := by
  rw [hasHandle, hc, Bool.or_eq_true]
  exact .inl held

/-- The end of a task without a handle of a client. -/
theorem any_handle_removeTask (hnodup : (w.tasks.map Task.id).Nodup) (ht : w.task? task = some t)
    (hhandle : t.handle ≠ some client) :
    (w.removeTask task).tasks.any (·.handle = some client) =
      w.tasks.any (·.handle = some client) := by
  have hcount := countP_removeTask hnodup ht (·.handle = some client)
  have hany : ∀ l : List Task, l.any (·.handle = some client) =
      decide (0 < l.countP (·.handle = some client)) := fun l => by
    rw [Bool.eq_iff_iff, decide_eq_true_iff, List.countP_pos_iff, List.any_eq_true]
  rw [hany, hany, ← hcount]
  simp [hhandle]

/-! ## Changes that carry on -/

/-- Nothing is reported of a client and none of its handles is the last one to be lost; some of its
pending closes have begun. -/
structure Carries (client : ClientId) (begun : Nat) (w u : World) : Prop where
  reports : u.reports client = w.reports client
  trace : u.trace? client = w.trace? client
  handle : u.hasHandle client = w.hasHandle client
  pending : u.pending client + begun = w.pending client

theorem Carries.refl (w : World) : Carries client 0 w w :=
  ⟨rfl, rfl, rfl, rfl⟩

theorem Carries.trans {begun' : Nat} (h : Carries client begun w v)
    (h' : Carries client begun' v u) :
    Carries client (begun + begun') w u where
  reports := h'.reports.trans h.reports
  trace := h'.trace.trans h.trace
  handle := h'.handle.trans h.handle
  pending := by
    have hfirst := h.pending
    have hsecond := h'.pending
    omega

/-- Changes of nothing that has to do with reports, handles and closes. -/
theorem Carries.of_eq (events : u.events = w.events) (log : u.log = w.log)
    (clients : u.clients = w.clients) (tasks : u.tasks = w.tasks)
    (stranded : u.stranded = w.stranded) : Carries client 0 w u where
  reports := by rw [World.reports, World.reports, events, log]
  trace := by rw [trace?, trace?, clients]
  handle := by rw [hasHandle, hasHandle, clients, tasks]
  pending := by rw [World.pending, World.pending, tasks, stranded, Nat.add_zero]

theorem Passes.carries (h : Passes may shut w u) (client : ClientId) : Carries client 0 w u := by
  obtain ⟨new, htasks, hnew⟩ := h.tasks
  have hpending : new.countP (Task.isPending client) = 0 :=
    List.countP_eq_zero.2 fun t ht => by simp [Task.isPending_of_nil (hnew t ht).2.1]
  have hhandle : new.any (·.handle = some client) = false :=
    List.any_eq_false.2 fun t ht => by simp [(hnew t ht).1]
  exact
    { reports := by rw [World.reports, World.reports, h.events, h.log]
      trace := by rw [trace?_eq, trace?_eq, h.origin]
      handle := by rw [hasHandle_eq, hasHandle_eq, h.origin, htasks, List.any_append, hhandle,
        Bool.or_false]
      pending := by rw [World.pending, World.pending, htasks, h.stranded, List.countP_append,
        hpending, Nat.add_zero, Nat.add_zero] }

/-- A task goes on. -/
theorem carries_goto (hnodup : (w.tasks.map Task.id).Nodup) (ht : w.task? task = some t)
    {control : Control} {frames : List Frame}
    (hnot : ({ t with control := control, frames := frames } : Task).isPending client = false) :
    Carries client (t.isPending client).toNat w (w.goto task control frames) where
  reports := rfl
  trace := rfl
  handle := by
    rw [hasHandle, hasHandle, any_handle_goto]
    rfl
  pending := by
    have hcount := countP_goto hnodup ht (Task.isPending client) control frames
    rw [hnot] at hcount
    show (w.goto task control frames).tasks.countP _ + w.stranded.count client + _ =
      w.tasks.countP _ + w.stranded.count client
    simp only [Bool.toNat_false] at hcount
    omega

theorem Passes.task? (h : Passes may shut w u) (ht : w.task? task = some t) :
    u.task? task = some t := by
  obtain ⟨new, htasks, -⟩ := h.tasks
  rw [World.task?, htasks, List.find?_append, show w.tasks.find? _ = some t from ht]
  rfl

/-- A part of a move, and then the task goes on. -/
theorem Passes.carries_goto (h : Passes may shut w v) (ht : w.task? task = some t)
    {control : Control} {frames : List Frame}
    (hnodup : ((v.goto task control frames).tasks.map Task.id).Nodup)
    (hnot : ({ t with control := control, frames := frames } : Task).isPending client = false) :
    Carries client (t.isPending client).toNat w (v.goto task control frames) := by
  rw [ids_goto] at hnodup
  have hgoto := World.carries_goto hnodup (h.task? ht) hnot
  simpa using (h.carries client).trans hgoto

theorem ClosesOnly.carries {new : ClientId → Bool} {frames : List Frame}
    (h : ClosesOnly new may shut task frames w u) (ht : w.task? task = some t)
    (hnodup : (u.tasks.map Task.id).Nodup) (client : ClientId) :
    Carries client (t.isPending client).toNat w u := by
  obtain ⟨v, control, inner, rfl, hpasses, hfits⟩ := h
  exact hpasses.carries_goto ht hnodup (hfits.not_isPending client t)

/-! ## The loss of a handle -/

/-- The reports about a client are put together from two journals, so that a report comes last only
if there is no other. -/
theorem reports_emit (w : World) {report : LeakReport}
    (h : report.client ≠ client + 1 ∨ w.reports client = []) :
    (w.emit (.leak report)).reports client =
      w.reports client ++ if report.client = client + 1 then [report] else [] := by
  have hemit : (w.emit (.leak report)).reports client =
      (w.events.filterMap Event.report?).filter (·.client = client + 1) ++
        ([report].filter (·.client = client + 1) ++
          (w.log.filterMap LogLine.report?).filter (·.client = client + 1)) := by
    simp only [World.reports, emit, List.filterMap_append, Event.report?, List.append_assoc,
      List.filter_append, List.filterMap_cons, List.filterMap_nil]
  rw [hemit]
  by_cases heq : report.client = client + 1
  · have hnone := h.resolve_left (not_not_intro heq)
    rw [World.reports, List.filter_append, List.append_eq_nil_iff] at hnone
    simp [World.reports, List.filter_append, hnone.1, hnone.2, heq]
  · simp [World.reports, List.filter_append, heq]

theorem reports_reportLeak (w : World) (dropped : ClientId) (trace : AllocationTrace)
    (h : dropped ≠ client ∨ w.reports client = []) :
    (w.reportLeak dropped trace).1.reports client =
      w.reports client ++ if dropped = client then [⟨dropped + 1, trace⟩] else [] := by
  have hsame : dropped + 1 = client + 1 ↔ dropped = client := Nat.add_right_cancel_iff
  have hemit : (w.emit (.leak ⟨dropped + 1, trace⟩)).reports client =
      w.reports client ++ if dropped = client then [⟨dropped + 1, trace⟩] else [] := by
    rw [reports_emit w (h.imp_left fun hne heq => hne (hsame.1 heq))]
    simp only [hsame]
  unfold reportLeak
  dsimp only
  split
  · simp [World.reports, warn, LogLine.report?, List.filter_singleton]
  · exact hemit
  · exact hemit

/-- A report changes nothing but the journal. -/
theorem reportLeak_eq (w : World) (client : ClientId) (trace : AllocationTrace) :
    (w.reportLeak client trace).1.clients = w.clients ∧
      (w.reportLeak client trace).1.tasks = w.tasks ∧
      (w.reportLeak client trace).1.stranded = w.stranded ∧
      (w.reportLeak client trace).1.configs = w.configs := by
  unfold reportLeak
  dsimp only
  split <;> exact ⟨rfl, rfl, rfl, rfl⟩

theorem spawnBackgroundClose_eq (w : World) (dropped : ClientId) :
    (w.spawnBackgroundClose dropped).clients = w.clients ∧
      (w.spawnBackgroundClose dropped).configs = w.configs := by
  unfold spawnBackgroundClose
  split <;> exact ⟨rfl, rfl⟩

/-- A close in the background starts, or a helper gets it. -/
theorem spawnBackgroundClose_spec (w : World) (dropped client : ClientId) :
    (w.spawnBackgroundClose dropped).reports client = w.reports client ∧
      (w.spawnBackgroundClose dropped).hasHandle client = w.hasHandle client ∧
      (w.spawnBackgroundClose dropped).pending client =
        w.pending client + if dropped = client then 1 else 0 := by
  unfold spawnBackgroundClose
  split
  · refine ⟨rfl, by simp [hasHandle, addTask, signal], ?_⟩
    simp only [World.pending, addTask, signal, List.countP_append, List.countP_singleton,
      Task.isPending, decide_eq_true_eq]
    omega
  · refine ⟨rfl, rfl, ?_⟩
    simp only [World.pending, strand, List.count_append, List.count_singleton, beq_iff_eq]
    omega

theorem panics_of_eq (hclients : u.clients = w.clients) (hconfigs : u.configs = w.configs)
    (h : w.Panics client) : u.Panics client := by
  unfold Panics leakReporter configOf? at h ⊢
  rwa [hclients, hconfigs]

theorem panics_of_reportLeak {trace : AllocationTrace} {content : Panic}
    (h : (w.reportLeak client trace).2 = some content) : w.Panics client := by
  unfold reportLeak at h
  dsimp only at h
  split at h
  · cases h
  · cases h
  · next message hreporter => exact ⟨message, hreporter⟩

/-- An open client was reported when its last handle was lost, and a close of it was started. -/
structure Reported (dropped : ClientId) (c : Client) (w u : World) : Prop where
  clients : u.clients = w.clients
  panics : w.Panics dropped → u.Panics dropped
  handle : ∀ client, u.hasHandle client = w.hasHandle client
  reports : w.reports dropped = [] → u.reports dropped = [⟨dropped + 1, c.trace⟩]
  pending : ¬ w.Panics dropped → u.pending dropped = w.pending dropped + 1
  others : ∀ client, dropped ≠ client →
    u.reports client = w.reports client ∧ u.pending client = w.pending client

/-- The loss of a handle changes nothing unless it was the last one of an open client. -/
theorem dropHandle_cases (w : World) (dropped : ClientId) :
    ((w.dropHandle dropped).1 = w ∧ ∀ c, w.clients[dropped]? = some c →
      w.hasHandle dropped = true ∨ c.closed = true) ∨
    ∃ c, w.clients[dropped]? = some c ∧ w.hasHandle dropped = false ∧ c.closed = false ∧
      Reported dropped c w (w.dropHandle dropped).1 := by
  unfold dropHandle
  split
  next hnone => exact .inl ⟨rfl, fun c hc => by rw [hnone] at hc; cases hc⟩
  next c hc =>
    split
    next hkept =>
      refine .inl ⟨rfl, fun c' hc' => ?_⟩
      obtain rfl := Option.some.inj (hc.symm.trans hc')
      exact (Bool.or_eq_true _ _).mp hkept
    next hlost =>
      obtain ⟨hgone, hopen⟩ := Bool.or_eq_false_iff.1 (Bool.eq_false_iff.2 hlost)
      refine .inr ⟨c, hc, hgone, hopen, ?_⟩
      obtain ⟨hclients, htasks, hstranded, hconfigs⟩ := reportLeak_eq w dropped c.trace
      have hreports : ∀ client, dropped ≠ client ∨ w.reports client = [] →
          (w.reportLeak dropped c.trace).1.reports client =
            w.reports client ++ if dropped = client then [⟨dropped + 1, c.trace⟩] else [] :=
        fun client h => reports_reportLeak w dropped c.trace h
      have hhandle : ∀ client, (w.reportLeak dropped c.trace).1.hasHandle client =
          w.hasHandle client := fun client => by rw [hasHandle, hasHandle, hclients, htasks]
      have hpending : ∀ client, (w.reportLeak dropped c.trace).1.pending client =
          w.pending client := fun client => by rw [World.pending, World.pending, htasks, hstranded]
      split
      next v content hreport =>
        have hpanics : w.Panics dropped := panics_of_reportLeak (by rw [hreport])
        rw [hreport] at hclients hreports hconfigs hhandle hpending
        exact
          { clients := hclients
            panics := panics_of_eq hclients hconfigs
            handle := hhandle
            reports := fun hnone => by simpa [hnone] using hreports dropped (.inr hnone)
            pending := fun hnot => absurd hpanics hnot
            others := fun client hne =>
              ⟨by simpa [hne] using hreports client (.inl hne), hpending client⟩ }
      next v hreport =>
        rw [hreport] at hclients hreports hconfigs hhandle hpending
        have hspawn := spawnBackgroundClose_spec v dropped
        obtain ⟨hclients', hconfigs'⟩ := spawnBackgroundClose_eq v dropped
        exact
          { clients := hclients'.trans hclients
            panics := panics_of_eq (hclients'.trans hclients) (hconfigs'.trans hconfigs)
            handle := fun client => (hspawn client).2.1.trans (hhandle client)
            reports := fun hnone => by
              simpa [hnone] using (hspawn dropped).1.trans (hreports dropped (.inr hnone))
            pending := fun _ => by rw [(hspawn dropped).2.2, hpending, if_pos rfl]
            others := fun client hne => by
              obtain ⟨hsame, -, hpending'⟩ := hspawn client
              refine ⟨?_, by rw [hpending', hpending, if_neg hne, Nat.add_zero]⟩
              simpa [hne] using hsame.trans (hreports client (.inl hne)) }

/-- The loss of a handle of another client. -/
theorem carries_dropHandle (w : World) {dropped : ClientId} (hne : dropped ≠ client) :
    Carries client 0 w (w.dropHandle dropped).1 := by
  rcases w.dropHandle_cases dropped with ⟨hsame, -⟩ | ⟨c, -, -, -, hreported⟩
  · rw [hsame]
    exact .refl w
  · obtain ⟨hreports, hpending⟩ := hreported.others client hne
    exact ⟨hreports, by rw [trace?, trace?, hreported.clients], hreported.handle client, hpending⟩

/-- What a move does to the custody of a client. -/
inductive Alters (client : ClientId) (begun : Nat) (w u : World) : Prop
  | carries (h : Carries client begun w u)
  /-- The client is made. -/
  | born (unborn : w.clients[client]? = none) (born : ∃ c, u.clients[client]? = some c)
      (handle : u.hasHandle client = true) (reports : u.reports client = w.reports client)
      (pending : u.pending client + begun = w.pending client)
  /-- Its last handle is lost after its close has begun. -/
  | settled (held : w.hasHandle client = true) (gone : u.hasHandle client = false)
      (closed : ∀ c, u.clients[client]? = some c → c.closed = true)
      (reports : u.reports client = w.reports client)
      (pending : u.pending client + begun = w.pending client)
  /-- Its last handle is lost while it is open. -/
  | leaked {c : Client} (found : u.clients[client]? = some c) (opened : c.closed = false)
      (held : w.hasHandle client = true) (gone : u.hasHandle client = false)
      (reports : w.reports client = [] → u.reports client = [⟨client + 1, c.trace⟩])
      (pending : ¬ u.Panics client → u.pending client + begun = w.pending client + 1)

/-- A change behind another one that leaves the clients alone. -/
theorem Alters.carry (h : Alters client begun w v) (h' : Carries client 0 v u)
    (hclients : u.clients = v.clients) (hconfigs : u.configs = v.configs) :
    Alters client begun w u := by
  have hpending := h'.pending
  cases h with
  | carries h => exact .carries (by simpa using h.trans h')
  | born unborn born handle reports pending =>
      exact .born unborn (by rwa [hclients]) (h'.handle.trans handle) (h'.reports.trans reports)
        (by omega)
  | settled held gone closed reports pending =>
      exact .settled held (h'.handle.trans gone) (by rwa [hclients]) (h'.reports.trans reports)
        (by omega)
  | leaked found opened held gone reports pending =>
      refine .leaked (by rwa [hclients]) opened held (h'.handle.trans gone)
        (fun hnone => h'.reports.trans (reports hnone)) fun hnot => ?_
      have hpending' := pending fun hpanics => hnot (panics_of_eq hclients hconfigs hpanics)
      omega

/-- A change before another one. -/
theorem Carries.alters (h : Carries client 0 w v) (h' : Alters client begun v u) :
    Alters client begun w u := by
  have hpending := h.pending
  cases h' with
  | carries h' => exact .carries (by simpa using h.trans h')
  | born unborn born handle reports pending =>
      have hnone : w.trace? client = none := by rw [← h.trace, trace?, unborn, Option.map_none]
      exact .born (Option.map_eq_none_iff.1 hnone) born handle (reports.trans h.reports) (by omega)
  | settled held gone closed reports pending =>
      exact .settled (h.handle.symm.trans held) gone closed (reports.trans h.reports) (by omega)
  | leaked found opened held gone reports pending =>
      refine .leaked found opened (h.handle.symm.trans held) gone
        (fun hnone => reports (h.reports.trans hnone)) fun hnot => ?_
      have hpending' := pending hnot
      omega

/-- A handle of a client is no longer there. -/
structure Loosens (client : ClientId) (begun : Nat) (w r : World) : Prop where
  held : w.hasHandle client = true
  trace : r.trace? client = w.trace? client
  reports : r.reports client = w.reports client
  pending : r.pending client + begun = w.pending client

/-- What follows from the loss of a handle. -/
theorem Loosens.alters {r : World} (h : Loosens client begun w r) :
    Alters client begun w (r.dropHandle client).1 := by
  rcases r.dropHandle_cases client with ⟨hsame, hkept⟩ | ⟨c, hc, hgone, hopen, hreported⟩
  · rw [hsame]
    cases hhandle : r.hasHandle client with
    | true => exact .carries ⟨h.reports, h.trace, hhandle.trans h.held.symm, h.pending⟩
    | false =>
        exact .settled h.held hhandle (fun c hc => (hkept c hc).resolve_left (by simp [hhandle]))
          h.reports h.pending
  · refine .leaked (by rwa [hreported.clients]) hopen h.held ((hreported.handle client).trans hgone)
      (fun hnone => hreported.reports (h.reports.trans hnone)) fun hnot => ?_
    have hreported := hreported.pending fun hpanics => hnot (hreported.panics hpanics)
    have hpending := h.pending
    omega

/-! ## The end of tasks -/

theorem dropHeld_fst (w : World) (finish : Finish) (handle : Option ClientId) :
    (w.dropHeld finish handle).1 = handle.elim w fun client => (w.dropHandle client).1 := by
  cases handle with
  | none => rfl
  | some client =>
      simp only [dropHeld, Option.elim_some]
      split
      next h => rw [h]
      next h => rw [h]

/-- The end of a task leaves clients and configurations alone. -/
theorem leaveOwner_eq (w : World) (task : TaskId) (owner : Option EndpointId) :
    (w.leaveOwner task owner).clients = w.clients ∧
    (w.leaveOwner task owner).configs = w.configs := by
  cases owner with
  | none => exact ⟨rfl, rfl⟩
  | some endpoint =>
      show (w.leaveEndpoint task endpoint).clients = _ ∧ (w.leaveEndpoint task endpoint).configs = _
      unfold leaveEndpoint
      split
      · exact ⟨rfl, rfl⟩
      · unfold signalDrained
        split <;> exact ⟨rfl, rfl⟩

/-- The end of a task. -/
theorem alters_finishTask (hnodup : (w.tasks.map Task.id).Nodup) (ht : w.task? task = some t)
    (finish : Finish) (client : ClientId) :
    Alters client (t.isPending client).toNat w (w.finishTask task finish) := by
  have hpending : (w.removeTask task).pending client + (t.isPending client).toNat =
      w.pending client := by
    have hcount := countP_removeTask hnodup ht (Task.isPending client)
    show (w.removeTask task).tasks.countP _ + w.stranded.count client + _ = _
    rw [World.pending]
    omega
  have hcarries : t.handle ≠ some client →
      Carries client (t.isPending client).toNat w (w.removeTask task) := fun hhandle =>
    ⟨rfl, rfl, by rw [hasHandle, hasHandle, any_handle_removeTask hnodup ht hhandle]; rfl, hpending⟩
  have hdrop : Alters client (t.isPending client).toNat w
      ((w.removeTask task).dropHeld finish t.handle).1 := by
    rw [dropHeld_fst]
    cases hhandle : t.handle with
    | none => exact .carries (hcarries (by simp [hhandle]))
    | some dropped =>
        by_cases heq : dropped = client
        · subst heq
          have hloosens : Loosens dropped (t.isPending dropped).toNat w (w.removeTask task) :=
            ⟨hasHandle_of_mem (task?_mem ht).1 hhandle, rfl, rfl, hpending⟩
          exact hloosens.alters
        · have hother := (w.removeTask task).carries_dropHandle heq
          exact .carries (by simpa using (hcarries (by simpa [hhandle] using heq)).trans hother)
  have hleave : Passes (fun _ => false) (fun _ => False) _ _ :=
    passes_leaveOwner ((w.removeTask task).dropHeld finish t.handle).1 task t.owner
  obtain ⟨hclients, hconfigs⟩ :=
    leaveOwner_eq ((w.removeTask task).dropHeld finish t.handle).1 task t.owner
  simp only [finishTask, ht]
  refine (hdrop.carry (hleave.carries client) hclients hconfigs).carry ?_ rfl rfl
  exact .of_eq rfl rfl rfl rfl rfl

/-- A close in the background that has not begun goes to a helper. -/
theorem Alters.strand {dropped : ClientId} (h : Alters client begun (w.strand dropped) u)
    (hbegun : begun = if dropped = client then 1 else 0) : Alters client 0 w u := by
  have hpending : (w.strand dropped).pending client = w.pending client + begun := by
    rw [hbegun]
    simp only [World.pending, World.strand, List.count_append, List.count_singleton, beq_iff_eq]
    omega
  cases h with
  | carries h =>
      have hcarries := h.pending
      exact .carries ⟨h.reports, h.trace, h.handle, by omega⟩
  | born unborn born handle reports pending => exact .born unborn born handle reports (by omega)
  | settled held gone closed reports pending => exact .settled held gone closed reports (by omega)
  | leaked found opened held gone reports pending =>
      refine .leaked found opened held gone reports fun hnot => ?_
      have hpending' := pending hnot
      omega

/-- A task that is stopped keeps its close in the background for a helper. -/
theorem alters_abortTask (h : w.CallsFit none) (task : TaskId) (client : ClientId) :
    Alters client 0 w (w.abortTask task) := by
  unfold abortTask
  split
  next => exact .carries (.refl w)
  next t ht =>
    obtain ⟨hmem, hid⟩ := task?_mem ht
    have hnodup := (h.dropTask hmem).fits.nodup
    unfold dropTask at hnodup ⊢
    split at hnodup
    next closed interrupt background hcontrol hframes =>
      have hfind : (w.strand closed).task? task = some t := ht
      refine (alters_finishTask hnodup hfind .aborted client).strand ?_
      simp only [Task.isPending, hcontrol, hframes]
      by_cases heq : closed = client <;> simp [heq]
    next hother =>
      have hdrop : Passes (fun _ => false) (fun _ => False) w
          ((w.dropControl t.id t.control).dropFrames t.id t.frames) :=
        (passes_dropControl w t.id t.control).trans (passes_dropFrames _ t.id t.frames)
      have hnot : t.isPending client = false := by
        unfold Task.isPending
        split
        next closed interrupt background hcontrol hframes =>
          exact absurd hframes (hother _ _ _ hcontrol)
        next => rfl
      have hfinish := alters_finishTask hnodup (hdrop.task? ht) .aborted client
      rw [hnot] at hfinish
      exact (hdrop.carries client).alters hfinish

/-! ## Changes from outside -/

/-- A call is started by the user. -/
theorem carries_startCall (w : World) {call : Call} {handle : Option ClientId}
    (hhandle : ∀ held, handle = some held → w.hasHandle held = true) (client : ClientId) :
    Carries client 0 w (w.spawn (.call call) [] handle none).2 := by
  unfold spawn
  split
  · refine ⟨rfl, rfl, ?_, ?_⟩
    · by_cases heq : handle = some client
      · have hheld := hhandle client heq
        rw [hheld, hasHandle, Bool.or_eq_true]
        refine .inr
          (List.any_eq_true.2 ⟨_, List.mem_append_right _ (List.mem_singleton_self _), ?_⟩)
        simpa using heq
      · simp [hasHandle, addTask, signal, heq]
    · simp [World.pending, addTask, signal, Task.isPending_of_nil]
  · exact .of_eq rfl rfl rfl rfl rfl

/-- The user drops a client. -/
theorem alters_drop {dropped : ClientId} {c : Client} (hc : w.clients[dropped]? = some c)
    (held : c.held = true) (client : ClientId) :
    Alters client 0 w
      ((w.modifyClient dropped fun c => { c with held := false }).dropHandle dropped).1 := by
  have htrace : (w.modifyClient dropped fun c => { c with held := false }).trace? client =
      w.trace? client := by
    simp only [trace?, modifyClient, List.getElem?_modify]
    cases w.clients[client]? with
    | none => rfl
    | some c =>
        show some (if dropped = client then _ else _ : Client).trace = some c.trace
        split <;> rfl
  by_cases heq : dropped = client
  · subst heq
    exact Loosens.alters ⟨hasHandle_of_held hc held, htrace, rfl, rfl⟩
  · have hmodify :
        Carries client 0 w (w.modifyClient dropped fun c => { c with held := false }) := by
      refine ⟨rfl, htrace, ?_, rfl⟩
      simp [hasHandle, modifyClient, heq]
    exact .carries (hmodify.trans (carries_dropHandle _ heq))

theorem Comes.alters (h : Comes may shut w u) (client : ClientId) : Alters client 0 w u := by
  cases h with
  | passes h => exact .carries (h.carries client)
  | starts hc held =>
      refine .carries (carries_startCall w (fun other heq => ?_) client)
      cases heq
      exact hasHandle_of_held hc held
  | drops hc held => exact alters_drop hc held client

/-- A client is made. -/
theorem alters_addClient (w : World) (spec : ClientSpec) (trace : AllocationTrace)
    (client : ClientId) : Alters client 0 w (w.addClient spec trace) := by
  obtain ⟨v, c, heq, hpasses, held, -⟩ : ∃ v c, w.addClient spec trace = v.placeClient c ∧
      Passes (fun _ => false) (fun _ => False) w v ∧ c.held = true ∧ _ := addClient_eq w spec trace
  rw [heq]
  refine (hpasses.carries client).alters ?_
  rcases Nat.lt_trichotomy client v.clients.length with hlt | rfl | hgt
  · have hsame : (v.placeClient c).clients[client]? = v.clients[client]? :=
      List.getElem?_append_left hlt
    exact .carries
      ⟨rfl, by rw [trace?, trace?, hsame], by rw [hasHandle, hasHandle, hsame]; rfl, rfl⟩
  · have hnew : (v.placeClient c).clients[v.clients.length]? = some c := by simp [placeClient]
    exact .born (List.getElem?_eq_none (Nat.le_refl _)) ⟨c, hnew⟩ (hasHandle_of_held hnew held) rfl
      rfl
  · have hnone : (v.placeClient c).clients[client]? = none := by
      refine List.getElem?_eq_none ?_
      simpa [placeClient] using Nat.succ_le_of_lt hgt
    have hsame : (v.placeClient c).clients[client]? = v.clients[client]? :=
      hnone.trans (List.getElem?_eq_none (Nat.le_of_lt hgt)).symm
    exact .carries
      ⟨rfl, by rw [trace?, trace?, hsame], by rw [hasHandle, hasHandle, hsame]; rfl, rfl⟩

/-- Helpers start the closes that were left to them. -/
theorem carries_help (w : World) (client : ClientId) : Carries client 0 w w.help := by
  have hspawn : ∀ (clients : List ClientId) (v : World), v.running = true →
      (clients.foldl spawnBackgroundClose v).reports client = v.reports client ∧
        (clients.foldl spawnBackgroundClose v).clients = v.clients ∧
        (clients.foldl spawnBackgroundClose v).hasHandle client = v.hasHandle client ∧
        (clients.foldl spawnBackgroundClose v).pending client =
          v.pending client + clients.count client := by
    intro clients
    induction clients with
    | nil => exact fun v _ => ⟨rfl, rfl, rfl, rfl⟩
    | cons dropped rest ih =>
        intro v hrunning
        obtain ⟨hreports, hhandle, hpending⟩ := v.spawnBackgroundClose_spec dropped client
        obtain ⟨hreports', hclients', hhandle', hpending'⟩ :=
          ih (v.spawnBackgroundClose dropped)
            (by simp [spawnBackgroundClose, hrunning, addTask, signal])
        refine ⟨hreports'.trans hreports, hclients'.trans (spawnBackgroundClose_eq v dropped).1,
          hhandle'.trans hhandle, hpending'.trans ?_⟩
        rw [hpending, List.count_cons]
        simp only [beq_iff_eq]
        omega
  obtain ⟨hreports, hclients, hhandle, hpending⟩ :=
    hspawn w.stranded { w with running := true, stranded := [] } rfl
  have hsame : w.help.clients = w.clients := hclients
  refine ⟨hreports, by rw [trace?, trace?, hsame], hhandle, hpending.trans ?_⟩
  simp [World.pending]

end World

/-- Whether a move starts a call that may close a client without a handle of it. -/
def Move.mayClose (client : ClientId) : Move → Bool
  | .act action => action.mayClose client
  | _ => false

namespace Moment

variable {m after last : Moment} {move : Move} {client : ClientId}

/-- How many tasks with a property make a step with a move. -/
def stepsOf (m : Moment) (p : Task → Bool) : Move → Nat
  | .step => (m.polled?.any p).toNat
  | _ => 0

/-- How many closes of a client in the background begin with a move. -/
def begins (m : Moment) (client : ClientId) (move : Move) : Nat :=
  m.stepsOf (Task.isPending client) move

/-- Where a call is left, and how the task goes on. -/
theorem of_cut {w : World} {frames : List Frame} {cut : World.Cut}
    (hcut : w.cut? frames = some cut ∨ w.overdue? frames = some cut) :
    frames = cut.inner ++ cut.frame :: cut.outer ∧ cut.control.isPlain = true ∧
      (∀ closed, cut.frame ≠ .background closed) ∧
        ∀ closed interrupt, cut.frame ≠ .closeLock closed interrupt := by
  rcases hcut with hcut | hdue
  · obtain ⟨hframes, hshort⟩ := World.cut?_eq_some hcut
    refine ⟨hframes, ?_, fun closed heq => ?_, fun closed interrupt heq => ?_⟩
    · generalize cut.control = control at hshort ⊢
      unfold World.cutShort? at hshort
      split at hshort
      · obtain ⟨reason, -, rfl⟩ := Option.map_eq_some_iff.1 hshort
        rfl
      · obtain ⟨reason, -, rfl⟩ := Option.map_eq_some_iff.1 hshort
        rfl
      · obtain ⟨reason, -, rfl⟩ := Option.map_eq_some_iff.1 hshort
        rfl
      · split at hshort <;> cases hshort
        rfl
      · split at hshort <;> cases hshort
        rfl
      · cases hshort
    · rw [heq] at hshort
      cases hshort
    · rw [heq] at hshort
      cases hshort
  · obtain ⟨hframes, td, deadline, -, hframe, hcontrol⟩ := World.overdue?_eq_some hdue
    exact ⟨hframes, by rw [hcontrol]; rfl, fun closed heq => (by cases hframe.symm.trans heq),
      fun closed interrupt heq => (by cases hframe.symm.trans heq)⟩

/-- A call that is cut short is no close in the background that has not begun. -/
theorem isPending_of_cut {w : World} {t : Task} {cut : World.Cut}
    (hcut : w.cut? t.frames = some cut ∨ w.overdue? t.frames = some cut) :
    t.isPending client = false ∧
      ({ t with control := cut.control, frames := cut.outer } : Task).isPending client = false := by
  obtain ⟨hframes, hplain, hframe, -⟩ := of_cut hcut
  constructor
  · unfold Task.isPending
    split
    next closed interrupt background _ hsingle =>
      rw [hframes, List.append_eq_singleton_iff] at hsingle
      rcases hsingle with ⟨-, hcons⟩ | ⟨-, hcons⟩
      · exact absurd (List.cons.inj hcons).1 (hframe background)
      · cases hcons
    next => rfl
  · unfold Task.isPending
    split
    next closed interrupt _ hcontrol _ =>
      have hcontrol : cut.control = .call (.close closed interrupt) := hcontrol
      rw [hcontrol] at hplain
      cases hplain
    next => rfl

/-- What a move does to the world: something comes from outside, a client is made, helpers set to
work, a task is stopped, a call is left, or the polled task makes a step. -/
inductive Does (m : Moment) (move : Move) (u : World) : Prop
  | comes (hmove : move ≠ .step)
      (h : World.Comes (fun client => move.mayClose client) (fun _ => True) m.world u)
  | builds (spec : ClientSpec) (trace : AllocationTrace) (hmove : move = .build spec trace)
      (h : u = m.world.addClient spec trace)
  | helps (hmove : move = .help) (h : u = m.world.help)
  | aborts (task : TaskId) (hmove : move = .abort task) (hfit : m.world.CallsFit none)
      (h : u = m.world.abortTask task)
  | leaves (hmove : move ≠ .step) {task : TaskId} {t : Task} {cut : World.Cut} {v : World}
      (ht : m.world.task? task = some t)
      (hcut : m.world.cut? t.frames = some cut ∨ m.world.overdue? t.frames = some cut)
      (hpasses : World.Passes (fun _ => false) (fun _ => True) m.world v)
      (h : u = v.goto task cut.control cut.outer)
  | goes {polling : Polling} {t : Task} (hmove : move = .step) (hpolling : m.polling = some polling)
      (ht : m.world.task? polling.task = some t) (hstep : m.world.step? polling.task = some u)
      (h : World.ClosesOnly (t.control.spawns ·) (World.stepMay t.control t.frames) (fun _ => True)
        polling.task (World.stepFrames t.control t.frames) m.world u)
  | ends {polling : Polling} {t : Task} {finish : Finish} (hmove : move = .step)
      (hpolling : m.polling = some polling) (ht : m.world.task? polling.task = some t)
      (hframes : t.frames = []) (h : u = m.world.finishTask polling.task finish)

theorem next_does (h : m.CallsFit) (hnext : m.next move = some after) : m.Does move after.world :=
    by
  cases next_transition hnext with
  | build spec trace idle => exact .builds spec trace rfl rfl
  | act isPublic idle =>
      exact .comes (fun heq => by cases heq)
        (World.comes_act m.world (fun _ hmay => hmay) fun _ _ => trivial)
  | abort task idle => exact .aborts task rfl (h.idle idle) rfl
  | pass ms idle =>
      exact .comes (fun heq => by cases heq) (.passes (.of_eq rfl rfl rfl rfl rfl rfl))
  | halt idle => exact .comes (fun heq => by cases heq) (.passes (.of_eq rfl rfl rfl rfl rfl rfl))
  | help idle => exact .helps rfl rfl
  | poll task idle =>
      dsimp only
      unfold World.cutTask
      split
      next => exact .comes (fun heq => by cases heq) (.refl _)
      next t ht =>
        split
        next cut hcut =>
          obtain ⟨v, heq, hpasses⟩ := World.passes_leaveCall m.world task t.control cut
          exact .leaves (fun heq => by cases heq) ht (.inl hcut) hpasses heq
        next => exact .comes (fun heq => by cases heq) (.refl _)
  | @step polling u polls steps =>
      cases ht : m.world.task? polling.task with
      | none =>
          rw [World.step?, ht] at steps
          cases steps
      | some t =>
          -- a step ends the task, or the task goes on
          rcases World.closesOnly_step ht steps (fun _ _ _ _ _ => trivial) with
            ⟨hframes, finish, heq⟩ | hgoes
          · exact .ends rfl polls ht hframes heq
          · exact .goes rfl polls ht steps hgoes
  | @expire task polls waits =>
      dsimp only
      unfold World.expireDrain
      split
      next => exact .comes (fun heq => by cases heq) (.refl _)
      next t ht =>
        split
        next => exact .comes (fun heq => by cases heq) (.refl _)
        next cut hcut =>
          obtain ⟨v, heq, hpasses⟩ := World.passes_leaveCall m.world task t.control cut
          dsimp only
          split
          next td pause _ =>
            have hdrain : World.Passes (fun _ => false) (fun _ => True) v
                (v.drainTimeout td.client) :=
              World.passes_swallow v td.client _ _
            refine .leaves (fun heq => by cases heq) ht (.inr hcut) (hpasses.trans hdrain) ?_
            rw [heq]
            rfl
          next => exact .leaves (fun heq => by cases heq) ht (.inr hcut) hpasses heq
  | rest polls waits => exact .comes (fun heq => by cases heq) (.refl _)

/-- What a move does to the custody of a client. -/
theorem next_alters (h : m.CallsFit) (hnext : m.next move = some after) (client : ClientId) :
    World.Alters client (m.begins client move) m.world after.world := by
  obtain ⟨active, hafter⟩ := (h.next hnext).fits.exists_callsFit
  obtain ⟨active', hfit⟩ := h.exists_callsFit
  have hnodup := hafter.nodup
  -- a close in the background begins with a step of its task and with no other move
  have hnone : move ≠ .step → m.begins client move = 0 := fun hne => by
    cases move <;> first | rfl | exact absurd rfl hne
  have hstep : ∀ {polling t}, m.polling = some polling → m.world.task? polling.task = some t →
      m.begins client .step = (t.isPending client).toNat := fun hpolling ht => by
    simp [begins, stepsOf, polled?, hpolling, ht]
  cases next_does h hnext with
  | comes hmove h =>
      rw [hnone hmove]
      exact h.alters client
  | builds spec trace hmove h =>
      rw [hmove, h]
      exact World.alters_addClient m.world spec trace client
  | helps hmove h =>
      rw [hmove, h]
      exact .carries (World.carries_help m.world client)
  | aborts task hmove hfit h =>
      rw [hmove, h]
      exact World.alters_abortTask hfit task client
  | leaves hmove ht hcut hpasses h =>
      obtain ⟨hbefore, hcontrol⟩ : _ = false ∧ Task.isPending client _ = false :=
        isPending_of_cut hcut
      rw [h] at hnodup
      have hgoto := hpasses.carries_goto ht hnodup hcontrol
      rw [hbefore] at hgoto
      rw [hnone hmove, h]
      exact .carries hgoto
  | goes hmove hpolling ht _ h =>
      rw [hmove, hstep hpolling ht]
      exact .carries (h.carries ht hnodup client)
  | ends hmove hpolling ht hframes h =>
      rw [hmove, hstep hpolling ht, h]
      exact World.alters_finishTask hfit.nodup ht _ client

end Moment

end Remoting
