import Remoting.Proofs.Executing

/-!
# What an operation returns

A step of the task of a call stays in the frame of the call unless it replies to it. The answer of
the source of channels ends the call or has the operation called, the return of this call ends the
operation or lets its body run, and the reply of the body ends it. So every call returns the outcome
of its fate, whatever else happens in the run.
-/

namespace Remoting.Moment

variable {m after last : Moment} {move : Move} {moves : List Move} {e : Execution} {fate : Fate}
  {t t' : Task} {inner : List Frame} {frame : Frame} {reply : Reply}

/-! ## Steps of the task -/

/-- What a step of the polled task adds to the fate of a call. -/
theorem notes_of_step (ht : m.polled? = some t) (ht' : after.polled? = some t') (e : Execution)
    (fate : Fate) : m.notes after e fate .step =
      { e.sees t fate with
        calls := fate.calls ++ (t.entered t' e.isOpening).map fun control => (control, fate.due)
        runs := fate.runs ++ t.entered t' e.isRunning } := by
  simp only [notes, ht, ht']

/-- A step of a task that enters no frame of the call adds what it learns. -/
theorem notes_of_not_entered (ht : m.polled? = some t) (ht' : after.polled? = some t')
    (h : ∀ {kind}, e.Own kind → t.entered t' kind = []) (fate : Fate) :
    m.notes after e fate .step = e.sees t fate := by
  rw [notes_of_step ht ht', h e.own_isOpening, h e.own_isRunning, List.map_nil, List.append_nil,
    List.append_nil, ← Execution.calls_sees e t fate, ← Execution.runs_sees e t fate]

/-- A task that stays in the frame of a call does not enter another one. -/
theorem Lives.entered (h : m.Lives e fate t inner frame) (hwatched : after.Watched e)
    (ht' : after.world.task? e.task = some t') {inner' : List Frame}
    (hframes' : t'.frames = inner' ++ frame :: e.outer) {kind : Frame → Bool} (hkind : e.Own kind) :
    t.entered t' kind = [] := by
  obtain ⟨hinner, houter⟩ := hwatched.tracks.unheld hwatched.fits ht' hframes' h.stage.ticket?
  unfold Task.entered
  cases hframe : kind frame with
  | true =>
      refine if_pos ?_
      rw [h.frames, List.any_append, hkind.any_cons frame houter, hframe, Bool.or_true]
  | false =>
      have hoff : t'.frames.any kind = false := by
        rw [hframes', List.any_append, hkind.any_cons frame houter, hframe, Bool.or_false]
        exact Bool.eq_false_iff.2 fun hany => hinner (hkind.held hany)
      rw [hoff]
      exact ite_self _

/-- A step in which the task stays in the frame of a call, and does not reply to it. -/
theorem Lives.inner_step (h : m.Lives e fate t inner frame) (inner' : List Frame)
    (hwatched : m.Watched e) (hnext : m.next .step = some after) (hpolled : m.polled? = some t)
    (hpolled' : after.polled? = some t') (ht' : after.world.task? e.task = some t')
    (hframes' : t'.frames = inner' ++ frame :: e.outer)
    (hreply : (∀ reply, t.control ≠ .reply reply) ∨ inner ≠ []) : m.Led after e .step fate := by
  have hwatched' := hwatched.next hnext (Move.spares_step _)
  -- the innermost frame, if it is given a reply, is not the one that holds the ticket
  have hhead : (∀ reply, t.control ≠ .reply reply) ∨ ∀ {first : Frame},
      t.frames.head? = some first → first.ticket? e.handler ≠ some e.operation := by
    rcases hreply with hreply | hinner
    · exact .inl hreply
    · refine .inr fun {first} hfirst hticket => ?_
      obtain ⟨second, rest, rfl⟩ := List.exists_cons_of_ne_nil hinner
      rw [h.frames, List.cons_append, List.head?_cons, Option.some.injEq] at hfirst
      subst hfirst
      exact (h.unheld hwatched).1 (World.mem_held (List.mem_cons_self ..) hticket)
  have hnotes : m.notes after e fate .step = fate := by
    rw [notes_of_not_entered hpolled hpolled' fun hkind => h.entered hwatched' ht' hframes' hkind]
    exact hhead.elim (Execution.sees_of_not_reply fate) (Execution.sees_of_ne fate)
  refine (h.stays hwatched hnext (Move.spares_step _) hnotes ht' hframes' ?_).led
  intro channel hmem
  obtain ⟨-, t₁, routine, client, frames, hpolled₁, hcontrol, hframes⟩ := of_mem_deeds hmem
  cases hpolled.symm.trans hpolled₁
  rcases hhead with hreply | hhead
  · exact hreply _ hcontrol
  · exact hhead (congrArg List.head? hframes) (if_pos rfl)

/-- A step after which the task is outside of the call. -/
theorem Lives.outer_step (h : m.Lives e fate t inner frame) (hwatched : m.Watched e)
    (hnext : m.next .step = some after) (hactor : m.actor? .step = some e.task)
    (hpolled : m.polled? = some t) (hpolled' : after.polled? = some t')
    (ht' : after.world.task? e.task = some t') (hframes' : t'.frames = e.outer) :
    after.Past e.handler e.operation ∧ m.notes after e fate .step = e.sees t fate := by
  have hunheld : e.operation ∉ World.held e.handler t'.frames := by
    rw [hframes']
    exact (h.unheld hwatched).2
  refine ⟨h.past hwatched hnext (Move.spares_step _) hactor fun {t''} ht'' => ?_, ?_⟩
  · cases ht'.symm.trans ht''
    exact hunheld
  · exact notes_of_not_entered hpolled hpolled' (fun hkind => hkind.entered_eq_nil t hunheld) fate

/-- A step with which the call returns. -/
theorem Lives.ends (h : m.Lives e fate t inner frame) (reply : Reply) (hwatched : m.Watched e)
    (hnext : m.next .step = some after) (hactor : m.actor? .step = some e.task)
    (hpolled : m.polled? = some t) (hpolled' : after.polled? = after.world.task? e.task)
    (ht' : after.world.task? e.task = some { t with control := .reply reply, frames := e.outer })
    (horderly : (e.sees t fate).Orderly e) (houtcome : (e.sees t fate).outcome = some reply) :
    m.Led after e .step fate := by
  obtain ⟨hpast, hnotes⟩ := h.outer_step hwatched hnext hactor hpolled (hpolled'.trans ht') ht' rfl
  refine ⟨.inr ⟨hpast, Fate.orderly_foldl_hear (hnotes ▸ horderly) _⟩, fun {reply'} hanswers => ?_⟩
  obtain ⟨t'', ht'', hcontrol'', -⟩ := hanswers.replies
  cases ht'.symm.trans ht''
  cases hcontrol''
  rw [follow, Fate.outcome_foldl_hear, hnotes, houtcome]

/-- What does not return passes the call, which ends with it. -/
theorem Lives.passes (h : m.Lives e fate t inner frame) (control : Control)
    (hwatched : m.Watched e) (hnext : m.next .step = some after)
    (hactor : m.actor? .step = some e.task) (hpolled : m.polled? = some t)
    (hpolled' : after.polled? = after.world.task? e.task) (hcontrol : t.control = control)
    (hreply : ∀ reply, control ≠ .reply reply)
    (ht' : after.world.task? e.task = some { t with control, frames := e.outer }) :
    m.Led after e .step fate := by
  obtain ⟨hpast, hnotes⟩ := h.outer_step hwatched hnext hactor hpolled (hpolled'.trans ht') ht' rfl
  have hsees : e.sees t fate = fate := Execution.sees_of_not_reply fate (hcontrol ▸ hreply)
  rw [hsees] at hnotes
  have horderly : (m.notes after e fate .step).Orderly e := by
    rw [hnotes]
    exact h.stage.orderly
  refine ⟨.inr ⟨hpast, Fate.orderly_foldl_hear horderly _⟩, fun hanswers => ?_⟩
  obtain ⟨t'', ht'', hcontrol'', -⟩ := hanswers.replies
  cases ht'.symm.trans ht''
  exact absurd hcontrol'' (hreply _)

/-- What is added to the fate of a call when its task leaves a frame of the call and enters another
one. -/
theorem Lives.notes_of_enters (h : m.Lives e fate t [] frame) (hwatched : m.Watched e)
    (hpolled : m.polled? = some t) (hpolled' : after.polled? = some t')
    (hcontrol : t.control = .reply reply) {frame' : Frame}
    (hframes' : t'.frames = frame' :: e.outer) : m.notes after e fate .step =
      { fate.learn reply frame with
        calls := fate.calls ++ (if e.isOpening frame then []
          else if e.isOpening frame' then [(t'.control, none)] else [])
        runs := fate.runs ++ (if e.isRunning frame then []
          else if e.isRunning frame' then [t'.control] else []) } := by
  obtain ⟨-, houter⟩ := h.unheld hwatched
  have hframes : t.frames = frame :: e.outer := h.frames
  have hentered : ∀ {kind}, e.Own kind → t.entered t' kind =
      if kind frame then [] else if kind frame' then [t'.control] else [] := by
    intro kind hkind
    rw [Task.entered, hframes, hframes', hkind.any_cons frame houter,
      hkind.any_cons frame' houter]
  rw [notes_of_step hpolled hpolled', Execution.sees_eq hcontrol hframes h.stage.ticket?,
    hentered e.own_isOpening, hentered e.own_isRunning, h.due, apply_ite (List.map _),
    apply_ite (List.map _)]
  rfl

/-- The operation is called. -/
theorem Lives.called {channel : ChannelId} (h : m.Lives e fate t [] e.supplying)
    (hwatched : m.Watched e) (hnext : m.next .step = some after) (hpolled : m.polled? = some t)
    (hpolled' : after.polled? = after.world.task? e.task)
    (hcontrol : t.control = .reply (.ok (.handle channel))) (hanswer : fate.answer = none)
    (hcalls : fate.calls = []) (hruns : fate.runs = [])
    (ht' : after.world.task? e.task = some { t with
      control := .call (.operate e.routine.call (e.site channel))
      frames := e.opening channel :: e.outer }) : m.Led after e .step fate := by
  have hdeeds : m.deeds e.handler .step = [.bind e.operation channel] := by
    simp only [Moment.deeds, hpolled]
    rw [hcontrol, h.frames]
    exact if_pos rfl
  have hnotes := h.notes_of_enters hwatched hpolled (hpolled'.trans ht') hcontrol rfl
  have hfollow : m.follow after e .step fate =
      { fate with
        answer := some (.ok (.handle channel))
        calls := [(.call (.operate e.routine.call (e.site channel)), none)]
        runs := [] } := by
    rw [follow, hdeeds, hnotes, hcalls, hruns, e.isOpening_opening]
    rfl
  obtain ⟨tracker, htracker, hshows⟩ := h.shows
  have htracker' := (next_turns hnext (Move.spares_step _)).tracker_eq htracker
  have hlives : after.Lives e (m.follow after e .step fate) { t with
      control := .call (.operate e.routine.call (e.site channel))
      frames := e.opening channel :: e.outer } [] (e.opening channel) := by
    rw [hfollow]
    refine ⟨ht', rfl, .opening rfl rfl rfl, h.due, _, htracker', ?_⟩
    rw [Fate.channel, hanswer] at hshows
    rw [hdeeds]
    exact hshows.bind channel
  exact hlives.led

/-- The source of channels has answered. -/
theorem Lives.supplied (h : m.Lives e fate t [] e.supplying) (hwatched : m.Watched e)
    (hnext : m.next .step = some after) (hactor : m.actor? .step = some e.task)
    (hpolled : m.polled? = some t) (hpolled' : after.polled? = after.world.task? e.task)
    (hcontrol : t.control = .reply reply)
    (hworld : after.world = m.world.startOperation e.task e.handler e.operation e.routine e.client
      reply e.outer) : m.Led after e .step fate := by
  obtain ⟨hanswer, hcalls, hruns⟩ :
      fate.answer = none ∧ fate.calls = [] ∧ fate.runs = [] := by
    generalize hframe : e.supplying = frame at h
    cases h.stage with
    | supplying answer calls runs => exact ⟨answer, calls, runs⟩
    | opening | running => cases hframe
  by_cases hhandle : ∃ channel, reply = .ok (.handle channel)
  · obtain ⟨channel, rfl⟩ := hhandle
    refine h.called hwatched hnext hpolled hpolled' hcontrol hanswer hcalls hruns ?_
    have hbind : World.Deals (fun _ => True) 0 _ m.world _ :=
      World.deals_bindOperation m.world e.handler e.operation channel
    rw [hworld]
    exact World.task?_goto_of_deals hbind h.task _ _
  · have hne : ∀ channel, reply ≠ .ok (.handle channel) := fun channel heq => hhandle ⟨channel, heq⟩
    have hsees : e.sees t fate = { fate with answer := some reply } :=
      Execution.sees_eq hcontrol h.frames e.ticket?_supplying fate
    rw [World.startOperation_of_ne hne] at hworld
    refine h.ends reply hwatched hnext hactor hpolled hpolled' ?_
      (.inl ⟨hsees ▸ hcalls, hsees ▸ hruns⟩) ?_
    · rw [hworld]
      exact World.task?_endExecute h.task _ _ _ _
    · simp only [hsees, Fate.outcome, h.due]
      split
      next channel heq =>
        cases heq
        exact absurd rfl (hne channel)
      next => rfl

/-- The call of the operation has returned. -/
theorem Lives.opened {channel : ChannelId} (h : m.Lives e fate t [] (e.opening channel))
    (hwatched : m.Watched e) (hnext : m.next .step = some after)
    (hactor : m.actor? .step = some e.task) (hpolled : m.polled? = some t)
    (hpolled' : after.polled? = after.world.task? e.task) (hcontrol : t.control = .reply reply)
    (hworld : after.world = m.world.startBody e.task e.operation e.routine.body (e.site channel)
      e.outer) : m.Led after e .step fate := by
  obtain ⟨hanswer, hcalls, hruns⟩ : fate.answer = some (.ok (.handle channel)) ∧
      fate.calls = [(.call (.operate e.routine.call (e.site channel)), none)] ∧
      fate.runs = [] := by
    generalize hframe : e.opening channel = frame at h
    cases h.stage with
    | opening answer calls runs =>
        cases hframe
        exact ⟨answer, calls, runs⟩
    | supplying | running => cases hframe
  have hknown : m.world.cancellation? (e.site channel).handler e.operation = fate.reason :=
    h.cancellation? hwatched
  cases hreason : fate.reason with
  | some reason =>
      have hsees : e.sees t fate = { fate with bar := fate.reason } :=
        Execution.sees_eq hcontrol h.frames (e.ticket?_opening channel) fate
      refine h.ends (.error reason) hwatched hnext hactor hpolled hpolled' ?_ ?_ ?_
      · rw [hworld, World.startBody, hknown, hreason]
        exact World.task?_endExecute h.task _ _ _ _
      · rw [hsees]
        exact .inr ⟨channel, by rw [Fate.channel, hanswer], hcalls, .inl hruns⟩
      · simp only [hsees, Fate.outcome, h.due, hanswer, hreason]
  | none =>
      have ht' : after.world.task? e.task = some { t with
          control := .call (.operate e.routine.body (e.site channel))
          frames := e.running :: e.outer } := by
        rw [hworld, World.startBody, hknown, hreason]
        exact (World.task?_goto _ _ _ _).trans (by rw [h.task]; rfl)
      have hdeeds : m.deeds e.handler .step = [] := by
        simp only [Moment.deeds, hpolled]
        rw [hcontrol, h.frames]
        exact if_neg (by rw [hknown, hreason]; simp)
      have hnotes := h.notes_of_enters hwatched hpolled (hpolled'.trans ht') hcontrol rfl
      have hfollow : m.follow after e .step fate =
          { fate with
            bar := none
            runs := [.call (.operate e.routine.body (e.site channel))] } := by
        rw [follow, hdeeds, hnotes, hruns, e.isOpening_opening, e.isRunning_running, if_pos rfl,
          List.append_nil, ← hreason]
        rfl
      obtain ⟨tracker, htracker, hshows⟩ := h.shows
      have htracker' := (next_turns hnext (Move.spares_step _)).tracker_eq htracker
      rw [hdeeds] at htracker'
      have hlives : after.Lives e (m.follow after e .step fate) { t with
          control := .call (.operate e.routine.body (e.site channel))
          frames := e.running :: e.outer } [] e.running := by
        rw [hfollow]
        exact ⟨ht', rfl, .running hanswer hcalls rfl rfl, h.due, _, htracker', hshows⟩
      exact hlives.led

/-- The operation has replied. -/
theorem Lives.replied (h : m.Lives e fate t [] e.running) (hwatched : m.Watched e)
    (hnext : m.next .step = some after) (hactor : m.actor? .step = some e.task)
    (hpolled : m.polled? = some t) (hpolled' : after.polled? = after.world.task? e.task)
    (hcontrol : t.control = .reply reply)
    (hworld : after.world = m.world.endExecute e.task e.handler e.operation reply e.outer) :
    m.Led after e .step fate := by
  have hsees : e.sees t fate = { fate with result := some reply } :=
    Execution.sees_eq hcontrol h.frames e.ticket?_running fate
  refine h.ends reply hwatched hnext hactor hpolled hpolled' ?_ ?_ ?_
  · rw [hworld]
    exact World.task?_endExecute h.task _ _ _ _
  · rw [hsees]
    exact h.stage.orderly
  · generalize hframe : e.running = frame at h
    cases h.stage with
    | supplying | opening => cases hframe
    | running answer calls bar runs => simp only [hsees, Fate.outcome, h.due, answer, bar]

/-- What a step of its task makes of a call. -/
theorem Lives.step (h : m.Lives e fate t inner frame) (hwatched : m.Watched e)
    (hnext : m.next .step = some after) (hactor : m.actor? .step = some e.task) :
    m.Led after e .step fate := by
  have hpolled := polled?_of_actor? hactor h.task
  obtain ⟨polling, u, hpolling, hstep, rfl⟩ := next_step hnext
  have htask : polling.task = e.task := by
    rw [actor?, hpolling] at hactor
    exact Option.some.inj hactor
  have hpolled' : Moment.polled? ⟨u, some polling⟩ = u.task? e.task := by
    rw [← htask]
    rfl
  rw [htask] at hstep
  rcases World.runs_step (fun _ => True) e.handler h.task hstep (fun _ => trivial)
      (fun _ _ => fun _ => trivial) fun _ _ _ _ => trivial with ⟨hframes, -, -⟩ | hruns
  · rw [h.frames] at hframes
    exact absurd hframes (List.append_ne_nil_of_right_ne_nil _ (List.cons_ne_nil _ _))
  obtain ⟨control', inner', -, ht'⟩ := hruns.task? h.task
  by_cases hinner : inner = []
  · subst hinner
    have hframes : t.frames = frame :: e.outer := h.frames
    cases hcontrol : t.control with
    | call | wait =>
        refine h.inner_step inner' hwatched hnext hpolled (hpolled'.trans ht') ht' ?_ (.inl ?_)
        · rw [hcontrol, hframes]
          rfl
        · simp [hcontrol]
    | unwind content =>
        refine h.passes (.unwind content) hwatched hnext hactor hpolled hpolled' hcontrol
          (fun _ heq => by cases heq) ?_
        simp only [World.step?, h.task, hcontrol, hframes, Option.some.injEq] at hstep
        rw [← hstep]
        cases h.stage <;> exact World.task?_dropFrame h.task _ _ _
    | lost =>
        refine h.passes .lost hwatched hnext hactor hpolled hpolled' hcontrol
          (fun _ heq => by cases heq) ?_
        simp only [World.step?, h.task, hcontrol, hframes] at hstep
        have hstage := h.stage
        cases hstage <;> cases hstep <;> exact World.task?_dropFrame h.task _ _ _
    | reply reply =>
        have hworld : u = m.world.resume e.task frame reply e.outer := by
          simp only [World.step?, h.task, hcontrol, hframes, Option.some.injEq] at hstep
          exact hstep.symm
        have hstage := h.stage
        cases hstage with
        | supplying => exact h.supplied hwatched hnext hactor hpolled hpolled' hcontrol hworld
        | opening => exact h.opened hwatched hnext hactor hpolled hpolled' hcontrol hworld
        | running => exact h.replied hwatched hnext hactor hpolled hpolled' hcontrol hworld
  · obtain ⟨first, rest, rfl⟩ := List.exists_cons_of_ne_nil hinner
    obtain ⟨rest', hrest⟩ : ∃ rest', World.stepFrames t.control t.frames =
        rest' ++ frame :: e.outer := by
      rw [h.frames]
      cases t.control with
      | call | wait => exact ⟨first :: rest, rfl⟩
      | _ => exact ⟨rest, rfl⟩
    rw [hrest, ← List.append_assoc] at ht'
    exact h.inner_step (inner' ++ rest') hwatched hnext hpolled (hpolled'.trans ht') ht' rfl
      (.inr hinner)

/-- What any move makes of a call. -/
theorem Lives.next (h : m.Lives e fate t inner frame) (hwatched : m.Watched e)
    (hnext : m.next move = some after) (hspares : move.Spares e.handler) :
    m.Led after e move fate := by
  by_cases hactor : m.actor? move = some e.task
  · cases move with
    | abort task =>
        cases hactor
        exact h.abort hwatched hnext
    | poll task =>
        cases hactor
        exact h.poll hwatched hnext
    | step => exact h.step hwatched hnext hactor
    | expire => exact h.expire hwatched hnext hactor
    | _ => cases hactor
  · exact (h.bystander hwatched hnext hspares hactor).led

/-! ## Runs -/

/-- Nobody is inside a call whose operation has ended. -/
theorem Past.not_held (h : m.Past e.handler e.operation) (hwatched : m.Watched e)
    (ht : t ∈ m.world.tasks) : e.operation ∉ World.held e.handler t.frames :=
  fun hheld => hwatched.tracks.not_mem_of_past h (mem_tickets ht hheld)

/-- What any move makes of a call that has ended: nothing. -/
theorem Past.led (h : m.Past e.handler e.operation) (horderly : fate.Orderly e)
    (hwatched : m.Watched e) (hnext : m.next move = some after)
    (hspares : move.Spares e.handler) : m.Led after e move fate where
  goes := by
    have hpast := h.next hnext hspares
    refine .inr ⟨hpast, Fate.orderly_foldl_hear ?_ _⟩
    cases move with
    | poll task =>
        simp only [notes]
        split <;> exact horderly
    | step =>
        simp only [notes]
        split
        next t₁ t₂ hpolled hpolled' =>
          have hbefore := h.not_held hwatched (of_polled? hpolled).1
          have hafter := hpast.not_held (hwatched.next hnext hspares) (of_polled? hpolled').1
          rw [e.own_isOpening.entered_eq_nil t₁ hafter, e.own_isRunning.entered_eq_nil t₁ hafter,
            List.map_nil, List.append_nil, List.append_nil, Execution.sees_of_ne]
          · exact horderly
          · exact fun hfirst hticket => hbefore (World.mem_held_of_head? hfirst hticket)
        next => exact horderly
    | _ => exact horderly
  answers hanswers := by
    obtain ⟨t, inner, frame, ht, hframes, hticket⟩ := hanswers.inside
    exact absurd (World.mem_held_of_inside hframes hticket)
      (h.not_held hwatched (World.task?_mem ht).1)

theorem Followed.led (h : m.Followed e fate) (hwatched : m.Watched e)
    (hnext : m.next move = some after) (hspares : move.Spares e.handler) :
    m.Led after e move fate := by
  rcases h with ⟨t, inner, frame, hlives⟩ | ⟨hpast, horderly⟩
  · exact hlives.next hwatched hnext hspares
  · exact hpast.led horderly hwatched hnext hspares

/-- All along a run a call is followed. -/
theorem Followed.run (h : m.Followed e fate) (hwatched : m.Watched e)
    (hrun : m.run moves = some last) (hspares : ∀ move ∈ moves, move.Spares e.handler) :
    last.Followed e (m.fate e fate moves) ∧ last.Watched e := by
  induction moves generalizing m fate with
  | nil =>
      cases hrun
      exact ⟨h, hwatched⟩
  | cons move moves ih =>
      obtain ⟨after, hnext, hrest⟩ := Option.bind_eq_some_iff.1 hrun
      have hspare := hspares move (List.mem_cons_self ..)
      simp only [Moment.fate, hnext]
      exact ih (h.led hwatched hnext hspare).goes (hwatched.next hnext hspare) hrest
        fun move hmove => hspares move (List.mem_cons_of_mem _ hmove)

/-- A task that is about to make a call makes a step. -/
theorem Begins.next_eq (h : m.Begins e) (hnext : m.next move = some after) : move = .step := by
  obtain ⟨t, ht, -, hcontrol, -⟩ := h
  exact next_eq_step hnext ht fun wait heq => by cases hcontrol.symm.trans heq

/-- A call is refused: it returns at once that the handler is closed, and meanwhile no client, no
source of channels and no operation is called. -/
def Refuses (m : Moment) (e : Execution) : Prop :=
  ∃ after t, m.next .step = some after ∧ after.world.task? e.task = some t ∧
    t.control = .reply (.error (.closed "ManagementChannelHandler")) ∧ t.frames = e.outer ∧
    after.world.contacts = m.world.contacts ∧ after.world.events = m.world.events ∧
    after.world.handlers.map Handler.supplier = m.world.handlers.map Handler.supplier

/-- The step of a call that is about to be made. -/
theorem Begins.world (h : m.Begins e) : ∃ polling t, m.polling = some polling ∧
    polling.task = e.task ∧ m.polled? = some t ∧ m.world.task? e.task = some t ∧
    t.control = .call (.execute e.handler e.routine e.client) ∧ t.frames = e.outer ∧
    m.next .step =
      some ⟨m.world.execute e.task e.handler e.routine e.client e.outer, some polling⟩ := by
  obtain ⟨t, ht, hid, hcontrol, hframes⟩ := h
  obtain ⟨expired, polls, hfind⟩ := exists_polling ht
  refine ⟨_, t, polls, hid, ht, hid ▸ hfind, hcontrol, hframes, ?_⟩
  rw [← polls]
  refine next_of_polled ht ?_
  simp only [World.step?, hfind, hcontrol, hframes]
  rw [hid]
  rfl

/-- The task of a call that has not begun is not inside of it. -/
theorem Begins.not_inside (h : m.Begins e) : ¬ m.Inside e := by
  rintro ⟨t', inner, frame, ht', hframes', -⟩
  obtain ⟨-, t, -, -, -, ht, -, hframes, -⟩ := h.world
  cases ht.symm.trans ht'
  exact frames_ne inner frame e.outer (hframes'.symm.trans hframes)

/-- A handler that does not admit operations refuses the call. -/
theorem Begins.refuses (h : m.Begins e) (hadmits : m.world.admits? e.handler = none) :
    m.Refuses e := by
  obtain ⟨polling, t, -, -, -, ht, -, -, hnext⟩ := h.world
  have hdeals : World.Deals (fun _ => True) 0 _ _ _ := World.deals_registerOperation m.world
    e.handler
  have hquiet : (m.world.registerOperation e.handler).2.contacts = m.world.contacts ∧
      (m.world.registerOperation e.handler).2.events = m.world.events ∧
      (m.world.registerOperation e.handler).2.handlers.map Handler.supplier =
        m.world.handlers.map Handler.supplier := by
    unfold World.registerOperation
    split
    next => exact ⟨rfl, rfl, rfl⟩
    next cell hcell =>
      have hsuppliers : ∀ change : Handler → Handler, (∀ cell, (change cell).supplier =
          cell.supplier) → (m.world.handlers.modify e.handler change).map Handler.supplier =
            m.world.handlers.map Handler.supplier := by
        intro change hchange
        refine List.ext_getElem? fun i => ?_
        simp only [List.getElem?_map, List.getElem?_modify]
        cases m.world.handlers[i]? with
        | none => rfl
        | some cell => by_cases heq : e.handler = i <;> simp [heq, hchange]
      dsimp only
      split <;> exact ⟨rfl, rfl, hsuppliers _ fun _ => rfl⟩
  rw [World.execute_eq, hadmits] at hnext
  exact ⟨_, { t with control := .reply (.error (.closed "ManagementChannelHandler"))
                     frames := e.outer }, hnext, World.task?_goto_of_deals hdeals ht _ _, rfl, rfl,
    hquiet⟩

/-- A handler that admits operations admits the call. -/
theorem Begins.admitted (h : m.Begins e) (hwatched : m.Watched e)
    (hadmits : m.world.admits? e.handler = some e.operation) (hnext : m.next .step = some after) :
    after.Followed e (m.follow after e .step .fresh) := by
  obtain ⟨polling, t, hpolling, htask, hpolled, ht, hcontrol, hframes, hnext'⟩ := h.world
  cases hnext.symm.trans hnext'
  have hdeals : World.Deals (fun _ => True) 0 _ _ _ := World.deals_registerOperation m.world
    e.handler
  have ht' : (m.world.execute e.task e.handler e.routine e.client e.outer).task? e.task =
      some { t with control := .call (.supply e.handler), frames := e.supplying :: e.outer } := by
    rw [World.execute_eq, hadmits]
    exact World.task?_goto_of_deals hdeals ht _ _
  obtain ⟨tracker, htracker, hnumber⟩ := Option.bind_eq_some_iff.1 hadmits
  obtain ⟨haccepting, hnumber⟩ : tracker.accepting = true ∧ tracker.nextId = e.operation := by
    split at hnumber
    next haccepting => exact ⟨haccepting, Option.some.inj hnumber⟩
    next => cases hnumber
  have hdeeds : m.deeds e.handler .step = [.accept] := by
    simp only [Moment.deeds, hpolled]
    rw [hcontrol]
    exact if_pos rfl
  -- nobody holds the ticket before it is given out
  have hfresh : e.operation ∉ World.held e.handler e.outer := by
    intro hheld
    rw [← hframes] at hheld
    have hmem := (hwatched.tracks.present htracker).2.subset
      (mem_tickets (World.task?_mem ht).1 hheld)
    exact absurd ((hwatched.tracks.present htracker).1.fresh hmem) (hnumber ▸ Nat.lt_irrefl _)
  have hentered : ∀ {kind}, e.Own kind → kind e.supplying = false → t.entered { t with
      control := .call (.supply e.handler), frames := e.supplying :: e.outer } kind = [] := by
    intro kind hkind hframe
    rw [Task.entered, hkind.any_cons _ hfresh, hframe]
    exact ite_self _
  have hfollow : m.follow
      ⟨m.world.execute e.task e.handler e.routine e.client e.outer, some polling⟩ e .step .fresh =
        .fresh := by
    have hpolled' : Moment.polled?
        ⟨m.world.execute e.task e.handler e.routine e.client e.outer, some polling⟩ = _ :=
      (congrArg (World.task? _) htask).trans ht'
    have hsees : e.sees t .fresh = .fresh :=
      Execution.sees_of_not_reply _ fun reply heq => by rw [hcontrol] at heq; cases heq
    rw [follow, hdeeds, notes_of_step hpolled hpolled', hsees, hentered e.own_isOpening rfl,
      hentered e.own_isRunning rfl]
    rfl
  rw [hfollow]
  refine .inl ⟨_, [], e.supplying, ht', rfl, .supplying rfl rfl rfl, rfl, tracker.after .accept,
    ?_, ?_⟩
  · rw [(next_turns hnext (Move.spares_step _)).tracker_eq htracker, hdeeds]
    rfl
  · show _ ∈ (tracker.after .accept).active
    rw [Tracker.accept_eq haccepting]
    exact List.mem_append_right _ (List.mem_singleton.2 (hnumber ▸ rfl))

/-- A call that was admitted is followed all along a run. -/
theorem Begins.followed (h : m.Begins e) (hwatched : m.Watched e)
    (hadmits : m.world.admits? e.handler = some e.operation)
    (hrun : m.run (move :: moves) = some last)
    (hspares : ∀ move' ∈ move :: moves, move'.Spares e.handler) :
    last.Followed e (m.fate e .fresh (move :: moves)) ∧ last.Watched e := by
  obtain ⟨after, hnext, hrest⟩ := Option.bind_eq_some_iff.1 hrun
  cases h.next_eq hnext
  simp only [Moment.fate, hnext]
  exact (h.admitted hwatched hadmits hnext).run (hwatched.next hnext (Move.spares_step _)) hrest
    fun move hmove => hspares move (List.mem_cons_of_mem _ hmove)

/-- What a call that executes an operation returns. If the handler does not admit operations any
more, the call is refused. Else its operation is called at most once, with the channel that the
source has delivered and not in a poll that has found a cancellation, and the call returns the
outcome of its fate. -/
theorem execute_outcome {suppliers : List Supplier} {before later : List Move}
    (hbefore : (startWith suppliers).run before = some m) (hlater : m.run later = some last)
    (hspares : ∀ move ∈ before ++ later, move.Spares e.handler) (hbegins : m.Begins e) :
    (m.world.admits? e.handler = none → m.Refuses e) ∧
      (m.world.admits? e.handler = some e.operation →
        (m.fate e .fresh later).Orderly e ∧
          ∀ {move after reply}, move.Spares e.handler → last.Answers after e move reply →
            (last.follow after e move (m.fate e .fresh later)).outcome = some reply) := by
  refine ⟨hbegins.refuses, fun hadmits => ?_⟩
  obtain ⟨hfit, htracks⟩ := (startWith_tracks suppliers e.handler).run
    (startWith_callsFit suppliers) hbefore
    fun move hmove => hspares move (List.mem_append_left _ hmove)
  have hwatched : m.Watched e := ⟨hfit, htracks⟩
  cases later with
  | nil =>
      cases hlater
      exact ⟨.inl ⟨rfl, rfl⟩, fun _ hanswers => absurd hanswers.inside hbegins.not_inside⟩
  | cons move later =>
      obtain ⟨hfollowed, hwatched'⟩ := hbegins.followed hwatched hadmits hlater fun move hmove =>
        hspares move (List.mem_append_right _ hmove)
      refine ⟨?_, fun hspare hanswers => (hfollowed.led hwatched' hanswers.next hspare).answers
        hanswers⟩
      rcases hfollowed with ⟨t, inner, frame, hlives⟩ | ⟨-, horderly⟩
      · exact hlives.stage.orderly
      · exact horderly

/-- An operation that waits forever on a handler that stands alone. -/
def pendingCall : Execution := ⟨0, 0, 1, ⟨[], [.pending]⟩, none, []⟩

/-- Up to the beginning of the call. -/
def pendingStart : List Move :=
  [.act (.start "operation" (.execute 0 ⟨[], [.pending]⟩ none)), .poll 0]

/-- The operation waits, and the handler is told to cancel it. -/
def pendingShutdown : List Move :=
  List.replicate 8 .step ++ [.expire, .rest, .act (.shutdownNow 0)]

def pendingBegin : Moment :=
  ((startWith [.plan [] 0]).run pendingStart).get (by decide +kernel)

def pendingEnd : Moment := (pendingBegin.run pendingShutdown).get (by decide +kernel)

theorem execute_outcome_of_shutdown :
    (startWith [.plan [] 0]).run pendingStart = some pendingBegin ∧
      pendingBegin.run pendingShutdown = some pendingEnd ∧
      (∀ move ∈ pendingStart ++ pendingShutdown, move.Spares pendingCall.handler) ∧
      pendingBegin.Begins pendingCall ∧
      ∃ after, pendingEnd.Answers after pendingCall (.poll 0)
          (.error (.cancelled "management client is closing")) ∧
        (pendingEnd.follow after pendingCall (.poll 0)
          (pendingBegin.fate pendingCall .fresh pendingShutdown)).outcome =
            some (.error (.cancelled "management client is closing")) := by
  have hbefore : (startWith [.plan [] 0]).run pendingStart = some pendingBegin :=
    (Option.some_get _).symm
  have hlater : pendingBegin.run pendingShutdown = some pendingEnd := (Option.some_get _).symm
  have hspares : ∀ move ∈ pendingStart ++ pendingShutdown, move.Spares pendingCall.handler := by
    decide +kernel
  have hbegins : pendingBegin.Begins pendingCall := ⟨_, rfl, rfl, rfl, rfl⟩
  have hanswers : pendingEnd.Answers ((pendingEnd.next (.poll 0)).get (by decide +kernel))
      pendingCall (.poll 0) (.error (.cancelled "management client is closing")) :=
    ⟨(Option.some_get _).symm, ⟨_, [], _, rfl, rfl, rfl⟩, _, rfl, rfl, rfl⟩
  refine ⟨hbefore, hlater, hspares, hbegins, _, hanswers, ?_⟩
  exact ((execute_outcome hbefore hlater hspares hbegins).2 rfl).2 (Move.spares_poll _ _) hanswers

/-- A factory that shuts the association down before it hands over the strategy. -/
def cancellingFactory : FactoryPlan :=
  { (default : FactoryPlan) with
    strategies := [{ (default : StrategyPlan) with onCreate := some .shutdownNow }] }

/-- An operation that gets its channel from a client with such a factory. -/
def cancelledCall : Execution := ⟨0, 0, 1, ⟨[], [.mark "x", .ret "v"]⟩, some 0, []⟩

def cancelledBegin : Moment :=
  (start.run [.build (.handling cancellingFactory) default,
    .act (.execute 0 "operation" ⟨[], [.mark "x", .ret "v"]⟩), .poll 0]).get (by decide +kernel)

/-- The operation has been called, and its body is about to run. -/
def cancelledEnd : Moment :=
  (cancelledBegin.run (List.replicate 15 .step)).get (by decide +kernel)

/-- A call that no cancellation had reached when its task was last polled, and whose channel was
delivered, need not return the result of its operation: the factory can cancel the operation in the
poll in which the channel is delivered. -/
theorem not_result_of_cancelling_factory :
    ¬ ∀ after reply, cancelledEnd.Answers after cancelledCall .step reply →
      let fate := cancelledEnd.follow after cancelledCall .step
        (cancelledBegin.fate cancelledCall .fresh (List.replicate 15 .step))
      fate.due = none → fate.channel.isSome → fate.result = some reply := by
  intro h
  have hanswers : cancelledEnd.Answers ((cancelledEnd.next .step).get (by decide +kernel))
      cancelledCall .step (.error (.cancelled "management client is closing")) :=
    ⟨(Option.some_get _).symm, ⟨_, [], _, rfl, rfl, rfl⟩, _, rfl, rfl, rfl⟩
  have hresult := h _ _ hanswers rfl rfl
  cases (show (none : Option Reply) = some _ from hresult)

end Remoting.Moment
