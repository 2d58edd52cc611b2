import Mathlib.Order.Bounds.Defs
import Remoting.Proofs.Draining
import Remoting.Proofs.Reporting

/-!
# How long a teardown waits for completion

A teardown that has told the association of its client to cancel all operations waits until these
have completed, but not beyond its time limit and not after it is interrupted. `Moment.Limits` lists
the times at which the wait is over, as far as a run has shown them. Time passes in a punctual run
only where no task gets on, and never past a time that a task waits for, so a task that is in the
wait has not missed any of these times, `Moment.Limited`. `completion_wait_bounded` is the result:
the wait ends at the earliest of them.
-/

namespace Remoting

namespace Duration

theorem le_deadline (duration : Duration) (now : Nat) : now ≤ duration.deadline now := by
  unfold deadline
  split <;> omega

end Duration

/-- The time at which a call returns that is made at a given time, if it returns at all. -/
def Behaviour.expiry (behaviour : Behaviour) (now : Nat) : Nat :=
  match behaviour.delay with
  | some ms => (Duration.ofMillis ms).deadline now
  | none => now

theorem Behaviour.le_expiry (behaviour : Behaviour) (now : Nat) : now ≤ behaviour.expiry now := by
  unfold expiry
  split
  · exact Duration.le_deadline _ now
  · exact Nat.le_refl now

/-- The wait for completion fails with a time limit where it has missed it, or was told that
operations are left. -/
theorem DrainEnding.failure?_eq_timeout {how : DrainEnding} {limit : Duration} {text : String} :
    how.failure? limit = some (.timeout text) ↔
      text = "operations still active after " ++ limit.describe ∧
        (how = .late ∨ how = .answered false) := by
  cases how with
  | late => simp [failure?, eq_comm]
  | answered completed => cases completed <;> simp [failure?, eq_comm]
  | panicked content => simp [failure?, Error.ofPanic]
  | _ => simp [failure?]

/-- Whether a collaborator takes its time inside of a frame, and nothing else happens there. -/
def Frame.collaborates : Frame → Bool
  | .behaviour _ | .completion _ => true
  | _ => false

namespace World

variable {w u : World} {td : Teardown} {plan : RecorderPlan} {expiry : Nat} {control : Control}
  {inner : List Frame} {client : ClientId}

/-- A teardown stays interrupted as long as its token stays cancelled. -/
theorem interrupted_of_subset (h : w.cancelled ⊆ u.cancelled) (hw : w.interrupted td = true) :
    u.interrupted td = true := by
  unfold interrupted at hw ⊢
  obtain ⟨token, htoken, hmem⟩ := (Option.any_eq_true _ _).1 hw
  rw [List.contains_iff_mem] at hmem
  exact (Option.any_eq_true _ _).2 ⟨token, htoken, List.contains_iff_mem.2 (h hmem)⟩

/-- A client keeps the time limit of its configuration. -/
theorem Lasts.completionTimeout (h : Lasts w u) {cell : ConfigCell}
    (hcell : w.configOf? client = some cell) :
    u.completionTimeout client = w.completionTimeout client := by
  obtain ⟨cell', hcell', hconfig, -⟩ := h.config hcell
  simp only [World.completionTimeout, hcell, hcell', hconfig]

/-- Where a recording association is that was asked whether its operations have completed, and that
returns, if at all, at a given time. -/
inductive Records (w : World) (plan : RecorderPlan) (expiry : Nat) : Control → List Frame → Prop
  | behaves {behaviour : Behaviour} (never : behaviour.never = plan.await.never)
      (until' : plan.await.never = false → behaviour.expiry w.now = expiry) :
      Records w plan expiry (.call (.behave behaviour)) [.completion plan.completed]
  | sleeps {behaviour : Behaviour} {deadline : Nat} (delay : behaviour.delay = none)
      (never : behaviour.never = plan.await.never)
      (until' : plan.await.never = false → deadline = expiry) :
      Records w plan expiry (.wait (.sleep deadline))
        [.behaviour behaviour, .completion plan.completed]
  | wakes {behaviour : Behaviour} {reply : Reply} (delay : behaviour.delay = none)
      (never : behaviour.never = plan.await.never)
      (now : plan.await.never = false → w.now = expiry) :
      Records w plan expiry (.reply reply) [.behaviour behaviour, .completion plan.completed]
  | hangs (never : plan.await.never = true) :
      Records w plan expiry (.wait .forever) [.completion plan.completed]
  | ends {ending : Ending} {control : Control} (returns : plan.await.never = false)
      (now : w.now = expiry) (ends : control = ending.control .unit) :
      Records w plan expiry control [.completion plan.completed]

end World

namespace Moment

variable {first m n after last : Moment} {move : Move} {moves earlier later : List Move} {t : Task}
  {td : Teardown} {task : TaskId} {x : Nat} {inner : List Frame} {control : Control}

/-! ## Punctual runs -/

/-- In a run time passes only where no task gets on, and not past a time that a task waits for. -/
def Punctual (m : Moment) (moves : List Move) : Prop :=
  ∀ before ms later n, moves = before ++ .pass ms :: later → m.run before = some n →
    n.Idle ∧ ∀ t ∈ n.world.tasks, ∀ x, .time x ∈ Schedule.watched t → n.world.now + ms ≤ x

theorem Punctual.of_append (h : first.Punctual (moves ++ later)) : first.Punctual moves :=
  fun before ms rest n heq hbefore =>
    h before ms (rest ++ later) n (by rw [heq, List.append_assoc, List.cons_append]) hbefore

/-- A run in which no time passes is punctual. -/
theorem punctual_of_still (h : ∀ ms, .pass ms ∉ moves) : first.Punctual moves := by
  rintro before ms later n rfl
  exact absurd (by simp) (h ms)

theorem punctual_pass {ms : Nat} (hidle : m.Idle)
    (hwatched : ∀ t ∈ m.world.tasks, ∀ x, .time x ∈ Schedule.watched t → m.world.now + ms ≤ x) :
    m.Punctual [.pass ms] := by
  intro before ms' later n heq hbefore
  obtain ⟨rfl, heq⟩ | ⟨before', -, heq⟩ := List.append_eq_cons_iff.1 heq.symm
  · cases heq
    cases hbefore
    exact ⟨hidle, hwatched⟩
  · exact absurd heq.symm (by simp)

/-- Punctual runs follow each other. -/
theorem Punctual.append (h : first.Punctual moves) (hrun : first.run moves = some m)
    (hlater : m.Punctual later) : first.Punctual (moves ++ later) := by
  intro before ms rest n heq hbefore
  rcases List.append_eq_append_iff.1 heq with ⟨before', rfl, rfl⟩ | ⟨rest', rfl, hrest⟩
  · rw [run_append, hrun] at hbefore
    exact hlater before' ms rest n rfl hbefore
  · cases rest' with
    | nil =>
        rw [List.append_nil, hbefore] at hrun
        cases hrun
        exact hlater [] ms rest m hrest.symm rfl
    | cons move rest' =>
        obtain ⟨rfl, rfl⟩ := List.cons.inj hrest
        exact h before ms rest' n rfl hbefore

/-- A run meets a moment. -/
def Meets (first : Moment) (moves : List Move) (n : Moment) : Prop :=
  ∃ before rest, moves = before ++ rest ∧ first.run before = some n

theorem meets_last (hrun : first.run moves = some m) : first.Meets moves m :=
  ⟨moves, [], (List.append_nil _).symm, hrun⟩

theorem Meets.snoc (h : first.Meets moves n) : first.Meets (moves ++ [move]) n := by
  obtain ⟨before, rest, rfl, hbefore⟩ := h
  exact ⟨before, rest ++ [move], by rw [List.append_assoc], hbefore⟩

/-- One more move meets one more moment. -/
theorem Meets.of_snoc (hrun : first.run (moves ++ [move]) = some after)
    (h : first.Meets (moves ++ [move]) n) : first.Meets moves n ∨ n = after := by
  obtain ⟨before, rest, heq, hbefore⟩ := h
  rcases List.eq_nil_or_concat rest with rfl | ⟨rest, last, rfl⟩
  · rw [List.append_nil] at heq
    rw [← heq, hrun] at hbefore
    exact .inr (Option.some.inj hbefore).symm
  · rw [List.concat_eq_append, ← List.append_assoc] at heq
    obtain ⟨rfl, -⟩ := List.append_inj' heq rfl
    exact .inl ⟨before, rest, rfl, hbefore⟩

/-- What a run has met lasts. -/
theorem Meets.lasts (h : first.Meets moves n) (hrun : first.run moves = some m) :
    World.Lasts n.world m.world := by
  obtain ⟨before, rest, rfl, hbefore⟩ := h
  rw [run_append, hbefore] at hrun
  exact run_lasts hrun

/-! ## Limits -/

/-- The time limit of the wait for completion that a teardown begins at a moment. -/
def limit (first : Moment) (td : Teardown) : Nat :=
  (first.world.completionTimeout td.client).deadline first.world.now

/-- The times at which the wait for completion is over that a teardown begins at a moment, as far as
a run from there shows them. -/
inductive Limits (first : Moment) (moves : List Move) (td : Teardown) : Nat → Prop
  /-- The time limit has passed. -/
  | timeout : Limits first moves td (first.limit td)
  /-- The teardown is interrupted. -/
  | interrupt {n : Moment} (meets : first.Meets moves n)
      (interrupted : n.world.interrupted td = true) : Limits first moves td n.world.now
  /-- The handler of the client has no operation left. -/
  | drained {n : Moment} {handler : HandlerId} {tracker : Tracker}
      (association : first.world.association? td.client = some (.handler handler))
      (meets : first.Meets moves n) (found : n.world.tracker? handler = some tracker)
      (count : tracker.count = 0) : Limits first moves td n.world.now
  /-- The recording association of the client returns or panics. -/
  | returned {plan : RecorderPlan}
      (association : first.world.association? td.client = some (.recorder plan))
      (returns : plan.await.never = false) :
      Limits first moves td (plan.await.expiry first.world.now)

theorem Limits.snoc (h : first.Limits moves td x) : first.Limits (moves ++ [move]) td x := by
  cases h with
  | timeout => exact .timeout
  | interrupt meets interrupted => exact .interrupt meets.snoc interrupted
  | drained association meets found count => exact .drained association meets.snoc found count
  | returned association returns => exact .returned association returns

/-- One more move shows no limit but the time after it. -/
theorem Limits.of_snoc (hrun : first.run (moves ++ [move]) = some after)
    (h : first.Limits (moves ++ [move]) td x) : first.Limits moves td x ∨ x = after.world.now := by
  cases h with
  | timeout => exact .inl .timeout
  | returned association returns => exact .inl (.returned association returns)
  | interrupt meets interrupted =>
      rcases meets.of_snoc hrun with hmeets | rfl
      · exact .inl (.interrupt hmeets interrupted)
      · exact .inr rfl
  | drained association meets found count =>
      rcases meets.of_snoc hrun with hmeets | rfl
      · exact .inl (.drained association hmeets found count)
      · exact .inr rfl

/-- No wait is over before it begins. -/
theorem Limits.le (h : first.Limits [] td x) : first.world.now ≤ x := by
  have hnow : ∀ {n}, first.Meets [] n → n = first := by
    rintro n ⟨before, rest, heq, hbefore⟩
    obtain ⟨rfl, -⟩ := List.append_eq_nil_iff.1 heq.symm
    exact (Option.some.inj hbefore).symm
  cases h with
  | timeout => exact Duration.le_deadline _ _
  | returned => exact Behaviour.le_expiry _ _
  | interrupt meets => exact Nat.le_of_eq (by rw [hnow meets])
  | drained association meets => exact Nat.le_of_eq (by rw [hnow meets])

/-! ## Where the wait is -/

/-- Where the task of a teardown is inside of its wait for completion. -/
inductive Waits (first : Moment) (moves : List Move) (td : Teardown) (w : World) :
    Control → List Frame → Prop
  | enters (now : w.now = first.world.now) :
      Waits first moves td w (.call (.awaitCompletion td.client)) []
  | records {plan : RecorderPlan} {control : Control} {inner : List Frame}
      (association : first.world.association? td.client = some (.recorder plan))
      (records : w.Records plan (plan.await.expiry first.world.now) control inner) :
      Waits first moves td w control inner
  | drains {handler : HandlerId}
      (association : first.world.association? td.client = some (.handler handler)) :
      Waits first moves td w (.wait (.drained handler (first.limit td))) []
  | answers {completed : Bool} (expiry : first.Limits moves td w.now) :
      Waits first moves td w (.reply (.ok (.flag completed))) []
  | panics {content : Panic} (expiry : first.Limits moves td w.now) :
      Waits first moves td w (.unwind content) []

/-- The wait stays where it is while its task does not go on, and the clock moves only while the
task waits. -/
theorem Waits.keep {w u : World} (h : first.Waits moves td w control inner)
    (hnow : u.now = w.now ∨ ∃ wait, control = .wait wait) :
    first.Waits (moves ++ [move]) td u control inner := by
  have hstill : (∀ wait, control ≠ .wait wait) → u.now = w.now := fun hcontrol =>
    hnow.resolve_right fun ⟨wait, heq⟩ => hcontrol wait heq
  cases h with
  | enters now => exact .enters ((hstill nofun).trans now)
  | drains association => exact .drains association
  | answers expiry => exact .answers (hstill nofun ▸ expiry.snoc)
  | panics expiry => exact .panics (hstill nofun ▸ expiry.snoc)
  | records association records =>
      refine .records association ?_
      cases records with
      | behaves never until' => exact .behaves never fun hreturns => hstill nofun ▸ until' hreturns
      | sleeps delay never until' => exact .sleeps delay never until'
      | wakes delay never now =>
          exact .wakes delay never fun hreturns => (hstill nofun).trans (now hreturns)
      | hangs never => exact .hangs never
      | @ends ending control returns now ends =>
          refine .ends returns ((hstill fun wait heq => ?_).trans now) ends
          cases ending <;> cases ends.symm.trans heq

theorem Waits.collaborates {w : World} (h : first.Waits moves td w control inner) :
    ∀ frame ∈ inner, frame.collaborates = true := by
  cases h with
  | records association records =>
      cases records with
      | sleeps | wakes => exact List.forall_mem_cons.2 ⟨rfl, List.forall_mem_singleton.2 rfl⟩
      | _ => exact List.forall_mem_singleton.2 rfl
  | _ => exact List.forall_mem_nil _

/-- Only the teardown itself is cut short in its wait for completion. -/
theorem Waits.cut? {w : World} (h : first.Waits moves td w control inner) (deadline : Nat) :
    w.cut? (inner ++ [.teardown td (.drain deadline)]) =
      if w.interrupted td then
        some ⟨inner, .teardown td (.drain deadline), .call (.teardown td .release), []⟩
      else none := by
  have hinside := h.collaborates
  clear h
  induction inner with
  | nil =>
      simp only [List.nil_append, World.cut?, World.cutShort?]
      split <;> rfl
  | cons frame inner ih =>
      obtain ⟨hframe, hinner⟩ := List.forall_mem_cons.1 hinside
      have hshort : w.cutShort? frame = none := by
        cases frame <;> first | rfl | cases hframe
      rw [List.cons_append, World.cut?, ih hinner, hshort]
      cases w.interrupted td <;> rfl

/-- What is known of the moment at which a teardown begins its wait for completion: its client has a
configuration and an association, and if that is a handler, it admits no operations any more. -/
structure Starts (first : Moment) (td : Teardown) (task : TaskId) : Prop where
  reachable : first.Reachable
  handed : .teardown task td ∈ first.world.history td.client
  configured : ∃ cell, first.world.configOf? td.client = some cell
  associated : ∃ association, first.world.association? td.client = some association
  refuses : ∀ {handler}, first.world.association? td.client = some (.handler handler) →
    ∃ tracker, first.world.tracker? handler = some tracker ∧ tracker.accepting = false

/-- Where a teardown is that has begun its wait for completion. As long as the wait goes on, none of
its limits has passed, and once it has ended, this is the time of the earliest one. -/
inductive Limited (first m : Moment) (moves : List Move) (td : Teardown) (task : TaskId) : Prop
  | enters {t : Task} (polled : m.polled? = some t) (id : t.id = task)
      (control : t.control = .call (.teardown td .drain)) (frames : t.frames = [])
      (now : m.world.now = first.world.now)
      (early : ∀ x, first.Limits moves td x → m.world.now ≤ x)
  | waits {t : Task} {inner : List Frame} (found : m.world.task? task = some t)
      (frames : t.frames = inner ++ [.teardown td (.drain (first.limit td))])
      (waits : first.Waits moves td m.world t.control inner)
      (goes : m.polled? = some t → m.world.interrupted td = false)
      (early : ∀ x, first.Limits moves td x → m.world.now ≤ x)
  | leaves {t : Task} (polled : m.polled? = some t) (id : t.id = task)
      (control : t.control = .call (.teardown td .release)) (frames : t.frames = [])
      (least : IsLeast {x | first.Limits moves td x} m.world.now)
  | left (released : .release ∈ m.world.history td.client)
  | gone (ended : m.world.HasEnded task)

/-- While the clock stands still, no limit passes. -/
theorem early_next (hrun : first.run moves = some m) (hnext : m.next move = some after)
    (hnow : after.world.now = m.world.now)
    (hearly : ∀ x, first.Limits moves td x → m.world.now ≤ x) (x : Nat)
    (hx : first.Limits (moves ++ [move]) td x) : m.world.now ≤ x := by
  rcases hx.of_snoc ((run_snoc hrun move).trans hnext) with hx | rfl
  · exact hearly x hx
  · exact Nat.le_of_eq hnow.symm

/-- A limit that is reached while the clock stands still is the earliest one. -/
theorem least_next (hrun : first.run moves = some m) (hnext : m.next move = some after)
    (hnow : after.world.now = m.world.now)
    (hearly : ∀ x, first.Limits moves td x → m.world.now ≤ x)
    (hover : first.Limits moves td m.world.now) :
    IsLeast {x | first.Limits (moves ++ [move]) td x} m.world.now :=
  ⟨hover.snoc, fun x hx => early_next hrun hnext hnow hearly x hx⟩

/-- The time limit of the configuration stays. -/
theorem Starts.completionTimeout (h : first.Starts td task) (hrun : first.run moves = some m) :
    m.world.completionTimeout td.client = first.world.completionTimeout td.client := by
  obtain ⟨cell, hcell⟩ := h.configured
  exact (run_lasts hrun).completionTimeout hcell

/-- A handler without operations has none from then on. -/
theorem Starts.count_eq_zero (h : first.Starts td task) (hrun : first.run moves = some m)
    {handler : HandlerId} {tracker : Tracker}
    (hassociation : first.world.association? td.client = some (.handler handler))
    (hmeets : first.Meets moves n) (hfound : n.world.tracker? handler = some tracker)
    (hcount : tracker.count = 0) :
    ∃ tracker', m.world.tracker? handler = some tracker' ∧ tracker'.count = 0 := by
  obtain ⟨before, rest, rfl, hbefore⟩ := hmeets
  obtain ⟨tracker₀, htracker₀, hrefuses⟩ := h.refuses hassociation
  obtain ⟨tracker₁, htracker₁, hwanes₁⟩ := (run_lasts hbefore).wanes htracker₀
  cases htracker₁.symm.trans hfound
  rw [run_append, hbefore] at hrun
  obtain ⟨tracker₂, htracker₂, hwanes₂⟩ := (run_lasts hrun).wanes hfound
  exact ⟨tracker₂, htracker₂, Nat.eq_zero_of_le_zero (hcount ▸ (hwanes₂ (hwanes₁ hrefuses).1).2)⟩

/-- Where no task gets on, the wait goes on until the earliest of its limits. -/
theorem Starts.watches (hstarts : first.Starts td task) (hrun : first.run moves = some m)
    (hidle : m.Idle) (found : m.world.task? task = some t)
    (frames : t.frames = inner ++ [.teardown td (.drain (first.limit td))])
    (waits : first.Waits moves td m.world t.control inner) (hx : first.Limits moves td x) :
    .time x ∈ Schedule.watched t ∧ m.world.now < x := by
  have hm : m.Reachable := hstarts.reachable.run hrun
  obtain ⟨hmem, rfl⟩ := World.task?_mem found
  obtain ⟨wait, hcontrol, hready, hcut, hdue⟩ := hidle.waits hm.fits hmem
  rw [frames, waits.cut?] at hcut
  rw [frames, World.overdue?_drain (hm.fits.inner_unheld hmem frames).2] at hdue
  rw [hcontrol] at waits
  cases hx with
  | timeout =>
      have hframe : Frame.teardown td (.drain (first.limit td)) ∈ t.frames := by simp [frames]
      refine ⟨List.mem_append_right _ (List.mem_flatMap_of_mem hframe (List.mem_cons_self ..)), ?_⟩
      split at hdue
      next => cases hdue
      next hlater => exact Nat.not_le.1 hlater
  | interrupt meets interrupted =>
      rw [if_pos (World.interrupted_of_subset (meets.lasts hrun).tokens interrupted)] at hcut
      cases hcut
  | @drained n handler tracker association meets hfound count =>
      cases waits with
      | records association' => cases association.symm.trans association'
      | drains association' =>
          cases association.symm.trans association'
          obtain ⟨tracker', htracker', hcount⟩ :=
            hstarts.count_eq_zero hrun association meets hfound count
          obtain ⟨cell, hcell, rfl⟩ := Option.map_eq_some_iff.1 htracker'
          simp [World.ready?, hcell, Tracker.drained?, hcount] at hready
  | @returned plan association returns =>
      cases waits with
      | records association' records =>
          cases association.symm.trans association'
          cases records with
          | sleeps delay never until' =>
              rw [← until' returns]
              refine ⟨List.mem_append_left _ ?_, ?_⟩
              · rw [hcontrol]
                exact List.mem_singleton_self _
              · rw [World.ready?] at hready
                split at hready
                next => cases hready
                next hlater => exact Nat.not_le.1 hlater
          | hangs never => cases returns.symm.trans never
          | @ends ending _ _ _ ends => cases ending <;> cases ends
      | drains association' => cases association.symm.trans association'

/-! ## Moves -/

/-- The teardown begins its wait, unless it is interrupted. -/
theorem Starts.enter (hrun : first.run moves = some m)
    (ht : m.polled? = some t) (hid : t.id = task)
    (hcontrol : t.control = .call (.teardown td .drain)) (hframes : t.frames = [])
    (hnow : m.world.now = first.world.now)
    (htimeout : m.world.completionTimeout td.client = first.world.completionTimeout td.client)
    (hearly : ∀ x, first.Limits moves td x → m.world.now ≤ x) (hnext : m.next move = some after) :
    first.Limited after (moves ++ [move]) td task := by
  obtain rfl := next_eq_step hnext ht fun wait heq => by cases hcontrol.symm.trans heq
  have hnow' : after.world.now = m.world.now := next_now hnext nofun
  have hearly' := early_next hrun hnext hnow' hearly
  have hleast := fun hover => least_next hrun hnext hnow' hearly hover
  clear hnow'
  subst hid
  obtain ⟨expired, polls, hfind⟩ := exists_polling ht
  obtain ⟨u, hstep, rfl⟩ := step_of_polled ht hnext
  rw [polls]
  simp only [World.step?, hfind, hcontrol, hframes, Option.some.injEq, World.makeCall,
    World.runStage] at hstep
  subst hstep
  split
  next hinterrupted =>
    refine .leaves (World.task?_goto_self hfind _ _) rfl rfl rfl (hleast ?_)
    exact .interrupt (meets_last hrun) hinterrupted
  next hinterrupted =>
    refine .waits (World.task?_goto_self hfind _ _) ?_ (.enters hnow)
      (fun _ => Bool.not_eq_true _ ▸ hinterrupted) hearly'
    rw [htimeout, hnow]
    rfl

/-- With a step of a recording association the association goes on, or it answers or panics at the
time at which it returns. -/
theorem recorder_goes {u : World} {plan : RecorderPlan} {expiry : Nat}
    (hfind : m.world.task? task = some t) {pause : Frame} (hframes : t.frames = inner ++ [pause])
    (hrecords : m.world.Records plan expiry t.control inner)
    (hover : plan.await.never = false → m.world.now ≤ expiry)
    (hstep : m.world.step? task = some u) :
    u.cancelled = m.world.cancelled ∧ ∃ t' inner', u.task? task = some t' ∧
      t'.frames = inner' ++ [pause] ∧
      (u.Records plan expiry t'.control inner' ∨
        plan.await.never = false ∧ m.world.now = expiry ∧ inner' = [] ∧
          ((∃ completed, t'.control = .reply (.ok (.flag completed))) ∨
            ∃ content, t'.control = .unwind content)) := by
  generalize hcontrol : t.control = control at hrecords
  simp only [World.step?, hfind, hcontrol, hframes] at hstep
  cases hrecords with
  | @behaves behaviour never until' =>
      simp only [Option.some.injEq, World.makeCall, World.behave] at hstep
      cases hdelay : behaviour.delay with
      | some ms =>
          simp only [hdelay] at hstep
          rw [← hstep]
          refine ⟨rfl, _, [.behaviour { behaviour with delay := none }, .completion plan.completed],
            World.task?_goto_self hfind _ _, rfl, .inl (.sleeps rfl never fun hreturns => ?_)⟩
          rw [← until' hreturns, Behaviour.expiry, hdelay]
          rfl
      | none =>
          simp only [hdelay] at hstep
          split at hstep
          next hnever =>
            rw [← hstep]
            exact ⟨rfl, _, [.completion plan.completed], World.task?_goto_self hfind _ _, rfl,
              .inl (.hangs (never.symm.trans hnever))⟩
          next hreturns =>
            rw [← hstep]
            have hreturns : plan.await.never = false := never ▸ Bool.eq_false_iff.2 hreturns
            have hnow := until' hreturns
            rw [Behaviour.expiry, hdelay] at hnow
            exact ⟨rfl, _, [.completion plan.completed], World.task?_goto_self hfind _ _, rfl,
              .inl (.ends hreturns hnow rfl)⟩
  | @sleeps behaviour deadline delay never until' =>
      obtain ⟨control, hready, heq⟩ := Option.map_eq_some_iff.1 hstep
      rw [World.ready?] at hready
      split at hready
      next hdue =>
        cases hready
        rw [← heq]
        refine ⟨rfl, _, [.behaviour behaviour, .completion plan.completed],
          World.task?_goto_self hfind _ _, rfl, .inl (.wakes delay never fun hreturns => ?_)⟩
        exact Nat.le_antisymm (hover hreturns) (until' hreturns ▸ hdue)
      next => cases hready
  | @wakes behaviour reply delay never now =>
      simp only [Option.some.injEq, List.cons_append, World.resume] at hstep
      rw [← hstep]
      refine ⟨rfl, _, [.completion plan.completed], World.task?_goto_self hfind _ _, rfl,
        .inl (.behaves never fun hreturns => ?_)⟩
      rw [Behaviour.expiry, delay]
      exact now hreturns
  | hangs never => cases hstep
  | @ends ending control returns now ends =>
      cases ending with
      | succeed | fail =>
          subst ends
          simp only [Ending.control, Option.some.injEq, List.cons_append, World.resume] at hstep
          rw [← hstep]
          exact ⟨rfl, _, [], World.task?_goto_self hfind _ _, rfl,
            .inr ⟨returns, now, rfl, .inl ⟨_, rfl⟩⟩⟩
      | panic content =>
          subst ends
          simp only [Ending.control, Option.some.injEq, List.cons_append, World.unwind] at hstep
          rw [← hstep]
          exact ⟨rfl, _, [], World.task?_goto_self hfind _ _, rfl,
            .inr ⟨returns, now, rfl, .inr ⟨_, rfl⟩⟩⟩

/-- A step of the teardown in its wait for completion. -/
theorem Starts.step (hstarts : first.Starts td task) (hrun : first.run moves = some m)
    (hpolled : m.polled? = some t) (hid : t.id = task)
    (hframes : t.frames = inner ++ [.teardown td (.drain (first.limit td))])
    (hwaits : first.Waits moves td m.world t.control inner)
    (hinterrupted : m.world.interrupted td = false)
    (hearly : ∀ x, first.Limits moves td x → m.world.now ≤ x)
    (hnext : m.next .step = some after) : first.Limited after (moves ++ [.step]) td task := by
  have hnow : after.world.now = m.world.now := next_now hnext nofun
  have hearly' := early_next hrun hnext hnow hearly
  have hleast := fun hover => least_next hrun hnext hnow hearly hover
  have htimeout := hstarts.completionTimeout hrun
  subst hid
  obtain ⟨expired, polls, hfind⟩ := exists_polling hpolled
  obtain ⟨u, hstep, rfl⟩ := step_of_polled hpolled hnext
  rw [polls]
  -- where the wait goes on, it is still not interrupted
  have hgoes : ∀ {t' : Task} {inner' : List Frame}, u.task? t.id = some t' →
      t'.frames = inner' ++ [.teardown td (.drain (first.limit td))] →
      u.cancelled = m.world.cancelled → first.Waits (moves ++ [.step]) td u t'.control inner' →
      first.Limited ⟨u, some ⟨t.id, expired⟩⟩ (moves ++ [.step]) td t.id := by
    intro t' inner' ht' hframes' hcancelled hwaits'
    refine .waits ht' hframes' hwaits' (fun _ => ?_) (hnow ▸ hearly')
    rw [← hinterrupted]
    exact World.interrupted_congr hcancelled td
  generalize hcontrol : t.control = control at hwaits
  cases hwaits with
  | enters now =>
      simp only [World.step?, hfind, hcontrol, hframes, Option.some.injEq, World.makeCall,
        World.awaitCompletion, List.nil_append] at hstep
      obtain ⟨association, hassociation⟩ := hstarts.associated
      rw [(run_lasts hrun).association hassociation] at hstep
      cases association with
      | handler handler =>
          have hlimit :
              (m.world.completionTimeout td.client).deadline m.world.now = first.limit td := by
            rw [htimeout, now]
            rfl
          rw [hlimit] at hstep
          subst hstep
          exact hgoes (World.task?_goto_self hfind _ _) rfl rfl (.drains hassociation)
      | recorder plan =>
          subst hstep
          refine hgoes (World.task?_goto_self hfind _ _)
            (show _ = [Frame.completion plan.completed] ++ [_] from rfl) rfl
            (.records hassociation (.behaves rfl fun _ => ?_))
          rw [← now]
          rfl
  | @records plan control inner association records =>
      have hover : plan.await.never = false → m.world.now ≤ plan.await.expiry first.world.now :=
        fun hreturns => hearly _ (.returned association hreturns)
      obtain ⟨hcancelled, t', inner', ht', hframes', hrecords | ⟨hreturns, hnow', rfl, hends⟩⟩ :=
        recorder_goes hfind hframes (hcontrol ▸ records) hover hstep
      · exact hgoes ht' hframes' hcancelled (.records association hrecords)
      · refine hgoes ht' hframes' hcancelled ?_
        have hdue : first.Limits (moves ++ [.step]) td u.now := by
          rw [show u.now = _ from hnow.trans hnow']
          exact .returned association hreturns
        rcases hends with ⟨completed, hreply⟩ | ⟨content, hpanic⟩
        · exact hreply ▸ .answers hdue
        · exact hpanic ▸ .panics hdue
  | @drains handler association =>
      simp only [World.step?, hfind, hcontrol] at hstep
      obtain ⟨control, hready, heq⟩ := Option.map_eq_some_iff.1 hstep
      obtain ⟨drained, hdrained, rfl⟩ := Option.map_eq_some_iff.1 hready
      obtain ⟨cell, hcell, hdrained⟩ := Option.bind_eq_some_iff.1 hdrained
      subst heq
      refine hgoes (World.task?_goto_self hfind _ _) hframes rfl (.answers ?_)
      show first.Limits _ td m.world.now
      unfold Tracker.drained? at hdrained
      split at hdrained
      next hcount =>
        refine .drained association (meets_last hrun).snoc ?_ hcount
        rw [World.tracker?, hcell, Option.map_some]
      next =>
        split at hdrained
        next hdue =>
          rw [Nat.le_antisymm (hearly _ .timeout) hdue]
          exact .timeout
        next => cases hdrained
  | @answers completed expiry =>
      simp only [World.step?, hfind, hcontrol, hframes, Option.some.injEq, World.resume,
        List.nil_append] at hstep
      subst hstep
      cases completed with
      | true => exact .leaves (World.task?_goto_self hfind _ _) rfl rfl rfl (hleast expiry)
      | false => exact .leaves (World.task?_goto_self hfind _ _) rfl rfl rfl (hleast expiry)
  | panics expiry =>
      simp only [World.step?, hfind, hcontrol, hframes, Option.some.injEq, World.unwind,
        List.nil_append] at hstep
      subst hstep
      exact .leaves (World.task?_goto_self hfind _ _) rfl rfl rfl (hleast expiry)

/-- A move of the teardown in its wait for completion. -/
theorem Starts.go (hstarts : first.Starts td task) (hrun : first.run moves = some m)
    (hfind : m.world.task? task = some t)
    (hframes : t.frames = inner ++ [.teardown td (.drain (first.limit td))])
    (hwaits : first.Waits moves td m.world t.control inner)
    (hgoes : m.polled? = some t → m.world.interrupted td = false)
    (hearly : ∀ x, first.Limits moves td x → m.world.now ≤ x)
    (hnext : m.next move = some after) (hactor : m.actor? move = some task) :
    first.Limited after (moves ++ [move]) td task := by
  obtain ⟨hmem, hid⟩ := World.task?_mem hfind
  have hfit : m.CallsFit := (hstarts.reachable.run hrun).fits
  cases move with
  | abort task' =>
      cases hactor
      exact .gone (hasEnded_of_abort hnext hfind)
  | poll task' =>
      cases hactor
      have hnow : after.world.now = m.world.now := next_now hnext nofun
      have hearly' := early_next hrun hnext hnow hearly
      have hleast := fun hover => least_next hrun hnext hnow hearly hover
      obtain ⟨-, rfl⟩ := next_poll hnext
      have hcut := hwaits.cut? (first.limit td)
      rw [← hframes] at hcut
      cases hinterrupted : m.world.interrupted td with
      | false =>
          rw [hinterrupted, if_neg (by decide)] at hcut
          rw [World.cutTask_eq_self hfind hcut]
          exact .waits hfind hframes (hwaits.keep (.inl rfl)) (fun _ => hinterrupted) hearly'
      | true =>
          rw [hinterrupted, if_pos rfl] at hcut
          exact .leaves (World.task?_cutTask hfind hcut) hid rfl rfl
            (hnow ▸ hleast (.interrupt (meets_last hrun) hinterrupted))
  | step =>
      obtain ⟨hpolled, -⟩ := step?_of_next (hid.symm ▸ hfind) (hid.symm ▸ hactor) hnext
      exact hstarts.step hrun hpolled hid hframes hwaits (hgoes hpolled) hearly hnext
  | expire =>
      have hnow : after.world.now = m.world.now := next_now hnext (by simp)
      have hearly' := early_next hrun hnext hnow hearly
      have hleast := fun hover => least_next hrun hnext hnow hearly hover
      obtain ⟨hpolling, -, rfl⟩ := expire_of_actor? hnext hactor
      have hpolled : m.polled? = some t := by rw [polled?, hpolling]; exact hfind
      have hdue := World.overdue?_drain (w := m.world) (hfit.inner_unheld hmem hframes).2 td
        (first.limit td) []
      rw [← hframes] at hdue
      by_cases hlimit : first.limit td ≤ m.world.now
      · rw [if_pos hlimit] at hdue
        have hover : first.Limits moves td m.world.now := by
          rw [Nat.le_antisymm (hearly _ .timeout) hlimit]
          exact .timeout
        exact .leaves (World.task?_expireDrain hfind hdue) hid rfl rfl (hnow ▸ hleast hover)
      · rw [if_neg hlimit] at hdue
        rw [World.expireDrain_eq_self hfind hdue]
        exact .waits hfind hframes (hwaits.keep (.inl rfl)) (fun _ => hgoes hpolled) hearly'
  | _ => cases hactor

/-- A move of the run that the teardown has begun its wait in. -/
theorem Limited.next (h : first.Limited m moves td task) (hstarts : first.Starts td task)
    (hrun : first.run moves = some m) (hnext : m.next move = some after)
    (hpunctual : ∀ ms, move = .pass ms → m.Idle ∧ ∀ t ∈ m.world.tasks, ∀ x,
      .time x ∈ Schedule.watched t → m.world.now + ms ≤ x) :
    first.Limited after (moves ++ [move]) td task := by
  have hm : m.Reachable := hstarts.reachable.run hrun
  cases h with
  | enters polled id control frames now early =>
      exact Starts.enter hrun polled id control frames now (hstarts.completionTimeout hrun) early
        hnext
  | @waits t inner found frames waits goes early =>
      by_cases hactor : m.actor? move = some task
      · exact hstarts.go hrun found frames waits goes early hnext hactor
      have hfind := next_task? hnext found hactor
      have hquiet : after.polled? = some t → after.world.interrupted td = false := by
        intro hpolled
        obtain ⟨polling, hpolling, ht⟩ := Option.bind_eq_some_iff.1 hpolled
        have hid := (World.task?_mem ht).2.symm.trans (World.task?_mem found).2
        exact absurd (hid ▸ next_polling hnext hpolling) hactor
      by_cases hpass : ∃ ms, move = .pass ms
      · -- time passes up to the next limit at most
        obtain ⟨ms, rfl⟩ := hpass
        obtain ⟨hidle, hwatched⟩ := hpunctual ms rfl
        obtain ⟨hmem, rfl⟩ := World.task?_mem found
        obtain ⟨wait, hcontrol, -⟩ := hidle.waits hm.fits hmem
        refine .waits hfind frames (waits.keep (.inr ⟨wait, hcontrol⟩)) hquiet fun x hx => ?_
        rcases hx.of_snoc ((run_snoc hrun _).trans hnext) with hx | rfl
        · have hlater := hwatched t hmem x (hstarts.watches hrun hidle found frames waits hx).1
          cases next_transition hnext
          exact hlater
        · exact Nat.le_refl _
      · have hnow : after.world.now = m.world.now :=
          next_now hnext fun ms heq => hpass ⟨ms, heq⟩
        exact .waits hfind frames (waits.keep (.inl hnow)) hquiet
          (hnow ▸ early_next hrun hnext hnow early)
  | @leaves t polled id control frames least =>
      -- the configuration is released
      obtain rfl := next_eq_step hnext polled fun wait heq => by cases control.symm.trans heq
      obtain ⟨u, hstep, rfl⟩ := step_of_polled polled hnext
      simp only [World.step?, polled?_task? polled, control, Option.some.injEq] at hstep
      subst hstep
      obtain ⟨association, hassociation⟩ := hstarts.associated
      obtain ⟨c, hc, -⟩ := Option.map_eq_some_iff.1 ((run_lasts hrun).association hassociation)
      refine .left (World.mem_history.2 ?_)
      show (td.client, Contact.release) ∈ (m.world.releaseForTeardown td.client).contacts
      rw [(World.quiet_releaseForTeardown hc).contacts]
      exact List.mem_append_right _ (List.mem_singleton_self _)
  | left released =>
      exact .left (World.mem_history.2
        ((hm.fits.next hnext).grows.mem (World.mem_history.1 released)))
  | gone ended => exact .gone ((next_lasts hnext).ended ended)

/-- At the end of a punctual run from the moment at which a teardown has begun its wait. -/
theorem Starts.limited (hstarts : first.Starts td task) (ht : first.polled? = some t)
    (hid : t.id = task) (hcontrol : t.control = .call (.teardown td .drain))
    (hframes : t.frames = []) (hrun : first.run moves = some last)
    (hpunctual : first.Punctual moves) :
    first.Limited last moves td task := by
  refine run_history_induction (P := fun moves last => first.Punctual moves →
    first.Limited last moves td task)
    (fun _ => .enters ht hid hcontrol hframes rfl fun x hx => hx.le)
    (fun {moves m move after} hrun ih hnext hpunctual => ?_) hrun hpunctual
  refine (ih fun before ms later n heq hbefore => ?_).next hstarts hrun hnext fun ms heq =>
    hpunctual moves ms [] m (by rw [heq]) hrun
  exact hpunctual before ms (later ++ [move]) n (by rw [heq]; simp) hbefore

/-! ## The result -/

/-- A task of a teardown that has yet to end its wait for completion, or the release after it, has
not released the configuration. -/
theorem Drives.not_released {due : TeardownStep} (hdrives : m.Drives td move t due)
    (hm : m.CallsFit) (hdue : due = .awaitCompletion ∨ due = .releaseConfiguration) :
    .release ∉ m.world.history td.client := by
  have hok := hm.taskOk (World.task?_mem hdrives.found).1
  cases hdrives.reaches with
  | @stage stage control frames =>
      have hheld := hok.callHolds (show t.control.hold? = _ by rw [control]; rfl)
      cases stage with
      | drain =>
          refine hm.not_released hheld fun {calls} (hcalls : calls = _) hrelease => ?_
          rw [hcalls] at hrelease
          exact td.release_not_mem false (List.mem_append_left _ hrelease)
      | release =>
          refine hm.not_released hheld fun {calls} ⟨skipped, (hcalls : calls = _)⟩ => ?_
          rw [hcalls]
          exact td.release_not_mem skipped
      | _ => rcases hdue with hdue | hdue <;> cases hdue
  | @pause inner pause frames =>
      have hheld := hok.frameHolds
        (show Frame.teardown td pause ∈ t.frames by simp [frames]) rfl
      cases pause with
      | drain deadline =>
          refine hm.not_released hheld fun {calls} (hcalls : calls = _) => ?_
          rw [hcalls]
          exact td.release_not_mem false
      | _ => rcases hdue with hdue | hdue <;> cases hdue
  | done => rcases hdue with hdue | hdue <;> cases hdue

/-- The task of a teardown makes the moves of its polls. -/
theorem Drives.eq_polled {due : TeardownStep} {t' : Task} (h : m.Drives td move t due)
    (hactor : m.actor? move = m.polling.map Polling.task) (ht' : m.polled? = some t') : t' = t := by
  have hid : t'.id = t.id :=
    Option.some.inj ((of_polled? ht').2.symm.trans (hactor.symm.trans h.actor))
  exact Option.some.inj ((polled?_task? ht').symm.trans (hid ▸ h.found))

/-- The configuration is released at the earliest of the limits. -/
theorem Limited.least_of_release (h : first.Limited m moves td task)
    (hstarts : first.Starts td task) (hrun : first.run moves = some m) (ht : m.polled? = some t)
    (hcontrol : t.control = .call (.teardown td .release)) :
    IsLeast {x | first.Limits moves td x} m.world.now := by
  have hm : m.CallsFit := (hstarts.reachable.run hrun).fits
  have hdrives : m.Drives td .step t .releaseConfiguration := .of_stage hm ht rfl hcontrol
  have hhanded := (hstarts.reachable.grows hrun).mem (World.mem_history.1 hstarts.handed)
  obtain ⟨hid, -⟩ := hm.handed_unique (World.mem_history.2 hhanded) hdrives.handed
  cases h with
  | enters polled id control =>
      cases ht.symm.trans polled
      cases hcontrol.symm.trans control
  | waits found frames =>
      cases (hid ▸ hdrives.found).symm.trans found
      cases hdrives.reaches.unique (.pause frames)
  | leaves polled id control frames least => exact least
  | left released => exact absurd released (hdrives.not_released hm (.inr rfl))
  | gone ended => exact absurd ended (hm.not_hasEnded (hid ▸ hdrives.found))

/-- The wait ends at the earliest of its limits, and by the interrupt just where the teardown is
interrupted. -/
theorem Limited.of_endsDrain (h : first.Limited m moves td task) (hstarts : first.Starts td task)
    (hrun : first.run moves = some m) (hnext : m.next move = some after) {how : DrainEnding}
    (hends : m.EndsDrain td move how) :
    IsLeast {x | first.Limits moves td x} m.world.now ∧
      (m.world.interrupted td = true ↔ how = .skipped ∨ how = .interrupted) := by
  have hm : m.CallsFit := (hstarts.reachable.run hrun).fits
  obtain ⟨t, hdrives | ⟨-, heq, -⟩⟩ := (Concludes.awaitCompletion hends).drives hm
  rotate_left
  · cases heq
  have hhanded := (hstarts.reachable.grows hrun).mem (World.mem_history.1 hstarts.handed)
  obtain ⟨hid, -⟩ := hm.handed_unique (World.mem_history.2 hhanded) hdrives.handed
  have hover : m.world.interrupted td = true → first.Limits moves td m.world.now :=
    fun hinterrupted => .interrupt (meets_last hrun) hinterrupted
  -- either the wait has not been entered yet, and is skipped, or the teardown is in it
  cases h with
  | @enters t' polled id control frames now early =>
      obtain rfl := next_eq_step hnext polled fun wait heq => by cases control.symm.trans heq
      cases hends with
      | skipped found control' interrupted =>
          exact ⟨⟨hover interrupted, early⟩, by simp [interrupted]⟩
      | answered found frames' | panicked found frames' =>
          cases polled.symm.trans found
          cases frames.symm.trans frames'
  | @waits t' inner found frames waits goes early =>
      cases (hid ▸ hdrives.found).symm.trans found
      cases hends with
      | skipped polled control =>
          cases hdrives.eq_polled rfl polled
          have hnil := frames.symm.trans (hm.frames_of_stage (World.task?_mem found).1 control)
          exact absurd hnil (List.append_ne_nil_of_right_ne_nil _ (List.cons_ne_nil _ _))
      | interrupted _ _ interrupted =>
          exact ⟨⟨hover interrupted, early⟩, by simp [interrupted]⟩
      | answered polled frames' control' | panicked polled frames' control' =>
          cases hdrives.eq_polled rfl polled
          have hsplit : inner ++ [_] = [] ++ [_] := frames.symm.trans frames'
          obtain ⟨rfl, -⟩ := List.append_inj' hsplit rfl
          rw [control'] at waits
          refine ⟨⟨?_, early⟩, by simp [goes polled]⟩
          cases waits with
          | records _ records => cases records
          | _ => assumption
      | late polled frames' due =>
          cases hdrives.eq_polled rfl polled
          obtain ⟨-, heq⟩ := List.append_inj' (frames.symm.trans frames') rfl
          cases heq
          refine ⟨⟨?_, early⟩, by simp [goes polled]⟩
          have hnow : m.world.now = first.limit td := Nat.le_antisymm (early _ .timeout) due
          show first.Limits moves td m.world.now
          rw [hnow]
          exact .timeout
  | @leaves t' polled id control frames least =>
      cases (hid ▸ hdrives.found).symm.trans (id ▸ polled?_task? polled)
      cases hdrives.reaches.unique (.stage control frames)
  | left released => exact absurd released (hdrives.not_released hm (.inl rfl))
  | gone ended => exact absurd ended (hm.not_hasEnded (hid ▸ hdrives.found))

/-- The association of a client has returned from being told to cancel all operations, and the
teardown of the client is about to wait for completion. -/
structure BeginsDrain (m first : Moment) (td : Teardown) (task : TaskId) : Prop where
  next : m.next .step = some first
  tells : ∃ t, m.polled? = some t ∧ t.id = task ∧ t.control = .call (.teardown td .shutdownNow)

/-- A handler that was told to cancel all operations admits none. -/
theorem BeginsDrain.refuses (h : m.BeginsDrain first td task) (hm : m.Reachable)
    {handler : HandlerId}
    (hassociation : m.world.association? td.client = some (.handler handler)) :
    ∃ tracker, first.world.tracker? handler = some tracker ∧ tracker.accepting = false := by
  obtain ⟨tracker, htracker⟩ := hm.exists_tracker hassociation
  have hcancels : m.Cancels first handler td task := ⟨h.next, h.tells⟩
  have htracker' := (next_turns h.next (Move.spares_step handler)).tracker_eq htracker
  rw [hcancels.deeds hassociation] at htracker'
  exact ⟨_, htracker', (World.wanes_after (tracker.after .stop) (.cancel .closing) rfl).1⟩

theorem BeginsDrain.starts (h : m.BeginsDrain first td task) (hm : m.Reachable) {cell : ConfigCell}
    (hconfig : first.world.configOf? td.client = some cell) :
    first.Starts td task ∧ ∃ t, first.polled? = some t ∧ t.id = task ∧
      t.control = .call (.teardown td .drain) ∧ t.frames = [] := by
  obtain ⟨t, ht, rfl, hcontrol⟩ := h.tells
  have hmem := (World.task?_mem (polled?_task? ht)).1
  have hheld := (hm.fits.taskOk hmem).callHolds
    (show t.control.hold? = _ by rw [hcontrol]; rfl)
  obtain ⟨-, ⟨outcome, hstate⟩, hhanded, -⟩ := hheld
  obtain ⟨c, hc, -⟩ := World.state?_eq_some.1 hstate
  have hassociation : m.world.association? td.client = some c.association := by
    rw [World.association?, hc, Option.map_some]
  have hassociation' := (next_lasts h.next).association hassociation
  refine ⟨⟨hm.next h.next, ?_, ⟨cell, hconfig⟩, ⟨_, hassociation'⟩, fun {handler} hhandler => ?_⟩,
    _, polled?_of_shutdownNow ht hcontrol (hm.fits.frames_of_stage hmem hcontrol) h.next, rfl, rfl,
    rfl⟩
  · exact World.mem_history.2 ((hm.fits.next h.next).grows.mem (World.mem_history.1 hhanded))
  · rw [Option.some.inj (hassociation'.symm.trans hhandler)] at hassociation
    exact h.refuses hm hassociation

/-- The wait for completion is concluded by its end. -/
theorem Concludes.endsDrain {failure : Option Error}
    (h : m.Concludes td move .awaitCompletion failure) :
    ∃ how, m.EndsDrain td move how ∧
      failure = how.failure? (m.world.completionTimeout td.client) := by
  cases h with
  | awaitCompletion ends => exact ⟨_, ends, rfl⟩

/-- A time limit is logged where the wait has missed it or was told that operations are left. -/
theorem BeginsDrain.logs (h : m.BeginsDrain first td task) (hearlier : start.run earlier = some m)
    {cell : ConfigCell} (hconfig : first.world.configOf? td.client = some cell)
    (hlater : first.run later = some last) (text : String) :
    (.awaitCompletion, .timeout text) ∈ last.world.tolerated td.client ↔
      text = "operations still active after " ++ cell.config.completionTimeout.describe ∧
      ∃ before move rest n how, later = before ++ move :: rest ∧ first.run before = some n ∧
        n.EndsDrain td move how ∧ (how = .late ∨ how = .answered false) := by
  obtain ⟨hstarts, t, ht, rfl, hcontrol, hframes⟩ := h.starts ⟨earlier, hearlier⟩ hconfig
  have hfirst : start.run (earlier ++ [.step]) = some first := (run_snoc hearlier _).trans h.next
  have hfull := run_trans hfirst hlater
  have htimeout : ∀ {before n}, first.run before = some n →
      n.world.completionTimeout td.client = cell.config.completionTimeout := fun hbefore => by
    rw [hstarts.completionTimeout hbefore, World.completionTimeout, hconfig]
  rw [(reports_run hfull).told]
  constructor
  · rintro ⟨td', hclient, hended⟩
    obtain ⟨task', hhanded'⟩ := hended.handed hfull
    have hhanded := (hstarts.reachable.grows hlater).mem (World.mem_history.1 hstarts.handed)
    rw [hclient] at hhanded'
    obtain ⟨-, rfl⟩ :=
      (Reachable.fits ⟨_, hfull⟩).handed_unique (World.mem_history.2 hhanded) hhanded'
    -- the wait has not ended before it has begun
    have hnot : ∀ failure, ¬ StepEnded (earlier ++ [.step]) td' .awaitCompletion failure := by
      intro failure hbefore
      obtain ⟨due, hreaches, hdone⟩ := stands_run hfirst hstarts.handed (polled?_task? ht)
      obtain rfl := hreaches.unique (.stage hcontrol hframes)
      exact absurd ((hdone .awaitCompletion).1 ⟨failure, hbefore⟩).2 (by decide)
    obtain ⟨before, move, rest, n, heq, hbefore, hends⟩ := hended
    rcases List.append_eq_append_iff.1 heq with ⟨before', rfl, rfl⟩ | ⟨rest', heq', hrest⟩
    · rw [run_append, hfirst] at hbefore
      obtain ⟨how, ends, hfailure⟩ := hends.endsDrain
      rw [htimeout hbefore] at hfailure
      obtain ⟨rfl, hhow⟩ := DrainEnding.failure?_eq_timeout.1 hfailure.symm
      exact ⟨rfl, before', move, rest, n, how, rfl, hbefore, ends, hhow⟩
    · cases rest' with
      | nil =>
          obtain rfl : later = move :: rest := hrest.symm
          rw [List.append_nil] at heq'
          rw [← heq', hfirst] at hbefore
          obtain rfl := Option.some.inj hbefore
          obtain ⟨how, ends, hfailure⟩ := hends.endsDrain
          rw [htimeout (show first.run [] = some first from rfl)] at hfailure
          obtain ⟨rfl, hhow⟩ := DrainEnding.failure?_eq_timeout.1 hfailure.symm
          exact ⟨rfl, [], move, rest, first, how, rfl, rfl, ends, hhow⟩
      | cons move' rest' =>
          obtain ⟨rfl, -⟩ := List.cons.inj hrest
          exact absurd ⟨before, move, rest', n, heq', hbefore, hends⟩ (hnot _)
  · rintro ⟨rfl, before, move, rest, n, how, rfl, hbefore, hends, hhow⟩
    refine ⟨td, rfl, (earlier ++ [.step]) ++ before, move, rest, n, by simp,
      run_trans hfirst hbefore, ?_⟩
    have hconcludes := Concludes.awaitCompletion hends
    rw [htimeout hbefore] at hconcludes
    rcases hhow with rfl | rfl <;> exact hconcludes

/-- As long as the wait goes on and no task gets on, none of its limits has passed. -/
theorem Limited.early_of_idle (h : first.Limited m moves td task) (hstarts : first.Starts td task)
    (hrun : first.run moves = some m) (hidle : m.Idle)
    (hreleased : .release ∉ m.world.history td.client) (hended : ¬ m.world.HasEnded task)
    (hx : first.Limits moves td x) : m.world.now < x := by
  have hpolled : m.polled? = none := by rw [polled?, hidle.1, Option.bind_none]
  cases h with
  | enters polled | leaves polled => cases hpolled.symm.trans polled
  | waits found frames waits => exact (hstarts.watches hrun hidle found frames waits hx).2
  | left released => exact absurd released hreleased
  | gone ended => exact absurd ended hended

/-- A teardown whose association has returned from being told to cancel all operations waits for
their completion. In a punctual run from there the configuration is released at the earliest of
these times: the time limit of the configuration, the time at which the teardown is interrupted, and
the time at which the association returns or panics. Where no task gets on, the wait is over unless
all of them are still to come. It is ended by the interrupt just where the teardown is interrupted
at the move that ends it, and a time limit is logged just where the wait has missed it, or was told
that operations are left. -/
theorem completion_wait_bounded {cell : ConfigCell} (hearlier : start.run earlier = some m)
    (hbegins : m.BeginsDrain first td task) (hconfig : first.world.configOf? td.client = some cell)
    (hlater : first.run later = some last) (hpunctual : first.Punctual later) :
    (∀ failure, last.Concludes td .step .releaseConfiguration failure →
      IsLeast {x | first.Limits later td x} last.world.now) ∧
    (last.Idle → .release ∉ last.world.history td.client → ¬ last.world.HasEnded task →
      ∀ x, first.Limits later td x → last.world.now < x) ∧
    (∀ before move rest n how, later = before ++ move :: rest → first.run before = some n →
      n.EndsDrain td move how →
        IsLeast {x | first.Limits before td x} n.world.now ∧
          (n.world.interrupted td = true ↔ how = .skipped ∨ how = .interrupted)) ∧
    ∀ text, (.awaitCompletion, .timeout text) ∈ last.world.tolerated td.client ↔
      text = "operations still active after " ++ cell.config.completionTimeout.describe ∧
      ∃ before move rest n how, later = before ++ move :: rest ∧ first.run before = some n ∧
        n.EndsDrain td move how ∧ (how = .late ∨ how = .answered false) := by
  obtain ⟨hstarts, t, ht, hid, hcontrol, hframes⟩ := hbegins.starts ⟨earlier, hearlier⟩ hconfig
  have hlimited : ∀ {moves n}, first.run moves = some n → first.Punctual moves →
      first.Limited n moves td task :=
    fun hrun hpunctual => hstarts.limited ht hid hcontrol hframes hrun hpunctual
  refine ⟨fun failure hreleases => ?_, fun hidle hreleased hended x hx => ?_,
    fun before move rest n how heq hbefore hends => ?_, hbegins.logs hearlier hconfig hlater⟩
  · cases hreleases with
    | releaseConfiguration found control =>
        exact (hlimited hlater hpunctual).least_of_release hstarts hlater found control
  · exact (hlimited hlater hpunctual).early_of_idle hstarts hlater hidle hreleased hended hx
  · subst heq
    have hrest : n.run (move :: rest) = some last := by rwa [run_append, hbefore] at hlater
    obtain ⟨after, hnext, -⟩ := Option.bind_eq_some_iff.1 hrest
    exact (hlimited hbefore hpunctual.of_append).of_endsDrain hstarts hbefore hnext hends

/-- A client whose association takes half a second to end its operations, and that does not wait
this long. -/
def slowClient : ClientSpec where
  config := .own { (default : Config) with
    host := "localhost", endpointName := "management", completionTimeout := .ofMillis 200 }
  disposers := []
  recorder := some { (default : RecorderPlan) with await := ⟨some 500, false, .succeed⟩ }
  factory := default

/-- The client is closed, and its teardown gets as far as the cancellation of its operations. -/
def slowClose : List Move :=
  [.build slowClient default, .act (.close 0 "close" none)] ++ Move.pollAll 0 3 0 ++
    .poll 1 :: List.replicate 3 .step

/-- The moment after these moves. -/
def cancelling : Moment := (start.run slowClose).get (by decide +kernel)

/-- The moment after that, from which on the teardown waits. -/
def waiting : Moment := (cancelling.next .step).get (by decide +kernel)

/-- The teardown waits until no task gets on. -/
def slowWait : List Move := [.step, .step, .step, .expire, .rest]

/-- The moment at which the time begins to pass. -/
def paused : Moment := (waiting.run slowWait).get (by decide +kernel)

/-- The time limit passes. -/
def slowEnd : List Move := [.poll 1, .expire]

/-- The moment at which the configuration is to be released. -/
def overtime : Moment :=
  (waiting.run (slowWait ++ ([.pass 200] ++ slowEnd))).get (by decide +kernel)

theorem completion_wait_bounded_of_slow_client :
    start.run slowClose = some cancelling ∧
      cancelling.BeginsDrain waiting ⟨0, none, none, none⟩ 1 ∧
      waiting.Punctual (slowWait ++ ([.pass 200] ++ slowEnd)) ∧
      IsLeast {x | waiting.Limits (slowWait ++ ([.pass 200] ++ slowEnd)) ⟨0, none, none, none⟩ x}
        200 ∧
      (.awaitCompletion, .timeout "operations still active after 200ms") ∈
        overtime.world.tolerated 0 := by
  have hrun : start.run slowClose = some cancelling := (Option.some_get _).symm
  have hbegins : cancelling.BeginsDrain waiting ⟨0, none, none, none⟩ 1 :=
    ⟨(Option.some_get _).symm, _, rfl, rfl, rfl⟩
  have hpaused : waiting.run slowWait = some paused := (Option.some_get _).symm
  have hovertime : waiting.run (slowWait ++ ([.pass 200] ++ slowEnd)) = some overtime :=
    (Option.some_get _).symm
  have htasks : paused.world.tasks =
      [⟨0, .wait (.join 1), [.closeJoin 0], some 0, none⟩,
        ⟨1, .wait (.sleep 500), [.behaviour ⟨none, false, .succeed⟩, .completion true,
          .teardown ⟨0, none, none, none⟩ (.drain 200)], none, none⟩] := rfl
  have hpass : paused.Punctual [.pass 200] := by
    refine punctual_pass ⟨rfl, fun t ht => ?_⟩ fun t ht x hx => ?_
    · rw [htasks] at ht
      rcases List.mem_pair.1 ht with rfl | rfl <;> rfl
    · rw [htasks] at ht
      show 0 + 200 ≤ x
      rcases List.mem_pair.1 ht with rfl | rfl <;>
        simp [Schedule.watched, Schedule.watchedByWait, Schedule.watchedByFrame] at hx
      omega
  have hpunctual : waiting.Punctual (slowWait ++ ([.pass 200] ++ slowEnd)) :=
    (punctual_of_still (by simp [slowWait])).append hpaused
      (hpass.append rfl (punctual_of_still (by simp [slowEnd])))
  obtain ⟨hleast, -, -, hlogs⟩ := completion_wait_bounded hrun hbegins rfl hovertime hpunctual
  refine ⟨hrun, hbegins, hpunctual, hleast _ (.releaseConfiguration rfl rfl), (hlogs _).2 ⟨?_, ?_⟩⟩
  · decide +kernel
  · -- the association has not woken up yet
    have hframes : [Frame.behaviour ⟨none, false, .succeed⟩, .completion true,
        .teardown ⟨0, none, none, none⟩ (.drain 200)] =
        [.behaviour ⟨none, false, .succeed⟩, .completion true] ++
          [.teardown ⟨0, none, none, none⟩ (.drain 200)] := rfl
    exact ⟨slowWait ++ [.pass 200, .poll 1], .expire, [], _, .late, rfl, rfl,
      .late rfl hframes (Nat.le_refl 200), .inl rfl⟩

end Moment

end Remoting
