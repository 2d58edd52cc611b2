import Mathlib.Data.List.Basic
import Remoting.Config.Release

/-!
# The cleanup actions of a configuration

A configuration and its clones share one `Release`, so what is done with them from outside is one
list of uses. The main statement is that the accepted actions run once each, in the order of their
acceptance, inside the first release. Before it nothing runs and every action is accepted; from its
start on no action is accepted, and every other release, also one that a running action asks for,
does nothing. How deep releases inside actions may nest makes no difference.
-/

namespace Remoting

/-- The failure with which a cleanup action ends, if it fails. -/
def Disposer.failure? (disposer : Disposer) : Option Error :=
  match disposer.ending with
  | .succeed => none
  | .fail error => some error
  | .panic content => some (.other ("panicked: " ++ content.message))

namespace Release

/-- What is done with a configuration, or with a clone of it, from outside. -/
inductive Use where
  | add (disposer : Disposer)
  | release

/-- Whether a use is a release. -/
def Use.isRelease : Use → Bool
  | .add _ => false
  | .release => true

/-- The action that a use adds. -/
def Use.disposer? : Use → Option Disposer
  | .add disposer => some disposer
  | .release => none

/-- What a use has brought: its result, and what has happened meanwhile. -/
structure Report where
  result : Except Error Unit
  events : List Event

/-- Uses a configuration; releases inside actions may nest to the given depth. -/
def use (depth : Nat) (release : Release) : Use → Result
  | .add disposer => release.add disposer
  | .release => release.runNested (depth + 1)

/-- Uses a configuration several times and reports on each use. -/
def useAll (depth : Nat) : Release → List Use → List Report
  | _, [] => []
  | release, first :: rest =>
    let done := release.use depth first
    ⟨done.result, done.events⟩ :: useAll depth done.after rest

/-- The name of the action that an event says to run. -/
def Event.ran? : Event → Option String
  | .ran id => some id
  | _ => none

/-- What a running action is told when it uses the configuration: a release does nothing, no action
is accepted, and the configuration is released. -/
def Event.Idle : Event → Prop
  | .ran _ => True
  | .released result => result = .ok ()
  | .added result => result = .error (.closed "ClientConfig")
  | .state told => told = true

/-- What a step of a running action brings. -/
def echo : Disposer.Step Disposer → Event
  | .release => .released (.ok ())
  | .add _ => .added (.error (.closed "ClientConfig"))
  | .state => .state true

/-- What the run of an action brings. -/
def account (disposer : Disposer) : List Event :=
  .ran disposer.id :: disposer.steps.map echo

/-- The earliest failure of some actions. -/
def outcome (disposers : List Disposer) : Except Error Unit :=
  match disposers.findSome? Disposer.failure? with
  | some error => .error error
  | none => .ok ()

/-- The resources of a configuration that is released. -/
def gone : Release := ⟨[], true⟩

/-- The report on a use of a configuration that is released. -/
def refusal : Use → Report
  | .add _ => ⟨.error (.closed "ClientConfig"), []⟩
  | .release => ⟨.ok (), []⟩

/-! ## One release -/

theorem caught_eq (disposer : Disposer) : disposer.ending.caught =
    match disposer.failure? with
    | some error => .error error
    | none => .ok () := by
  unfold Disposer.failure?
  cases disposer.ending <;> rfl

/-- The first failure of an action and of those after it. -/
theorem firstFailure_outcome (disposer : Disposer) (disposers : List Disposer) :
    firstFailure disposer.ending.caught (outcome disposers) = outcome (disposer :: disposers) := by
  rw [caught_eq, outcome, outcome, List.findSome?_cons]
  cases disposer.failure? <;> rfl

/-- Nothing is left to be released. -/
theorem runNested_gone (depth : Nat) : gone.runNested depth = ⟨.ok (), [], gone⟩ := by
  cases depth <;> rfl

/-- A running action changes nothing at the configuration. -/
theorem runSteps_gone (depth : Nat) (steps : List (Disposer.Step Disposer)) :
    runSteps (runNested depth) gone steps = (steps.map echo, gone) := by
  induction steps with
  | nil => rfl
  | cons step steps ih =>
      have hstep : runStep (runNested depth) gone step = ([echo step], gone) := by
        cases step with
        | release => rw [runStep, runNested_gone]; rfl
        | add | state => rfl
      rw [runSteps, hstep]
      dsimp only
      rw [ih]
      rfl

/-- Actions run one after the other, whatever they do to the configuration and however they end. -/
theorem runAll_gone (depth : Nat) (disposers : List Disposer) :
    runAll (runNested depth) gone disposers =
      ⟨outcome disposers, disposers.flatMap account, gone⟩ := by
  induction disposers with
  | nil => rfl
  | cons disposer disposers ih =>
      rw [runAll, runSteps_gone]
      dsimp only
      rw [ih, firstFailure_outcome]
      rfl

/-- The first release runs all actions that were accepted. -/
theorem runNested_succ (depth : Nat) (disposers : List Disposer) :
    runNested (depth + 1) ⟨disposers, false⟩ =
      ⟨outcome disposers, disposers.flatMap account, gone⟩ :=
  runAll_gone depth disposers

/-! ## Several uses -/

/-- No use changes a configuration that is released. -/
theorem useAll_gone (depth : Nat) (uses : List Use) :
    useAll depth gone uses = uses.map refusal := by
  induction uses with
  | nil => rfl
  | cons first rest ih =>
      have hfirst : gone.use depth first =
          ⟨(refusal first).result, (refusal first).events, gone⟩ := by
        cases first with
        | add => rfl
        | release => exact runNested_gone (depth + 1)
      rw [useAll, hfirst]
      dsimp only
      rw [ih]
      rfl

/-- Before the first release every action is accepted, after those that were accepted before. -/
theorem useAll_adds (depth : Nat) (earlier added : List Disposer) (rest : List Use) :
    useAll depth ⟨earlier, false⟩ (added.map .add ++ rest) =
      added.map (fun _ => ⟨.ok (), []⟩) ++ useAll depth ⟨earlier ++ added, false⟩ rest := by
  induction added generalizing earlier with
  | nil => simp
  | cons disposer added ih =>
      simp only [List.map_cons, List.cons_append, useAll, use, add, Bool.false_eq_true, if_false]
      rw [ih, List.append_assoc]
      rfl

/-- Uses with a release among them: the actions added before it run in it. -/
theorem useAll_release (depth : Nat) (added : List Disposer) (later : List Use) :
    useAll depth fresh (added.map .add ++ .release :: later) =
      added.map (fun _ => ⟨.ok (), []⟩) ++
        ⟨outcome added, added.flatMap account⟩ :: later.map refusal := by
  rw [fresh, useAll_adds, List.nil_append, useAll, use, runNested_succ]
  dsimp only
  rw [useAll_gone]

/-- The uses before the first release add actions; then comes the release, if there is one. -/
theorem uses_cases (uses : List Use) : ∃ added : List Disposer,
    uses = added.map .add ∨ ∃ later, uses = added.map .add ++ .release :: later := by
  induction uses with
  | nil => exact ⟨[], .inl rfl⟩
  | cons first rest ih =>
      cases first with
      | release => exact ⟨[], .inr ⟨rest, rfl⟩⟩
      | add disposer =>
          obtain ⟨added, rfl | ⟨later, rfl⟩⟩ := ih
          · exact ⟨disposer :: added, .inl rfl⟩
          · exact ⟨disposer :: added, .inr ⟨later, rfl⟩⟩

/-! ## What happens in a run of an action -/

theorem ran_account (disposers : List Disposer) :
    (disposers.flatMap account).filterMap Event.ran? = disposers.map Disposer.id := by
  have hsteps : ∀ steps : List (Disposer.Step Disposer),
      (steps.map echo).filterMap Event.ran? = [] := by
    refine fun steps => List.filterMap_eq_nil_iff.2 fun event hevent => ?_
    obtain ⟨step, -, rfl⟩ := List.mem_map.1 hevent
    cases step <;> rfl
  induction disposers with
  | nil => rfl
  | cons disposer disposers ih =>
      rw [List.flatMap_cons, List.filterMap_append, ih, account, List.filterMap_cons, hsteps]
      rfl

theorem idle_of_mem_account {disposers : List Disposer} {event : Event}
    (h : event ∈ disposers.flatMap account) : event.Idle := by
  obtain ⟨disposer, -, hevent⟩ := List.mem_flatMap.1 h
  rcases List.mem_cons.1 hevent with rfl | hevent
  · exact trivial
  · obtain ⟨step, -, rfl⟩ := List.mem_map.1 hevent
    cases step with
    | release | add | state => exact rfl

/-! ## Every sequence of uses -/

/-- The place of the first release among some uses; their number if there is none. -/
def firstRelease (uses : List Use) : Nat :=
  uses.findIdx Use.isRelease

/-- The actions that are added before the first release. -/
def accepted (uses : List Use) : List Disposer :=
  (uses.take (firstRelease uses)).filterMap Use.disposer?

theorem findIdx_adds (added : List Disposer) :
    (added.map Use.add).findIdx Use.isRelease = added.length := by
  rw [List.findIdx_eq_length_of_false, List.length_map]
  intro use huse
  obtain ⟨disposer, -, rfl⟩ := List.mem_map.1 huse
  rfl

theorem firstRelease_adds (added : List Disposer) (later : List Use) :
    firstRelease (added.map .add ++ .release :: later) = added.length := by
  rw [firstRelease, List.findIdx_append, findIdx_adds]
  simp [List.findIdx_cons, Use.isRelease]

theorem accepted_adds (added : List Disposer) (later : List Use) :
    accepted (added.map .add ++ .release :: later) = added := by
  rw [accepted, firstRelease_adds, List.take_left' (List.length_map _), List.filterMap_map]
  exact List.filterMap_some

/-- What the use at each place brings. -/
theorem report_eq (depth : Nat) (uses : List Use) {i : Nat} {use : Use}
    (huse : uses[i]? = some use) :
    (useAll depth fresh uses)[i]? = some
      (if i < firstRelease uses then ⟨.ok (), []⟩
      else if i = firstRelease uses then
        ⟨outcome (accepted uses), (accepted uses).flatMap account⟩
      else refusal use) := by
  obtain ⟨added, rfl | ⟨later, rfl⟩⟩ := uses_cases uses
  · have hlt : i < added.length := by
      simpa using (List.getElem?_eq_some_iff.1 huse).1
    have hadds := useAll_adds depth [] added []
    rw [List.append_nil] at hadds
    rw [firstRelease, findIdx_adds, if_pos hlt, fresh, hadds, List.getElem?_append_left (by simpa)]
    simp [hlt]
  · rw [firstRelease_adds, accepted_adds, useAll_release]
    rcases Nat.lt_trichotomy i added.length with hlt | rfl | hgt
    · rw [if_pos hlt, List.getElem?_append_left (by simpa)]
      simp [hlt]
    · simp
    · obtain ⟨j, rfl⟩ := Nat.exists_eq_add_of_lt hgt
      rw [if_neg (by omega), if_neg (by omega), List.getElem?_append_right (by simp; omega)]
      rw [List.getElem?_append_right (by simp; omega)] at huse
      have hj : added.length + j + 1 - added.length = j + 1 := by omega
      simp only [List.length_map, hj, List.getElem?_cons_succ] at huse ⊢
      rw [List.getElem?_map, huse]
      rfl

theorem length_useAll (depth : Nat) (release : Release) (uses : List Use) :
    (useAll depth release uses).length = uses.length := by
  induction uses generalizing release with
  | nil => rfl
  | cons first rest ih => exact congrArg (· + 1) (ih _)

/-- The actions that were accepted run once each, in the order of their acceptance, inside the first
release and not before. That release runs all of them and returns the earliest failure. An action
that is added from its start on is refused and never runs; every other release does nothing. -/
theorem cleanup_runs_once (depth : Nat) (uses : List Use) :
    let reports := useAll depth fresh uses
    reports.length = uses.length ∧
    (∀ i disposer report, uses[i]? = some (.add disposer) → reports[i]? = some report →
      report.result = if i < firstRelease uses then .ok () else .error (.closed "ClientConfig")) ∧
    (∀ i report, uses[i]? = some .release → reports[i]? = some report →
      report.result =
        if i = firstRelease uses then
          match (accepted uses).findSome? Disposer.failure? with
          | some error => .error error
          | none => .ok ()
        else .ok ()) ∧
    ∀ i report, reports[i]? = some report →
      (report.events.filterMap Event.ran? =
        if i = firstRelease uses then (accepted uses).map Disposer.id else []) ∧
      (i ≠ firstRelease uses → report.events = []) ∧ ∀ event ∈ report.events, event.Idle := by
  intro reports
  have hlength : reports.length = uses.length := length_useAll depth fresh uses
  refine ⟨hlength, fun i disposer report huse hreport => ?_, fun i report huse hreport => ?_,
    fun i report hreport => ?_⟩
  · obtain rfl := Option.some.inj ((report_eq depth uses huse).symm.trans hreport)
    -- no action is added by the use that releases
    have hne : i ≠ firstRelease uses := fun heq => by
      obtain ⟨hlt, hget⟩ := List.getElem?_eq_some_iff.1 huse
      subst heq
      have hrelease : Use.isRelease uses[firstRelease uses] = true := List.findIdx_getElem
      rw [hget] at hrelease
      cases hrelease
    rw [if_neg hne]
    split <;> rfl
  · obtain rfl := Option.some.inj ((report_eq depth uses huse).symm.trans hreport)
    -- no release comes before the first one
    have hle : ¬ i < firstRelease uses := fun hlt => by
      have hnot := List.not_of_lt_findIdx hlt
      rw [(List.getElem?_eq_some_iff.1 huse).2] at hnot
      cases hnot
    rw [if_neg hle]
    split <;> rfl
  · have hi : i < uses.length := hlength ▸ (List.getElem?_eq_some_iff.1 hreport).1
    obtain rfl := Option.some.inj
      ((report_eq depth uses (List.getElem?_eq_getElem hi)).symm.trans hreport)
    have hrefusal : (refusal uses[i]).events = [] := by
      cases uses[i] <;> rfl
    rcases Nat.lt_trichotomy i (firstRelease uses) with hlt | heq | hgt
    · simp [hlt, Nat.ne_of_lt hlt]
    · rw [if_neg (by omega), if_pos heq, if_pos heq]
      exact ⟨ran_account _, fun hne => absurd heq hne, fun event => idle_of_mem_account⟩
    · simp [Nat.not_lt.2 (Nat.le_of_lt hgt), Nat.ne_of_gt hgt, hrefusal]

/-- Two actions, of which the first one panics after it has asked for a release, for a third action
and for the state; then the third action and another release. -/
theorem cleanup_runs_once_of_nested_release :
    let late : Disposer := .mk "late" [] .succeed
    let first : Disposer := .mk "first" [.release, .add late, .state] (.panic (.text "boom"))
    let second : Disposer := .mk "second" [] (.fail (.timeout "too long"))
    let reports := useAll 3 fresh [.add first, .add second, .release, .add late, .release]
    reports.length = 5 ∧
      (reports[2]?.map (·.result) = some (.error (.other "panicked: boom"))) ∧
      (reports[2]?.map (·.events.filterMap Event.ran?) = some ["first", "second"]) ∧
      (reports[3]?.map (·.result) = some (.error (.closed "ClientConfig"))) ∧
      reports[4]?.map (·.result) = some (.ok ()) := by
  intro late first second reports
  obtain ⟨hlength, hadds, hreleases, hevents⟩ :=
    cleanup_runs_once 3 [.add first, .add second, .release, .add late, .release]
  refine ⟨hlength, ?_, ?_, ?_, ?_⟩
  · exact congrArg some (hreleases 2 _ rfl rfl)
  · exact congrArg some (hevents 2 _ rfl).1
  · exact congrArg some (hadds 3 late _ rfl rfl)
  · exact congrArg some (hreleases 4 _ rfl rfl)

end Release

end Remoting
