import Remoting.Proofs.Resuming
import Remoting.Proofs.Returning

/-!
# Failures of a factory

A failure has layers, and the outermost one that is an error of the client decides what callers see.
`CreationFailure.Becomes` says what that is, layer by layer, and `World.Fails` when the factory of a
client answers with a failure. The main statement is `creation_failures`: a call for a channel
returns exactly the error that its factory's failure becomes.
-/

namespace Remoting

namespace CreationFailure

variable {failure : CreationFailure} {error : Error}

theorem Layer.eq_known {layer : Layer} (h : layer.known? = some error) : layer = .known error := by
  cases layer <;> cases h
  rfl

/-- What a failure becomes: the outermost layer that is an error of the client, or else the failure
of a channel creation, with the text of the outermost layer and all layers as its causes. -/
inductive Becomes (failure : CreationFailure) (error : Error) : Prop
  | known {outer inner : List Layer} (layers : failure.layers = outer ++ .known error :: inner)
      (foreign : ∀ layer ∈ outer, layer.known? = none) : Becomes failure error
  | foreign (foreign : ∀ layer ∈ failure.layers, layer.known? = none)
      (kind : error.kind = .channelCreation)
      (message : error.message =
        "Failed to create management channel: " ++ failure.outermost.message)
      (sources : error.sources = failure.layers.map Layer.message ++ failure.base.causes) :
      Becomes failure error

theorem becomes_toError (failure : CreationFailure) : failure.Becomes failure.toError := by
  unfold toError
  split
  next error hknown =>
    obtain ⟨outer, layer, inner, hlayers, hlayer, hforeign⟩ := List.findSome?_eq_some_iff.1 hknown
    rw [Layer.eq_known hlayer] at hlayers
    exact .known hlayers hforeign
  next hnone =>
    refine .foreign (List.findSome?_eq_none_iff.1 hnone) rfl rfl ?_
    rw [layers_eq_cons]
    rfl

/-- A failure becomes one error only. -/
theorem Becomes.unique {error' : Error} (h : failure.Becomes error) (h' : failure.Becomes error') :
    error = error' := by
  -- a known layer behind foreign ones is the first known one
  have hfirst : ∀ {error outer inner}, failure.layers = outer ++ .known error :: inner →
      (∀ layer ∈ outer, layer.known? = none) →
        failure.layers.findSome? Layer.known? = some error := fun hlayers hforeign =>
    List.findSome?_eq_some_iff.2 ⟨_, _, _, hlayers, rfl, hforeign⟩
  cases h with
  | known layers foreign =>
      cases h' with
      | known layers' foreign' =>
          exact Option.some.inj ((hfirst layers foreign).symm.trans (hfirst layers' foreign'))
      | foreign foreign' => cases foreign' (.known error) (by simp [layers])
  | foreign foreign kind message sources =>
      cases h' with
      | known layers => cases foreign (.known error') (by simp [layers])
      | foreign _ kind' message' sources' =>
          cases error <;> cases kind
          cases error' <;> cases kind'
          have hsources := sources.trans sources'.symm
          simp only [Error.sources, List.cons.injEq] at hsources
          rw [hsources.1, hsources.2]

end CreationFailure

/-! ## Calls for a channel -/

namespace World

variable {w : World} {client : ClientId} {plan : StrategyPlan} {reply : Reply}
  {failure : CreationFailure}

/-- The factory of a client answers with a failure, right away or when it was about to hand over a
strategy. -/
inductive Fails (w : World) (client : ClientId) (plan : StrategyPlan) (reply : Reply) :
    CreationFailure → Prop
  | refuses (error : Error) (refused : reply = .error error) :
      Fails w client plan reply ⟨.known error, []⟩
  | withholds {failure : CreationFailure} {value : Value} (made : reply = .ok value)
      (calm : (w.callAssociation client plan.onCreate).2 = none)
      (withheld : plan.failure = some failure) : Fails w client plan reply failure

/-- A call for a channel ends with the error that a failure becomes. -/
theorem Fails.created_eq (h : w.Fails client plan reply failure) (task : TaskId)
    (endpoint : EndpointId) (frames : List Frame) :
    ∃ v, Quiet w v ∧ w.created task client endpoint plan reply frames =
      v.endChannel task client (.error failure.toError) frames := by
  cases h with
  | refuses error hreply =>
      subst hreply
      exact ⟨w, .refl w, rfl⟩
  | withholds hreply hcalm hfailure =>
      subst hreply
      refine ⟨_, quiet_callAssociation w client plan.onCreate, ?_⟩
      simp only [created]
      split
      next v content heq =>
        rw [heq] at hcalm
        cases hcalm
      next v heq =>
        rw [hfailure, heq]

end World

namespace Moment

variable {m : Moment} {moves : List Move} {t : Task} {client : ClientId} {endpoint : EndpointId}
  {plan : StrategyPlan} {reply : Reply} {outer : List Frame} {failure : CreationFailure}

/-- The step of the polled task leads to the next moment. -/
theorem exists_next_step {u : World} (ht : m.polled? = some t)
    (hstep : m.world.step? t.id = some u) :
    ∃ after, m.next .step = some after ∧ after.world = u :=
  ⟨_, next_of_polled ht hstep, rfl⟩

/-- The polled task is inside of a call for a channel whose factory has just answered. -/
structure Answered (m : Moment) (t : Task) (client : ClientId) (plan : StrategyPlan) (reply : Reply)
    (outer : List Frame) : Prop where
  polled : m.polled? = some t
  frames : ∃ endpoint, t.frames = .creation client endpoint plan :: outer
  control : t.control = .reply reply

/-- What callers see of a factory's failure: its outermost layer that is an error of the client, as
it is, or else the failure of a channel creation that has all layers among its causes. In every run
a call for a channel returns this error where its factory answers with the failure, and leaves the
client as it is. -/
theorem creation_failures (failure : CreationFailure) :
    failure.Becomes failure.toError ∧ (∀ error, failure.Becomes error → error = failure.toError) ∧
    ∀ {m moves t client plan reply outer}, start.run moves = some m →
      m.Answered t client plan reply outer → m.world.Fails client plan reply failure →
        ∃ after, m.next .step = some after ∧
          m.Returns after (.channel client) (.error failure.toError) ∧
          after.Left t.id client outer ∧ after.world.state? client = m.world.state? client := by
  refine ⟨failure.becomes_toError, fun error herror => herror.unique failure.becomes_toError, ?_⟩
  intro m moves t client plan reply outer hrun hanswered hfails
  obtain ⟨hpolled, ⟨endpoint, hframes⟩, hcontrol⟩ := hanswered
  have hreach : m.Reachable := ⟨moves, hrun⟩
  obtain ⟨v, hquiet, heq⟩ := hfails.created_eq t.id endpoint outer
  have hfind := polled?_task? hpolled
  have hstep : m.world.step? t.id =
      some (v.endChannel t.id client (.error failure.toError) outer) := by
    rw [World.step?_reply hfind hcontrol hframes]
    exact congrArg some heq
  obtain ⟨after, hnext, hafter⟩ := exists_next_step hpolled hstep
  have hleave := World.relocks_leaveLock v t.id client
  have hfound : after.world.task? t.id =
      some { t with control := .reply (.error failure.toError), frames := outer } := by
    rw [hafter]
    show ((v.leaveLock t.id client).goto t.id _ outer).task? t.id = _
    rw [World.task?_goto, World.task?, hleave.same.tasks, hquiet.same.tasks]
    exact congrArg (Option.map _) hfind
  refine ⟨after, hnext, ⟨hnext, t, _, outer, hpolled, hframes, rfl,
    polled?_step hpolled hnext hfound⟩, ?_, ?_⟩
  · exact hreach.left_of_found hnext (of_polled? hpolled).1
      ((List.nil_append _).trans hframes.symm).symm rfl (.reply _) hfound
  · rw [hafter]
    exact (hleave.state client).trans (hquiet.state client)

/-- A refused connection, to which an error of the client and then a text were added. -/
def refused : CreationFailure :=
  ⟨.io (.custom .connectionRefused "refused" []),
    [.known (.timeout "authentication"), .text "connecting"]⟩

/-- A call for a channel whose factory answers with this failure. -/
def refusedCall : List Move :=
  [.build (.recorded { (default : FactoryPlan) with
      strategies := [{ (default : StrategyPlan) with failure := some refused }] }) default,
    .act (.getChannel 0 "get"), .poll 0] ++ List.replicate 5 .step

/-- The moment at which the factory has answered. -/
def refusal : Moment := (start.run refusedCall).get (by decide +kernel)

/-- The task of the call at that moment. -/
def refusedTask : Task := refusal.polled?.get (by decide +kernel)

theorem creation_failures_of_context :
    start.run refusedCall = some refusal ∧
      refusal.Answered refusedTask 0 { (default : StrategyPlan) with failure := some refused }
        (.ok .unit) [] ∧
      refusal.world.Fails 0 { (default : StrategyPlan) with failure := some refused } (.ok .unit)
        refused ∧
      ∃ after, refusal.next .step = some after ∧
        refusal.Returns after (.channel 0) (.error (.timeout "authentication")) ∧
        after.Left refusedTask.id 0 [] ∧ after.world.state? 0 = refusal.world.state? 0 := by
  have hrun : start.run refusedCall = some refusal := (Option.some_get _).symm
  have hanswered : refusal.Answered refusedTask 0
      { (default : StrategyPlan) with failure := some refused } (.ok .unit) [] :=
    ⟨(Option.some_get _).symm, ⟨0, rfl⟩, rfl⟩
  have hfails : refusal.world.Fails 0 { (default : StrategyPlan) with failure := some refused }
      (.ok .unit) refused := .withholds rfl rfl rfl
  exact ⟨hrun, hanswered, hfails, (creation_failures refused).2.2 hrun hanswered hfails⟩

end Moment

end Remoting
