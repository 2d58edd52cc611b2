import Remoting.Proofs.Phases
import Remoting.Proofs.Waiting

/-!
# Who watches the state of an endpoint

The state of an endpoint is published by a channel, on which users and the endpoint itself act
(`Published`). A task that waits for a state sees only the state at its polls, so it misses a state
that comes and goes between them. But states only move forward, and so it cannot miss one for good
if it also accepts every later state, as a wait for a close request does. `states_observed` says
both, next to what receivers are told.
-/

namespace Remoting

namespace StateChannel

/-- The action that makes a use of the channel of an endpoint. -/
def Use.action (endpoint : EndpointId) : Use → Action
  | .advance next => .advanceState endpoint next
  | .receive => .subscribe endpoint
  | .look receiver => .look endpoint receiver

/-- What a use of a channel answers. -/
def answer (channel : StateChannel) : Use → Answer
  | .advance next => .flag (channel.advance next).1
  | .receive => .number channel.receivers.length
  | .look receiver =>
    match channel.look? receiver with
    | some (changed, state, _) => .look changed state
    | none => .unknown

end StateChannel

namespace Wait

/-- The endpoint whose state is waited for. -/
def watches? : Wait → Option EndpointId
  | .state endpoint _ | .closeRequested endpoint => some endpoint
  | _ => none

/-- Whether a state ends a wait. -/
def accepts (state : EndpointState) : Wait → Bool
  | .state _ allowed => allowed.contains state
  | .closeRequested _ => state.isCloseRequested
  | _ => false

/-- What a wait that a state has ended returns. -/
def result (state : EndpointState) : Wait → Control
  | .state .. => .reply (.ok (.state state))
  | _ => .reply (.ok .unit)

/-- A wait that a state ends would also be ended by every later state. -/
def IsUpward (wait : Wait) : Prop :=
  ∀ {state later : EndpointState}, state.rank ≤ later.rank → wait.accepts state = true →
    wait.accepts later = true

/-- A wait for a close request is of this kind. -/
theorem isUpward_closeRequested (endpoint : EndpointId) : (closeRequested endpoint).IsUpward := by
  intro state later hrank haccepts
  have hstate : state ≠ .opened := by
    simpa [accepts, EndpointState.isCloseRequested] using haccepts
  have hlater : later ≠ .opened := by
    rintro rfl
    exact hstate (EndpointState.eq_of_rank_eq (Nat.le_zero.1 hrank))
  simpa [accepts, EndpointState.isCloseRequested] using hlater

end Wait

namespace World

variable {w u : World} {endpoint : EndpointId} {owned : LocalEndpoint} {wait : Wait} {task : TaskId}

/-- A wait for a state is over if the state of the endpoint ends it. -/
theorem ready?_watches (hwait : wait.watches? = some endpoint) : w.ready? task wait =
    (w.local? endpoint).bind fun owned =>
      if wait.accepts owned.state then some (wait.result owned.state) else none := by
  cases wait with
  | state other allowed =>
      obtain rfl : other = endpoint := Option.some.inj hwait
      rw [ready?]
      cases w.local? other <;> rfl
  | closeRequested other =>
      obtain rfl : other = endpoint := Option.some.inj hwait
      rw [ready?]
      cases w.local? other <;> rfl
  | _ => cases hwait

/-- An action on the channel of an endpoint makes a use of it. -/
theorem act_use (howned : w.local? endpoint = some owned) (use : StateChannel.Use) :
    (Session.ofWorld w).act (use.action endpoint) = (owned.channel.answer use,
      Session.ofWorld (w.setChannel endpoint owned (owned.channel.use use))) := by
  have hstate : ∀ act : StateChannel → Answer × StateChannel,
      (Session.ofWorld w).onState endpoint act = ((act owned.channel).1,
        Session.ofWorld (w.setChannel endpoint owned (act owned.channel).2)) := by
    intro act
    simp only [Session.onState, Session.ofWorld, Session.world, howned]
    rfl
  cases use with
  | advance next =>
      exact hstate fun channel => (.flag (channel.advance next).1, (channel.advance next).2)
  | receive => exact hstate fun channel => (.number channel.receiver.1, channel.receiver.2)
  | look receiver =>
      refine (hstate fun channel => match channel.look? receiver with
        | some (changed, state, channel) => (.look changed state, channel)
        | none => (.unknown, channel)).trans ?_
      simp only [StateChannel.answer, StateChannel.use]
      cases owned.channel.look? receiver <;> rfl

/-- A use of its channel changes nothing else of an endpoint, and is announced if it moves the state
on. -/
theorem setChannel_use (howned : w.local? endpoint = some owned) (use : StateChannel.Use) :
    (w.setChannel endpoint owned (owned.channel.use use)).local? endpoint =
        some { owned with channel := owned.channel.use use } ∧
      (w.setChannel endpoint owned (owned.channel.use use)).signals =
        if (owned.channel.use use).version = owned.channel.version then w.signals
        else w.signals ++ [.state endpoint] := by
  have hset := local?_setLocal howned { owned with channel := owned.channel.use use }
  unfold setChannel
  split
  · exact ⟨hset, rfl⟩
  · exact ⟨hset, rfl⟩

end World

namespace Moment

variable {m first after last : Moment} {move : Move} {moves before later : List Move}
  {endpoint : EndpointId} {owned : LocalEndpoint} {names : List String}

/-! ## Channels in runs -/

/-- The channel of every endpoint is that of a new one on which someone has acted. -/
def Used (m : Moment) : Prop :=
  ∀ {endpoint owned}, m.world.local? endpoint = some owned →
    ∃ list, owned.channel = StateChannel.ofUses list

theorem Used.next (h : m.Used) (hnext : m.next move = some after) : after.Used := by
  intro endpoint owned' howned'
  have hshuts := next_shutsOnly hnext
  cases howned : m.world.local? endpoint with
  | none =>
      -- an endpoint that is made with the move may have been closed with it
      obtain ⟨name, hcreated⟩ := hshuts.created howned howned'
      exact hcreated.uses
  | some owned =>
      obtain ⟨owned'', hfound, hgoes⟩ := hshuts.endpoint howned
      obtain rfl := Option.some.inj (hfound.symm.trans howned')
      obtain ⟨list, hlist⟩ := h howned
      obtain ⟨list', hlist'⟩ := hgoes.uses
      exact ⟨list ++ list', by rw [hlist', hlist, StateChannel.ofUses, StateChannel.ofUses,
        StateChannel.uses_append]⟩

theorem used_of_run (hrun : (standing names).run moves = some last) : last.Used := by
  refine run_induction (P := Used) (fun h hnext => h.next hnext) ?_ hrun
  intro endpoint owned howned
  obtain ⟨cell, hcell, rfl⟩ := Option.map_eq_some_iff.1 howned
  obtain ⟨name, -, rfl⟩ := List.mem_map.1 (List.mem_of_getElem? hcell)
  exact ⟨[], rfl⟩

/-- A run moves the state of an endpoint only forward. -/
theorem rank_le_of_run (hrun : first.run moves = some last)
    (howned : first.world.local? endpoint = some owned) :
    ∃ owned', last.world.local? endpoint = some owned' ∧ owned.state.rank ≤ owned'.state.rank := by
  refine run_induction (P := fun last => ∃ owned', last.world.local? endpoint = some owned' ∧
    owned.state.rank ≤ owned'.state.rank) ?_ ⟨owned, howned, Nat.le_refl _⟩ hrun
  rintro middle after move ⟨owned', howned', hle⟩ hnext
  obtain ⟨owned'', howned'', hshuts⟩ := (next_shutsOnly hnext).endpoint howned'
  exact ⟨owned'', howned'', Nat.le_trans hle hshuts.rank⟩

/-- The channel of an endpoint as it is at a moment of a run. -/
structure Published (m : Moment) (endpoint : EndpointId) (owned : LocalEndpoint) : Prop where
  /-- It has come about by uses of the channel of a new endpoint. -/
  uses : ∃ list, owned.channel = StateChannel.ofUses list
  /-- Every action on it makes one use, and answers what that use does. -/
  answers : ∀ use : StateChannel.Use,
    ((Session.ofWorld m.world).act (use.action endpoint)).1 = owned.channel.answer use ∧
      (m.world.act (use.action endpoint)).local? endpoint =
        some { owned with channel := owned.channel.use use }
  /-- Those who wait are woken exactly if the state has moved on. -/
  wakes : ∀ use : StateChannel.Use, (m.world.act (use.action endpoint)).signals =
    if (owned.channel.use use).state = owned.channel.state then m.world.signals
    else m.world.signals ++ [.state endpoint]

theorem published (hused : m.Used) (howned : m.world.local? endpoint = some owned) :
    m.Published endpoint owned where
  uses := hused howned
  answers use := by
    rw [World.act, World.act_use howned]
    exact ⟨rfl, (World.setChannel_use howned use).1⟩
  wakes use := by
    rw [World.act, World.act_use howned]
    simp only [← StateChannel.version_use_eq_iff]
    exact (World.setChannel_use howned use).2

/-! ## Waits in runs -/

/-- The polled task finds that the state of an endpoint ends its wait. -/
def Observes (m : Moment) (task : TaskId) (wait : Wait) (endpoint : EndpointId)
    (move : Move) : Prop :=
  move = .step ∧ m.actor? .step = some task ∧ ∃ owned, m.world.local? endpoint = some owned ∧
    wait.accepts owned.state = true

/-- A task that finds what it waits for finds a state that ends its wait. -/
theorem Notices.observes {task : TaskId} {wait : Wait} {control : Control}
    (h : m.Notices task wait move control) (hwait : wait.watches? = some endpoint) :
    m.Observes task wait endpoint move := by
  obtain ⟨rfl, hactor, hready⟩ := h
  rw [World.ready?_watches hwait] at hready
  obtain ⟨owned, howned, hready⟩ := Option.bind_eq_some_iff.1 hready
  refine ⟨rfl, hactor, owned, howned, ?_⟩
  split at hready
  next haccepts => exact haccepts
  next => cases hready

/-- What a wait for a state of an endpoint keeps to, from one moment of a run to a later one. -/
structure Observed (first : Moment) (moves : List Move) (last : Moment) (endpoint : EndpointId)
    (owned : LocalEndpoint) (task : TaskId) (wait : Wait) (frames : List Frame) : Prop where
  /-- At each poll it returns if the state of that moment ends it, and otherwise goes on. -/
  heeds : last.StandsAt task (.wait wait) frames → last.Heeds task frames
    (if wait.accepts owned.state then some (wait.result owned.state) else none)
  /-- Unless it is broken off, it goes on until it is polled in a state that ends it. -/
  returns : first.StandsAt task (.wait wait) frames → last.StandsAt task (.wait wait) frames ∨
    first.Happens (fun n move => n.StandsAt task (.wait wait) frames ∧
      (n.BreaksOff task frames move ∨ n.Observes task wait endpoint move)) moves
  /-- A state that has ended it once still does, if every later one would. -/
  keeps : wait.IsUpward → ∀ {earlier}, first.world.local? endpoint = some earlier →
    wait.accepts earlier.state = true → wait.accepts owned.state = true

/-- However users and the endpoint itself act on its channel, the state is the furthest one that was
asked for, a move tells whether the state has changed, and a receiver is told of a change exactly if
a move has succeeded since it last saw the state. In every run the channel of an endpoint is one on
which someone has acted in this way. A wait for a state returns exactly at a poll in a state that
ends it, and if every later state would end it too, as with the wait for a close request, the first
poll after it was ended once is such a poll. -/
theorem states_observed :
    (∀ list, StateChannel.Faithful list) ∧
    (∀ endpoint, (Wait.closeRequested endpoint).IsUpward) ∧
    ∀ {names before later first last endpoint owned}, (standing names).run before = some first →
      first.run later = some last → last.world.local? endpoint = some owned →
        last.Published endpoint owned ∧ ∀ (task : TaskId) (wait : Wait) (frames : List Frame),
          wait.watches? = some endpoint →
          first.Observed later last endpoint owned task wait frames := by
  refine ⟨StateChannel.faithful, Wait.isUpward_closeRequested, ?_⟩
  intro names before later first last endpoint owned hbefore hlater howned
  refine ⟨published (used_of_run (run_trans hbefore hlater)) howned, ?_⟩
  intro task wait frames hwait
  refine ⟨fun hstands => ?_, fun hstands => ?_, ?_⟩
  · have hready : last.world.ready? task wait = _ := World.ready?_watches hwait
    rw [howned, Option.bind_some] at hready
    exact hready ▸ hstands.heeds
  · -- a task that goes on with its wait over has found the state of that moment
    rcases hstands.run hlater with hgoes | hhappens
    · exact .inl hgoes
    · obtain ⟨before, move, after, n, heq, hn, hstands, hleaves⟩ := hhappens
      refine .inr ⟨before, move, after, n, heq, hn, hstands, ?_⟩
      exact hleaves.imp_right fun ⟨control, hnotices⟩ => hnotices.observes hwait
  · intro hupward earlier hearlier haccepts
    obtain ⟨owned', howned', hle⟩ := rank_le_of_run hlater hearlier
    obtain rfl := Option.some.inj (howned'.symm.trans howned)
    exact hupward hle haccepts

/-- A task waits until an endpoint is no longer open, then the endpoint is asked to close. -/
def watchedRequest : List Move :=
  [.act (.start "wait" (.await (.state 0 [.closing, .closed]))), .poll 0, .step, .expire, .rest,
    .act (.advanceState 0 .closing)]

def watchedFirst : Moment := ((standing ["endpoint"]).run watchedRequest).get (by decide +kernel)

/-- Before the task is polled again, the endpoint is closed. -/
def watchedLast : Moment :=
  (watchedFirst.run [.act (.advanceState 0 .closed)]).get (by decide +kernel)

theorem states_observed_of_closed :
    (standing ["endpoint"]).run watchedRequest = some watchedFirst ∧
      watchedFirst.run [.act (.advanceState 0 .closed)] = some watchedLast ∧
      ∃ owned, watchedLast.world.local? 0 = some owned ∧ owned.state = .closed ∧
        watchedLast.Published 0 owned ∧
        watchedFirst.Observed [.act (.advanceState 0 .closed)] watchedLast 0 owned 0
          (.state 0 [.closing, .closed]) [] ∧
        ∃ polled after, watchedLast.next (.poll 0) = some polled ∧ polled.next .step = some after ∧
          after.StandsAt 0 (.reply (.ok (.state .closed))) [] := by
  have hbefore : (standing ["endpoint"]).run watchedRequest = some watchedFirst :=
    (Option.some_get _).symm
  have hlater : watchedFirst.run [.act (.advanceState 0 .closed)] = some watchedLast :=
    (Option.some_get _).symm
  obtain ⟨owned, howned⟩ : ∃ owned, watchedLast.world.local? 0 = some owned :=
    Option.isSome_iff_exists.1 (by decide +kernel)
  have hstate : owned.state = .closed := by
    have hmap : (watchedLast.world.local? 0).map LocalEndpoint.state = some .closed := by
      decide +kernel
    rw [howned] at hmap
    exact Option.some.inj hmap
  obtain ⟨hpublished, hobserved⟩ := states_observed.2.2 hbefore hlater howned
  have hwait := hobserved 0 (.state 0 [.closing, .closed]) [] rfl
  have hstands : watchedLast.StandsAt 0 (.wait (.state 0 [.closing, .closed])) [] :=
    ⟨_, rfl, rfl, rfl⟩
  have hheeds := hwait.heeds hstands
  rw [hstate] at hheeds
  exact ⟨hbefore, hlater, owned, howned, hstate, hpublished, hwait, hheeds.polls rfl rfl rfl⟩

end Moment

end Remoting
