import Remoting.Proofs.Creating

/-!
# Calls for a channel that fail

A call for a channel that fails, panics or is stopped leaves behind what its factory has yielded,
and nothing else. With each move a call that has the lock goes on or is left
(`Reachable.trying_next`), and `Tried` says what it has made by then: it has gone on at the first
piece that was missing (`Resumes`). What is kept is what a close closes (`ClosesKept`). The main
statement is `attempts_resumable`.
-/

namespace Remoting

namespace Teardown

variable (t : Teardown) (skipDrain skipWait : Bool)

/-- A teardown closes its endpoint once, and no other. -/
theorem count_closeEndpoint (x : EndpointId) :
    (t.sequence skipDrain skipWait).count (.closeEndpoint x) =
      if t.endpoint = some x then 1 else 0 := by
  obtain ⟨client, endpoint, strategy, interrupt⟩ := t
  cases endpoint <;> cases strategy <;> cases skipDrain <;> cases skipWait <;>
    simp [sequence, closingCalls, strategyCalls, endpointCalls, drainCalls, waitCalls,
      List.count_cons]

/-- A teardown closes its strategy once, and no other. -/
theorem count_closeStrategy (σ : StrategyId) :
    (t.sequence skipDrain skipWait).count (.closeStrategy σ) =
      if t.strategy = some σ then 1 else 0 := by
  obtain ⟨client, endpoint, strategy, interrupt⟩ := t
  cases endpoint <;> cases strategy <;> cases skipDrain <;> cases skipWait <;>
    simp [sequence, closingCalls, strategyCalls, endpointCalls, drainCalls, waitCalls,
      List.count_cons]

end Teardown

namespace Moment

variable {first m n after last : Moment} {move : Move} {moves later : List Move} {t : Task}
  {task : TaskId} {client : ClientId} {outer inner : List Frame} {frame : Frame}
  {e e' : Option EndpointId} {s s' : Option StrategyId} {calls : List Contact}
  {x : EndpointId} {σ : StrategyId} {cell : ConfigCell} {call : Call} {control : Control}

/-! ## Steps of the call -/

/-- A call for a channel that ends where it was made is left. -/
theorem Reachable.left_of_call (h : m.Reachable) (hnext : m.next move = some after)
    (ht : m.polled? = some t) (hcontrol : t.control = .call call)
    (hjob : call.job = .channel client) (hover : control.IsOver)
    (hfound : after.world.task? t.id = some { t with control, frames := t.frames }) :
    after.Left t.id client t.frames := by
  have hstack := (h.fits.taskOk (of_polled? ht).1).typed
  rw [hcontrol] at hstack
  have hchannel : m.world.Stack t.id (.channel client) t.frames := hjob ▸ hstack
  exact (h.next hnext).left_of_over hfound hover hchannel rfl (Nat.le_refl _)

/-- With an endpoint the call fails if there is no target, and otherwise asks for a strategy. -/
theorem Reachable.step_connects (h : m.Reachable) (ht : m.polled? = some t)
    (hcontrol : t.control = .call (.connect client x))
    (hcell : m.world.configOf? client = some cell) (hnext : m.next .step = some after) :
    (¬ m.world.Addressable client ∧ after.world.history client = m.world.history client ∧
      after.Left t.id client t.frames) ∨
    (m.world.Addressable client ∧
      after.world.history client = m.world.history client ++ [.createStrategy x] ∧
      (after.Left t.id client t.frames ∨ ∃ t' plan, after.world.task? t.id = some t' ∧
        t'.frames = .creation client x plan :: t.frames ∧
          Serial.Acts plan.create.outcome? t'.control [])) := by
  have hfind := polled?_task? ht
  obtain ⟨c, hc⟩ : ∃ c, m.world.clients[client]? = some c := by
    cases hc : m.world.clients[client]? with
    | some c => exact ⟨c, rfl⟩
    | none => simp [World.configOf?, hc] at hcell
  have hworld : after.world = m.world.connect t.id client x t.frames :=
    world_of_call ht hcontrol hnext
  rcases hworld ▸ World.tries_connect hc hcell with ⟨error, hsettings, htries⟩ |
    ⟨settings, hsettings, ⟨content, htries⟩ | ⟨plan, htries⟩⟩
  · refine .inl ⟨?_, htries.history.trans (List.append_nil _),
      h.left_of_call hnext ht hcontrol rfl (.reply _) (htries.found hfind)⟩
    rintro ⟨cell', settings, hcell', hsettings'⟩
    cases hcell.symm.trans hcell'
    cases hsettings.symm.trans hsettings'
  · exact .inr ⟨⟨cell, settings, hcell, hsettings⟩, htries.history,
      .inl (h.left_of_call hnext ht hcontrol rfl (.unwind _) (htries.found hfind))⟩
  · exact .inr ⟨⟨cell, settings, hcell, hsettings⟩, htries.history,
      .inr ⟨_, plan, htries.found hfind, rfl, .called plan.create⟩⟩

/-- With the answer of the factory the call keeps a strategy and goes on with it, or is over. -/
theorem Reachable.step_created (h : m.Reachable) (ht : m.polled? = some t) {plan : StrategyPlan}
    (hframes : t.frames = .creation client x plan :: outer) (hover : t.control.IsOver)
    (hnext : m.next .step = some after) :
    (¬ m.TakesStrategy t.id client .step ∧
      after.world.history client = m.world.history client ∧ after.Left t.id client outer) ∨
    (m.TakesStrategy t.id client .step ∧ ∃ σ,
      after.world.history client = m.world.history client ++ [.strategyCreated σ] ∧
      after.polled? =
        some { t with control := .call (.openChannel client σ), frames := outer }) := by
  have hfind := polled?_task? ht
  have hmem := (of_polled? ht).1
  have hleft : ∀ {control : Control}, control.IsOver →
      after.world.task? t.id = some { t with control, frames := outer } →
        after.Left t.id client outer := fun hover hfound =>
    h.left_of_found hnext hmem ((List.nil_append _).trans hframes.symm).symm rfl hover hfound
  have htakes : ∀ {reply}, t.control = .reply reply →
      (m.TakesStrategy t.id client .step ↔ m.world.YieldsStrategy client plan reply) := by
    intro reply hcontrol
    constructor
    · intro htakes
      obtain ⟨y, plan', frames, reply', hframes', hcontrol', hyields⟩ := htakes.of_polled ht
      cases hframes.symm.trans hframes'
      cases hcontrol.symm.trans hcontrol'
      exact hyields
    · exact fun hyields => ⟨rfl, t, x, plan, outer, reply, ht, rfl, hframes, hcontrol, hyields⟩
  -- only an answer of the factory can yield a strategy
  rcases hover with ⟨reply, hcontrol⟩ | ⟨content, hcontrol⟩
  · have hworld : after.world = m.world.created t.id client x plan reply outer :=
      world_of_reply ht hcontrol hframes hnext
    rw [htakes hcontrol]
    rcases hworld ▸ World.tries_created m.world t.id client x plan reply outer with
      ⟨hnot, control, hover, htries⟩ | ⟨hyields, σ, htries⟩
    · exact .inl ⟨hnot, htries.history.trans (List.append_nil _), hleft hover (htries.found hfind)⟩
    · exact .inr ⟨hyields, σ, htries.history, polled?_step ht hnext (htries.found hfind)⟩
  · have htries : World.Tries t.id client [] (.unwind content) outer m.world after.world :=
      world_of_unwind ht hcontrol hframes hnext ▸ World.tries_unwind (.inl ⟨x, plan, rfl⟩) content
    refine .inl ⟨?_, htries.history.trans (List.append_nil _), hleft (.unwind _)
      (htries.found hfind)⟩
    intro htakes
    obtain ⟨y, plan', frames, reply', -, hcontrol', -⟩ := htakes.of_polled ht
    cases hcontrol.symm.trans hcontrol'

/-- With a strategy the call asks it for a channel. -/
theorem Reachable.step_opens (h : m.Reachable) (ht : m.polled? = some t)
    (hcontrol : t.control = .call (.openChannel client σ)) (hnext : m.next .step = some after) :
    after.world.history client = m.world.history client ++ [.channel σ] ∧
      ∃ t' channel, ∃ plan : ChannelPlan, after.world.task? t.id = some t' ∧
        t'.frames = .channel client σ channel :: t.frames ∧
          Serial.Acts plan.behaviour.outcome? t'.control [] := by
  have hheld : m.world.Held t.id client (.strategy σ) :=
    (h.fits.taskOk (of_polled? ht).1).callHolds (by rw [hcontrol]; rfl)
  obtain ⟨-, endpoint, hopen⟩ := hheld
  obtain ⟨active, hfit⟩ := h.fits.exists_callsFit
  obtain ⟨strategyCell, hstrategy⟩ := ((hfit.clients client).of_opened hopen).2.2.strategy rfl
  have hworld : after.world = m.world.openChannel t.id client σ t.frames :=
    world_of_call ht hcontrol hnext
  obtain ⟨plan, htries⟩ : ∃ plan : ChannelPlan, World.Tries t.id client [.channel σ]
      (.call (.behave plan.behaviour)) (.channel client σ plan.channel :: t.frames) m.world
      after.world := hworld ▸ World.tries_openChannel hstrategy
  exact ⟨htries.history, _, plan.channel, plan, htries.found (polled?_task? ht), rfl,
    .called plan.behaviour⟩

/-- With the answer of the strategy the call is over. -/
theorem Reachable.step_obtains (h : m.Reachable) (ht : m.polled? = some t) {channel : ChannelId}
    (hframes : t.frames = .channel client σ channel :: outer) (hover : t.control.IsOver)
    (hnext : m.next .step = some after) :
    after.world.history client = m.world.history client ∧ after.Left t.id client outer := by
  have hfind := polled?_task? ht
  have hleft : ∀ {control : Control}, control.IsOver →
      World.Tries t.id client [] control outer m.world after.world →
        after.world.history client = m.world.history client ∧ after.Left t.id client outer :=
    fun hover htries => ⟨htries.history.trans (List.append_nil _),
      h.left_of_found hnext (of_polled? ht).1 ((List.nil_append _).trans hframes.symm).symm
        rfl hover (htries.found hfind)⟩
  rcases hover with ⟨reply, hcontrol⟩ | ⟨content, hcontrol⟩
  · have hworld : after.world = m.world.opened t.id client σ channel reply outer :=
      world_of_reply ht hcontrol hframes hnext
    obtain ⟨reply', htries⟩ := World.tries_opened m.world t.id client σ channel reply outer
    exact hleft (.reply _) (hworld ▸ htries)
  · exact hleft (.unwind _) (world_of_unwind ht hcontrol hframes hnext ▸
      World.tries_unwind (.inr ⟨σ, channel, rfl⟩) content)

/-! ## Moves -/

/-- The settings of a client do not change, nor does the address that they give. -/
theorem addressable_iff_of_run (hrun : first.run moves = some m)
    (hcell : first.world.configOf? client = some cell) :
    (∃ cell', m.world.configOf? client = some cell') ∧
      (m.world.Addressable client ↔ first.world.Addressable client) := by
  obtain ⟨cell', hcell', hconfig, -⟩ := (run_lasts hrun).config hcell
  refine ⟨⟨cell', hcell'⟩, ?_⟩
  constructor
  · rintro ⟨known, settings, hknown, hsettings⟩
    cases hcell'.symm.trans hknown
    exact ⟨cell, settings, hcell, hconfig ▸ hsettings⟩
  · rintro ⟨known, settings, hknown, hsettings⟩
    cases hcell.symm.trans hknown
    exact ⟨cell', settings, hcell', hconfig ▸ hsettings⟩

/-- With each move a call that has the lock goes on, or it is left. -/
theorem Reachable.trying_next (h : first.Reachable)
    (hopen : first.world.state? client = some (.opened e s))
    (hcell : first.world.configOf? client = some cell) (hrun : first.run moves = some m)
    (htrying : first.Trying moves task client outer e s m) (hnext : m.next move = some after) :
    first.Trying (moves ++ [move]) task client outer e s after ∨
      first.Attempted (moves ++ [move]) task client outer e s after := by
  have hm : m.Reachable := h.run hrun
  cases htrying with
  | locks none start locks =>
      subst none start
      obtain ⟨t, reply, ht, hid, hcontrol, hframes⟩ := locks
      -- a polled task that does not wait can only make its step
      have hmove := next_eq_step hnext ht fun wait heq => by cases hcontrol.symm.trans heq
      subst hmove
      exact h.step_locks ⟨t, reply, ht, hid, hcontrol, hframes⟩ hopen hcell hnext
  | @connects t x calls polled id control frames unmade endpoint history never =>
      subst id frames unmade
      obtain rfl := move_of_call polled control hnext
      have hnever : ¬ first.YieldsStrategy (moves ++ [.step]) t.id client := by
        refine not_yieldsStrategy_snoc never hrun fun htakes => ?_
        obtain ⟨y, plan, frames, reply, -, hcontrol, -⟩ := htakes.of_polled polled
        cases control.symm.trans hcontrol
      obtain ⟨⟨cell', hcell'⟩, haddress⟩ := addressable_iff_of_run hrun hcell
      rcases hm.step_connects polled control hcell' hnext with ⟨hnot, hcalls, hleft⟩ |
        ⟨haddressable, hcalls, hleft | ⟨t', plan, hfound, hframes, hacts⟩⟩
      · exact .inr
          ⟨_, _, _, .target endpoint (mt haddress.2 hnot) hnever, hcalls.trans history, hleft⟩
      · exact .inr ⟨_, _, _, .strategy endpoint (haddress.1 haddressable) hnever,
          by rw [hcalls, history, List.append_assoc], hleft⟩
      · exact .inl (.creates hfound hframes hacts rfl endpoint (haddress.1 haddressable)
          (by rw [hcalls, history, List.append_assoc]) hnever)
  | @creates t x calls inner plan outcome found frames acts unmade endpoint addressable
      history never =>
      subst unmade
      have hmember : Frame.creation client x plan ∈ t.frames :=
        frames ▸ List.mem_append_right _ (List.mem_cons_self ..)
      obtain ⟨hmem, hid⟩ := World.task?_mem found
      have hheld := (hm.fits.taskOk hmem).frameHolds hmember rfl
      by_cases hanswers : move = .step ∧ m.polled? = some t ∧ inner = [] ∧ t.control.IsOver
      · -- the factory has answered
        obtain ⟨rfl, ht, rfl, hover⟩ := hanswers
        subst hid
        rcases hm.step_created ht frames hover hnext with ⟨hnot, hcalls, hleft⟩ |
          ⟨htakes, σ, hcalls, hpolled⟩
        · exact .inr ⟨_, _, _, .strategy endpoint addressable
            (not_yieldsStrategy_snoc never hrun hnot), hcalls.trans history, hleft⟩
        · refine .inl (.opens hpolled rfl rfl rfl
            (.made endpoint addressable ((happens_snoc hrun).2 (.inr htakes)) σ) ?_)
          rw [hcalls, history]
          simp
      · have hnever : ¬ first.YieldsStrategy (moves ++ [move]) task client :=
          not_yieldsStrategy_snoc never hrun fun htakes =>
            hanswers (htakes.answered found frames acts)
        obtain ⟨hcalls, ⟨t', inner', hfound, hframes, hacts⟩ | hleft⟩ :=
          hm.acts_next found frames acts rfl rfl hheld.2 hnext hanswers
        · exact .inl (.creates hfound hframes hacts rfl endpoint addressable (hcalls.trans history)
            hnever)
        · exact .inr ⟨_, _, _, .strategy endpoint addressable hnever, hcalls.trans history, hleft⟩
  | @opens t e' σ calls polled id control frames strategy history =>
      subst id frames
      obtain rfl := move_of_call polled control hnext
      obtain ⟨hcalls, t', channel, plan, hfound, hframes, hacts⟩ :=
        hm.step_opens polled control hnext
      exact .inl (.obtains hfound hframes hacts (strategy.snoc hrun .step)
        (by rw [hcalls, history, List.append_assoc]))
  | @obtains t e' σ calls inner channel outcome found frames acts strategy history =>
      have hmember : Frame.channel client σ channel ∈ t.frames :=
        frames ▸ List.mem_append_right _ (List.mem_cons_self ..)
      obtain ⟨hmem, hid⟩ := World.task?_mem found
      obtain ⟨-, endpoint, hstate⟩ := (hm.fits.taskOk hmem).frameHolds hmember rfl
      by_cases hanswers : move = .step ∧ m.polled? = some t ∧ inner = [] ∧ t.control.IsOver
      · -- the strategy has answered, and whatever it says the call is over
        obtain ⟨rfl, ht, rfl, hover⟩ := hanswers
        subst hid
        obtain ⟨hcalls, hleft⟩ := hm.step_obtains ht frames hover hnext
        exact .inr ⟨_, _, _, .channel (strategy.snoc hrun .step), hcalls.trans history, hleft⟩
      · obtain ⟨hcalls, ⟨t', inner', hfound, hframes, hacts⟩ | hleft⟩ :=
          hm.acts_next found frames acts rfl rfl hstate hnext hanswers
        · exact .inl (.obtains hfound hframes hacts (strategy.snoc hrun move)
            (hcalls.trans history))
        · exact .inr ⟨_, _, _, .channel (strategy.snoc hrun move), hcalls.trans history, hleft⟩

/-- A call for a channel has the lock as long as it goes on. -/
theorem Trying.owner (h : first.Trying moves task client outer e s m) (hm : m.Reachable) :
    m.world.owner? client = some task := by
  cases h with
  | locks none start locks =>
      obtain ⟨t, reply, ht, rfl, hcontrol, hframes⟩ := locks
      exact (hm.fits.taskOk (of_polled? (start ▸ ht)).1).owner_of_connects (.lock hcontrol hframes)
  | connects polled id control =>
      exact id ▸ (hm.fits.taskOk (of_polled? polled).1).owner_of_connects (.connect control)
  | opens polled id control =>
      exact id ▸ (hm.fits.taskOk (of_polled? polled).1).owner_of_connects (.openChannel control)
  | creates found frames | obtains found frames =>
      obtain ⟨hmem, rfl⟩ := World.task?_mem found
      exact ((hm.fits.taskOk hmem).frameHolds
        (frames ▸ List.mem_append_right _ (List.mem_cons_self ..)) rfl).1

/-! ## What a call leaves behind -/

theorem GetsEndpoint.opened {history : List Contact} (h : first.GetsEndpoint client e x calls)
    (hopened : Opened e none history) : Opened (some x) none (history ++ calls) := by
  cases h with
  | kept => rwa [List.append_nil]
  | made =>
      rw [List.append_cons]
      exact .endpointCreated x (.createEndpoint hopened)

theorem GetsStrategy.opened {history : List Contact}
    (h : first.GetsStrategy moves task client e s e' σ calls) (hopened : Opened e s history) :
    Opened e' (some σ) (history ++ calls) := by
  cases h with
  | kept => rwa [List.append_nil]
  | made endpoint =>
      rw [← List.append_assoc, List.append_cons]
      exact .strategyCreated σ (.createStrategy (endpoint.opened hopened))

/-- What a call for a channel leaves behind is what its calls make of an open client. -/
theorem Tried.opened {history : List Contact} (h : first.Tried moves task client e s calls e' s')
    (hopened : Opened e s history) : Opened e' s' (history ++ calls) := by
  cases h with
  | endpoint => exact .createEndpoint hopened
  | target endpoint => exact endpoint.opened hopened
  | strategy endpoint =>
      rw [← List.append_assoc]
      exact .createStrategy (endpoint.opened hopened)
  | channel strategy =>
      have hboth := strategy.opened hopened
      obtain ⟨x, rfl⟩ := hboth.exists_endpoint rfl
      rw [← List.append_assoc]
      exact .channel hboth

/-- A call for a channel that is over has gone on at the first piece that was missing, and the
client has kept each piece that the factory has yielded. -/
structure Resumes (first : Moment) (moves : List Move) (task : TaskId) (client : ClientId)
    (e : Option EndpointId) (s : Option StrategyId) (calls : List Contact) (e' : Option EndpointId)
    (s' : Option StrategyId) : Prop where
  /-- The client has what it had and what the factory has yielded to the call, and nothing else. -/
  endpoint : ∀ x, e' = some x ↔ e = some x ∨ .endpointCreated x ∈ calls
  strategy : ∀ σ, s' = some σ ↔ s = some σ ∨ .strategyCreated σ ∈ calls
  /-- The factory is asked for an endpoint only if there is none. -/
  asksEndpoint : .createEndpoint ∈ calls ↔ e = none
  yieldsEndpoint : (∃ x, .endpointCreated x ∈ calls) ↔ e = none ∧ first.world.YieldsEndpoint client
  /-- The factory is asked for a strategy only if there is none, but an endpoint and a target. -/
  asksStrategy : (∃ x, .createStrategy x ∈ calls) ↔
    s = none ∧ (e = none → first.world.YieldsEndpoint client) ∧ first.world.Addressable client
  yieldsStrategy : (∃ σ, .strategyCreated σ ∈ calls) ↔
    s = none ∧ first.YieldsStrategy moves task client
  /-- Nothing is asked for twice. -/
  once : (calls.map Contact.kind).Nodup
  /-- Without a strategy the call leaves the same behind whether it has got as far as to ask for
  one, or there was no target. -/
  unyielded : s = none → (e = none → first.world.YieldsEndpoint client) →
    ¬ first.YieldsStrategy moves task client →
      ∃ x pieces, first.GetsEndpoint client e x pieces ∧ e' = some x ∧ s' = none ∧
        (first.world.Addressable client → calls = pieces ++ [.createStrategy x]) ∧
        (¬ first.world.Addressable client → calls = pieces)

theorem Tried.once (h : first.Tried moves task client e s calls e' s') :
    (calls.map Contact.kind).Nodup := by
  cases h with
  | endpoint => exact of_decide_eq_true rfl
  | target endpoint | strategy endpoint => cases endpoint <;> exact of_decide_eq_true rfl
  | channel strategy =>
      cases strategy with
      | kept => exact of_decide_eq_true rfl
      | made endpoint => cases endpoint <;> exact of_decide_eq_true rfl

theorem Tried.unyielded (h : first.Tried moves task client e s calls e' s') (hnone : s = none)
    (hyields : e = none → first.world.YieldsEndpoint client)
    (never : ¬ first.YieldsStrategy moves task client) :
    ∃ x pieces, first.GetsEndpoint client e x pieces ∧ e' = some x ∧ s' = none ∧
      (first.world.Addressable client → calls = pieces ++ [.createStrategy x]) ∧
      (¬ first.world.Addressable client → calls = pieces) := by
  cases h with
  | endpoint fails => exact absurd (hyields rfl) fails
  | target endpoint unavailable =>
      exact ⟨_, _, endpoint, rfl, rfl, fun addressable => absurd addressable unavailable,
        fun _ => rfl⟩
  | strategy endpoint addressable =>
      exact ⟨_, _, endpoint, rfl, rfl, fun _ => rfl,
        fun unavailable => absurd addressable unavailable⟩
  | channel strategy =>
      cases strategy with
      | kept => cases hnone
      | made _ _ yields => exact absurd yields never

theorem Tried.resumes {history : List Contact} (h : first.Tried moves task client e s calls e' s')
    (hopened : Opened e s history) : first.Resumes moves task client e s calls e' s' := by
  have honce := h.once
  have hunyielded := h.unyielded
  -- the calls are known where it is known what the client has, and what the factory yields
  cases h with
  | endpoint fails never => constructor <;> first | assumption | simp [fails, never]
  | target endpoint unavailable never =>
      cases endpoint with
      | kept => constructor <;> first | assumption | simp [unavailable, never]
      | made x yields =>
        constructor <;> first | assumption | simp [unavailable, never, yields, eq_comm]
  | strategy endpoint addressable never =>
      cases endpoint with
      | kept => constructor <;> first | assumption | simp [addressable, never]
      | made x yields =>
        constructor <;> first | assumption | simp [addressable, never, yields, eq_comm]
  | channel strategy =>
      cases strategy with
      | kept =>
          obtain ⟨x, rfl⟩ := hopened.exists_endpoint rfl
          constructor <;> first | assumption | simp
      | made endpoint addressable yields =>
          cases endpoint with
          | kept => constructor <;> first | assumption | simp [addressable, yields, eq_comm]
          | made x yields' =>
              constructor <;> first | assumption | simp [addressable, yields, yields', eq_comm]

/-- In a run a call for a channel that has the lock goes on, or it was left with one of the
moves. -/
theorem Reachable.trying_or_attempted (h : first.Reachable) (hlocks : first.Locks task client outer)
    (hopen : first.world.state? client = some (.opened e s))
    (hcell : first.world.configOf? client = some cell) (hrun : first.run later = some last) :
    first.Trying later task client outer e s last ∨
      ∃ moves move rest n after, later = moves ++ move :: rest ∧ first.run moves = some n ∧
        n.next move = some after ∧ after.run rest = some last ∧
        first.Trying moves task client outer e s n ∧
        first.Attempted (moves ++ [move]) task client outer e s after := by
  -- the run so far: the call goes on, or the move with which it was left is among the moves
  refine run_history_induction (P := fun later last =>
    first.Trying later task client outer e s last ∨
    ∃ moves move rest n after, later = moves ++ move :: rest ∧ first.run moves = some n ∧
      n.next move = some after ∧ after.run rest = some last ∧
      first.Trying moves task client outer e s n ∧
      first.Attempted (moves ++ [move]) task client outer e s after)
    (.inl (.locks rfl rfl hlocks)) ?_ hrun
  rintro moves m move after hmoves (htrying | ⟨before, left, rest, n, behind, rfl, hbefore, hleft,
    hrest, hattempt⟩) hnext
  · rcases h.trying_next hopen hcell hmoves htrying hnext with hgoes | hattempted
    · exact .inl hgoes
    · exact .inr ⟨moves, move, [], m, after, rfl, hmoves, hnext, rfl, htrying, hattempted⟩
  · exact .inr ⟨before, left, rest ++ [move], n, behind, by simp, hbefore, hleft,
      (run_snoc hrest move).trans hnext, hattempt⟩

/-- A call for a channel was left with a move: its task has given the lock back, and the client has
`e'` and `s'`. -/
structure LeavesWith (first : Moment) (moves : List Move) (move : Move) (after : Moment)
    (task : TaskId) (client : ClientId) (outer : List Frame) (e : Option EndpointId)
    (s : Option StrategyId) (e' : Option EndpointId) (s' : Option StrategyId) : Prop where
  held : ∃ n, first.run moves = some n ∧ n.next move = some after ∧
    n.world.owner? client = some task
  left : after.Left task client outer
  state : after.world.state? client = some (.opened e' s')
  resumes : ∃ calls, after.world.history client = first.world.history client ++ calls ∧
    first.Resumes (moves ++ [move]) task client e s calls e' s'

theorem Reachable.leavesWith (h : first.Reachable) (hrun : first.run moves = some n)
    (hopen : first.world.state? client = some (.opened e s)) (hnext : n.next move = some after)
    (htrying : first.Trying moves task client outer e s n)
    (hattempted : first.Attempted (moves ++ [move]) task client outer e s after) :
    ∃ e' s', first.LeavesWith moves move after task client outer e s e' s' := by
  obtain ⟨calls, e', s', htried, hhistory, hleft⟩ := hattempted
  have hn := h.run hrun
  have hopened := ((h.clientOk client).of_opened hopen).2.1
  have hopened' : Opened e' s' (after.world.history client) := hhistory ▸ htried.opened hopened
  obtain ⟨c, hc, -⟩ := World.state?_eq_some.1 hopen
  obtain ⟨c', hc'⟩ := (run_lasts ((run_snoc hrun move).trans hnext)).found ⟨c, hc⟩
  -- the journal says what the client has: no teardown has taken it away
  obtain ⟨e₁, s₁, hstate, hopened₁⟩ := ((hn.next hnext).clientOk client).exists_opened_of_not_handed
    (World.not_handed_of_opened hopened') hc'
  obtain ⟨rfl, rfl⟩ := hopened₁.unique hopened'
  exact ⟨e₁, s₁, ⟨n, hrun, hnext, htrying.owner hn⟩, hleft, hstate, calls, hhistory,
    htried.resumes hopened⟩

/-! ## What a close closes -/

/-- A teardown has what its client kept, and it closes this once and nothing else. -/
structure ClosesKept (m : Moment) (client : ClientId) (closer : TaskId) (td : Teardown)
    (e : Option EndpointId) (s : Option StrategyId) : Prop where
  endpoint : td.endpoint = e
  strategy : td.strategy = s
  endpointOnce : ∀ x,
    (m.world.history client).count (.closeEndpoint x) ≤ if e = some x then 1 else 0
  strategyOnce : ∀ σ,
    (m.world.history client).count (.closeStrategy σ) ≤ if s = some σ then 1 else 0
  /-- Once the teardown has come to its end the pieces are closed. -/
  ends : ∀ finish, m.world.finish? closer = some finish → finish ≠ .aborted →
    (∀ x, (m.world.history client).count (.closeEndpoint x) = if e = some x then 1 else 0) ∧
    ∀ σ, (m.world.history client).count (.closeStrategy σ) = if s = some σ then 1 else 0

/-- What a closed client has made of a call of its teardown it has made after the teardown was
handed over. -/
theorem Reachable.count_closing (h : m.Reachable) {closer : TaskId} {td : Teardown}
    (hhanded : .teardown closer td ∈ m.world.history client) {call : Contact}
    (hconnecting : call.isConnecting = false) (hteardown : call.isTeardown = false) :
    (m.world.history client).count call = (afterTeardown (m.world.history client)).count call := by
  obtain ⟨outcome, hclosing⟩ := (h.clientOk client).closing hhanded
  have hbefore : (beforeTeardown (m.world.history client)).count call = 0 :=
    List.count_eq_zero.2 fun hmem => by
      cases hconnecting.symm.trans (hclosing.opened.isConnecting hmem)
  have hne : Contact.teardown closer td ≠ call := by
    rintro rfl
    cases hteardown
  rw [congrArg (List.count call) hclosing.history, List.count_append, List.count_cons_of_ne hne,
    hbefore, Nat.zero_add]

/-- A teardown of a client that has what its calls have led to closes that. -/
theorem Reachable.closesKept (h : m.Reachable) {closer : TaskId} {td : Teardown}
    (hhanded : .teardown closer td ∈ m.world.history client)
    (hopened : Opened e s (beforeTeardown (m.world.history client))) :
    m.ClosesKept client closer td e s := by
  obtain ⟨outcome, hclosing⟩ := (h.clientOk client).closing hhanded
  obtain ⟨rfl, rfl⟩ := hclosing.opened.unique hopened
  obtain ⟨skipDrain, skipWait, hfirst, hwhole⟩ := h.sequence hhanded
  refine ⟨rfl, rfl, fun x => ?_, fun σ => ?_, fun finish hfinish hvalue =>
    ⟨fun x => ?_, fun σ => ?_⟩⟩
  · rw [h.count_closing hhanded rfl rfl, ← td.count_closeEndpoint skipDrain skipWait]
    exact hfirst.sublist.count_le _
  · rw [h.count_closing hhanded rfl rfl, ← td.count_closeStrategy skipDrain skipWait]
    exact hfirst.sublist.count_le _
  · rw [h.count_closing hhanded rfl rfl, hwhole finish hfinish hvalue, td.count_closeEndpoint]
  · rw [h.count_closing hhanded rfl rfl, hwhole finish hfinish hvalue, td.count_closeStrategy]

/-! ## Calls that wait for the lock -/

/-- No move but a step changes what an open client keeps, or makes an entry of its journal: a call
for a channel that is stopped or cut short while it waits for the lock changes nothing. -/
theorem CallsFit.kept (h : m.CallsFit) (hnext : m.next move = some after) (hmove : move ≠ .step)
    (hopen : m.world.state? client = some (.opened e s)) :
    after.world.state? client = some (.opened e s) ∧
      after.world.history client = m.world.history client :=
  h.still hnext hopen fun hstep => absurd hstep hmove

/-- A call for a channel that fails, panics or is stopped leaves a client on which the next one can
go on. An open client keeps what its factory has yielded to earlier calls. A call that has just
taken the lock of a client with a configuration goes on, or with one of the moves it has been left:
then its task has given the lock back, the client keeps besides what the factory has yielded to this
call, and the call has asked for the first missing pieces only. A close that comes next closes each
piece that was kept once, and no other. A call that is stopped before it has the lock changes
nothing. -/
theorem attempts_resumable {before : List Move} (hbefore : start.run before = some first)
    (hlocks : first.Locks task client outer)
    (hopen : first.world.state? client = some (.opened e s))
    (hconfig : ∃ cell, first.world.configOf? client = some cell)
    (hlater : first.run later = some last) :
    (∀ x, e = some x ↔ .endpointCreated x ∈ first.world.history client) ∧
    (∀ σ, s = some σ ↔ .strategyCreated σ ∈ first.world.history client) ∧
    (last.Asks task client outer ∨
      ∃ moves move rest after e' s', later = moves ++ move :: rest ∧ after.run rest = some last ∧
        first.LeavesWith moves move after task client outer e s e' s' ∧
        ∀ closer td, .teardown closer td ∈ last.world.history client →
          beforeTeardown (last.world.history client) = after.world.history client →
            last.ClosesKept client closer td e' s') ∧
    ∀ {m n : Moment} {move e₀ s₀}, m.Reachable → m.next move = some n → move ≠ .step →
      m.world.state? client = some (.opened e₀ s₀) →
        n.world.state? client = some (.opened e₀ s₀) ∧
        n.world.history client = m.world.history client ∧
        ∀ caller, move = .abort caller → m.Asks caller client outer →
          n.Left caller client outer := by
  have hfirst : first.Reachable := ⟨before, hbefore⟩
  have hopened := ((hfirst.clientOk client).of_opened hopen).2.1
  obtain ⟨cell, hcell⟩ := hconfig
  refine ⟨fun x => (hopened.endpointCreated_iff x).symm,
    fun σ => (hopened.strategyCreated_iff σ).symm, ?_, ?_⟩
  · -- the call goes on to the end of the run, or one of the moves has ended it
    rcases hfirst.trying_or_attempted hlocks hopen hcell hlater with htrying |
      ⟨moves, move, rest, n, after, rfl, hmoves, hnext, hrest, htrying, hattempted⟩
    · exact .inl htrying.asks
    · obtain ⟨e', s', hleaves⟩ := hfirst.leavesWith hmoves hopen hnext htrying hattempted
      have hafter := (hfirst.run hmoves).next hnext
      refine .inr ⟨moves, move, rest, after, e', s', rfl, hrest, hleaves, ?_⟩
      intro closer td hhanded hthen
      have hkept := ((hafter.clientOk client).of_opened hleaves.state).2.1
      exact (hafter.run hrest).closesKept hhanded (hthen ▸ hkept)
  · intro m n move e₀ s₀ hm hnext hmove hstate
    obtain ⟨hstate', hhistory⟩ := hm.fits.kept hnext hmove hstate
    refine ⟨hstate', hhistory, ?_⟩
    rintro caller rfl ⟨t, ht, -⟩
    exact (hm.next hnext).left_of_hasEnded (hasEnded_of_abort hnext ht)

/-- A call for a channel whose factory makes an endpoint and then fails: it has the lock. -/
def lockedCall : List Move :=
  [.build (.recorded { (default : FactoryPlan) with
      strategies := [{ (default : StrategyPlan) with failure := some refused }] }) default,
    .act (.getChannel 0 "get"), .poll 0, .step, .step]

/-- The moment at which the call has the lock. -/
def lockedCaller : Moment := (start.run lockedCall).get (by decide +kernel)

/-- The moment at which the call has failed. -/
def failedCaller : Moment := (lockedCaller.run (List.replicate 4 .step)).get (by decide +kernel)

theorem attempts_resumable_of_refused :
    start.run lockedCall = some lockedCaller ∧ lockedCaller.Locks 0 0 [] ∧
      lockedCaller.world.state? 0 = some (.opened none none) ∧
      (∃ cell, lockedCaller.world.configOf? 0 = some cell) ∧
      lockedCaller.run (List.replicate 4 .step) = some failedCaller ∧
      failedCaller.world.state? 0 = some (.opened (some 0) none) ∧
      ∃ moves move rest after e' s', List.replicate 4 Move.step = moves ++ move :: rest ∧
        after.run rest = some failedCaller ∧
        lockedCaller.LeavesWith moves move after 0 0 [] none none e' s' := by
  have hrun : start.run lockedCall = some lockedCaller := (Option.some_get _).symm
  have hlocks : lockedCaller.Locks 0 0 [] := ⟨_, _, rfl, rfl, rfl, rfl⟩
  have hopen : lockedCaller.world.state? 0 = some (.opened none none) := by rfl
  have hconfig : ∃ cell, lockedCaller.world.configOf? 0 = some cell := ⟨_, rfl⟩
  have hfails : lockedCaller.run (List.replicate 4 .step) = some failedCaller :=
    (Option.some_get _).symm
  refine ⟨hrun, hlocks, hopen, hconfig, hfails, by rfl, ?_⟩
  have hover : ¬ failedCaller.Asks 0 0 [] := by
    rintro ⟨t, ht, hasks⟩
    cases ht
    exact Task.not_asks (.reply _) (Nat.le_refl _) hasks
  obtain hasks | ⟨moves, move, rest, after, e', s', heq, hrest, hleaves, -⟩ :=
    (attempts_resumable hrun hlocks hopen hconfig hfails).2.2.1
  · exact absurd hasks hover
  · exact ⟨moves, move, rest, after, e', s', heq, hrest, hleaves⟩

end Moment

end Remoting
