import Remoting.Proofs.Returning

/-!
# The outcome of a close

All closes of a client have one outcome, that of its teardown. The first close, which waits for the
task of the teardown, hands on the error itself, and later ones hand on copies of the copy that the
client has kept; a caller cannot tell these apart. Which outcome it is depends on the endpoint and
on the token of the close that was the first to get the lock.
-/

namespace Remoting

/-- What a caller can tell from a reply: of an error its category, its wording and whether it
reports an interrupted wait. -/
def outwardly (reply : Reply) : Except (Error.Kind × String × Bool) Value :=
  reply.mapError fun e => (e.kind, e.message, e.isInterrupted)

namespace World

variable {w : World} {task joined : TaskId} {client : ClientId} {control : Control}
  {frames : List Frame} {t : Teardown} {outcome result : Except Error Unit} {reply : Reply}

/-- The endpoint that a teardown closes, if there is one, gives its name. -/
def Names (w : World) (t : Teardown) (name : String) : Prop :=
  ∀ endpoint, t.endpoint = some endpoint → w.endpointName endpoint = .ok name

/-- The outcome of a teardown whose wait for the endpoint ends now, if the endpoint has a name. -/
def namedVerdict (w : World) (t : Teardown) (name : String) : Except Error Unit :=
  match t.endpoint with
  | none => .ok ()
  | some endpoint =>
    if w.interrupted t then
      .error (.interrupted ("Interrupted while waiting for endpoint " ++ name ++ " to close"))
    else
      match w.awaitPanic? endpoint with
      | some content => .error (.ofPanic content)
      | none => .ok ()

theorem verdict_eq_namedVerdict {name : String} (h : w.Names t name) :
    w.verdict t = w.namedVerdict t name := by
  unfold verdict namedVerdict
  cases hendpoint : t.endpoint with
  | none => rfl
  | some endpoint =>
      cases hinterrupted : w.interrupted t with
      | false => rfl
      | true =>
          have hname := h endpoint hendpoint
          exact congrArg Except.error (by simp only [interruption, hname])

/-- A teardown does not fail with a JSON error. -/
theorem kind_of_verdict {e : Error} (h : w.verdict t = .error e) : e.kind ≠ .json := by
  unfold verdict at h
  split at h
  · cases h
  · split at h
    · cases h
      unfold interruption
      split <;> nofun
    · split at h <;> cases h
      nofun

theorem closeReply_injective : Function.Injective closeReply := by
  rintro (e | ⟨⟩) (e' | ⟨⟩) h <;> cases h <;> rfl

/-- A copy of the outcome of a teardown cannot be told from the outcome. -/
theorem outwardly_copy (h : result = w.verdict t) :
    outwardly (closeReply (result.mapError Error.clone)) = outwardly (closeReply result) := by
  cases result with
  | ok => rfl
  | error e =>
      have hkind := kind_of_verdict h.symm
      show Except.error (e.clone.kind, e.clone.message, e.clone.isInterrupted) = _
      rw [e.kind_clone hkind, e.message_clone hkind, Error.isInterrupted, Error.ioKind?_clone]
      rfl

/-! ## The lock of a closed client -/

/-- Where another task has the lock of a closed client, the task of its teardown has ended. -/
theorem Closing.finished_of_owner (h : w.Closing client outcome joined t)
    (hfit : w.CallsFit (some task)) (howner : w.owner? client = some task) (hne : joined ≠ task) :
    ∃ finish, w.finish? joined = some finish := by
  rcases h.started with ⟨t', ht', rfl⟩ | hfinish
  · exfalso
    obtain ⟨hrest, hok⟩ := hfit.resting ht' fun heq => hne (Option.some.inj heq).symm
    -- as long as it is there it has the lock itself
    have hlock : ∀ {hold : Hold}, w.Held t'.id t.client hold → False := by
      rintro hold ⟨howner', -⟩
      rw [h.client_eq, howner] at howner'
      exact hne (Option.some.inj howner').symm
    obtain ⟨job, hstack, hjob⟩ : ∃ job, w.Stack t'.id job t'.frames ∧
        (job = .teardown t → ∃ stage, t'.control = .call (.teardown t stage)) := by
      have htyped := hok.typed
      cases hcontrol : t'.control with
      | call call =>
          rw [hcontrol] at htyped
          refine ⟨call.job, htyped, fun hjob => ?_⟩
          cases call <;> cases hjob
          exact ⟨_, rfl⟩
      | wait wait =>
          rw [hcontrol] at htyped
          exact ⟨.wait wait, htyped, nofun⟩
      | _ =>
          rw [hcontrol] at hrest
          cases hrest
    rcases hstack.duty (mem_history.1 h.handed) with ⟨-, hteardown⟩ | ⟨inner, pause, hframes⟩
    · obtain ⟨stage, hcontrol⟩ := hjob hteardown
      exact hlock (hok.callHolds (by rw [hcontrol]; rfl))
    · have hmem : Frame.teardown t pause ∈ t'.frames := by simp [hframes]
      exact hlock (hok.frameHolds hmem rfl)
  · exact hfinish

/-- A close that gets the lock returns at once only if the client is closed. -/
theorem lockedClose_control {t' : Task} {interrupt : Option TokenName}
    (howner : w.owner? client = some task)
    (ht' : (w.lockedClose task client interrupt frames).task? task = some t')
    (hcontrol : t'.control = .reply reply) : ∃ outcome, w.state? client = some (.closed outcome) ∧
      reply = closeReply (outcome.mapError Error.clone) := by
  unfold World.lockedClose at ht'
  split at ht'
  next => cases (of_task?_goto ht').1.symm.trans hcontrol
  next outcome hstate =>
    cases (of_task?_goto ht').1.symm.trans hcontrol
    exact ⟨outcome, hstate, rfl⟩
  next hnone =>
    rw [Option.map_eq_none_iff] at hnone
    rw [owner?, hnone] at howner
    cases howner

theorem ClientOk.closing_of_state (h : w.ClientOk client)
    (hstate : w.state? client = some (.closed outcome)) :
    ∃ task t, w.Closing client outcome task t := by
  rw [ClientOk, hstate] at h
  exact h.2

/-- A teardown that was not lost ends with the outcome that its client has kept a copy of. -/
theorem Closing.exists_result {finish : Finish} (h : w.Closing client outcome joined t)
    (hlost : ¬ w.LostTeardown client) (hfinish : w.finish? joined = some finish) :
    ∃ result, finish = .value (closeReply result) ∧ outcome = result.mapError Error.clone := by
  rcases h.ended hfinish with rfl | ⟨result, rfl, houtcome, -⟩
  · exact absurd ⟨joined, t, mem_history.1 h.handed, hfinish⟩ hlost
  · exact ⟨result, rfl, houtcome⟩

end World

namespace Moment

variable {m after last : Moment} {moves : List Move} {client : ClientId} {reply : Reply}

/-- A close returns after the teardown has ended, and with its outcome or a copy of it. -/
theorem Returns.outcome (h : m.Reachable) (hlost : ¬ m.world.LostTeardown client)
    (hreturns : m.Returns after (.close client) reply) :
    ∃ task t result, .teardown task t ∈ m.world.history client ∧
      m.world.finish? task = some (.value (World.closeReply result)) ∧
      (reply = World.closeReply result ∨
        reply = World.closeReply (result.mapError Error.clone)) := by
  obtain ⟨t, frame, frames, reply', -, hjob, hat, t', ht', hcontrol⟩ :=
    hreturns.resume h.fits (.inr rfl)
  obtain ⟨job, hawaits, hstack, hdelivers⟩ := hat.reply
  have hclient := h.clientOk client
  cases frame with
  | closeLock client' interrupt =>
      cases hjob
      cases hawaits
      have howner : m.world.owner? client = some t.id := hdelivers
      obtain ⟨outcome, hstate, rfl⟩ := World.lockedClose_control howner ht' hcontrol
      obtain ⟨task, td, hclosing⟩ := hclient.closing_of_state hstate
      -- a task that waits for the lock inside a close does not run the teardown
      have hne : task ≠ t.id := by
        rintro rfl
        rcases hstack.duty (World.mem_history.1 hclosing.handed) with ⟨-, hteardown⟩ |
          ⟨inner, pause, rfl⟩
        · cases hteardown
        · cases hstack.hold?_eq_none rfl (.teardown td pause) (by simp)
      obtain ⟨finish, hfinish⟩ := hclosing.finished_of_owner hat.fits howner hne
      obtain ⟨result, rfl, rfl⟩ := hclosing.exists_result hlost hfinish
      refine ⟨task, td, result, hclosing.handed, hfinish, .inr ?_⟩
      cases result with
      | ok => rfl
      | error e =>
          show World.closeReply (.error e.clone.clone) = _
          rw [e.clone_clone]
          rfl
  | closeJoin client' =>
      cases hjob
      obtain ⟨task, td, rfl, hhanded⟩ := hawaits
      have hfinish : m.world.finish? task = some (.value reply') := hdelivers
      cases (World.of_task?_goto ht').1.symm.trans hcontrol
      have hhanded' := World.mem_history.2 hhanded
      obtain ⟨outcome, hclosing⟩ := hclient.closing hhanded'
      obtain ⟨result, hvalue, -⟩ := hclosing.exists_result hlost hfinish
      cases hvalue
      exact ⟨task, td, result, hhanded', hfinish, .inl rfl⟩
  | recordLock client' error =>
      cases hjob
      exact absurd hawaits.2.2 hlost
  | _ => cases hjob

/-- A teardown was handed to its task by the close that was the first to get the lock. -/
theorem exists_takes {task : TaskId} {t : Teardown} (hrun : start.run moves = some last)
    (hhanded : .teardown task t ∈ last.world.history client) :
    ∃ first closer, Visits moves first ∧ first.polled? = some closer ∧
      first.world.Takes closer t := by
  obtain ⟨first, hvisits, hmakes⟩ := exists_makes hrun hhanded
  rcases hmakes with hrelease | ⟨closer, hcloser, hmakes⟩
  · cases hrelease
  rcases hmakes with ⟨hconnecting, -⟩ | hrelease | ⟨td, stage, -, -, hmade⟩ |
    ⟨joined, td, -, hcall, htakes⟩
  · cases hconnecting
  · cases hrelease
  · have hclosing := Teardown.isClosing_of_call? hmade
    cases hclosing
  · cases hcall
    exact ⟨first, closer, hvisits, hcloser, htakes⟩

/-- All closes of a client agree. Unless its teardown was lost, each close that returns does so
after the teardown has ended and with an outcome that cannot be told from that of the teardown. If
the endpoint gives its name, this is the verdict over the endpoint and the token of the close that
was the first to get the lock. -/
theorem closers_agree (hrun : start.run moves = some last)
    (hlost : ¬ last.world.LostTeardown client) (hvisits : Visits moves m)
    (hreturns : m.Returns after (.close client) reply) :
    ∃ task t result, t.client = client ∧ .teardown task t ∈ m.world.history client ∧
      (∃ first closer, Visits moves first ∧ first.polled? = some closer ∧
        first.world.Takes closer t) ∧
      (∃ ending t', Visits moves ending ∧ t'.id = task ∧
        ending.Ends t' (World.closeReply result) ∧
        ∀ name, ending.world.Names t name → result = ending.world.namedVerdict t name) ∧
      ∀ {m' after' reply'}, Visits moves m' → m'.Returns after' (.close client) reply' →
        m'.world.finish? task = some (.value (World.closeReply result)) ∧
          outwardly reply' = outwardly (World.closeReply result) := by
  -- what is known of a close at the moment at which it returns is also known at the end
  have hreturned : ∀ {m' after' reply'}, Visits moves m' →
      m'.Returns after' (.close client) reply' →
        ∃ task t result, .teardown task t ∈ m'.world.history client ∧
        .teardown task t ∈ last.world.history client ∧
        m'.world.finish? task = some (.value (World.closeReply result)) ∧
        last.world.finish? task = some (.value (World.closeReply result)) ∧
        (reply' = World.closeReply result ∨
          reply' = World.closeReply (result.mapError Error.clone)) := by
    intro m' after' reply' hvisits' hreturns'
    have hgrows := hvisits'.grows hrun
    have hlost' : ¬ m'.world.LostTeardown client := by
      rintro ⟨task, t, hhanded, haborted⟩
      exact hlost ⟨task, t, hgrows.mem hhanded, hgrows.finished haborted⟩
    obtain ⟨task, t, result, hhanded, hfinish, hreply⟩ :=
      hreturns'.outcome hvisits'.reachable hlost'
    exact ⟨task, t, result, hhanded,
      World.mem_history.2 (hgrows.mem (World.mem_history.1 hhanded)), hfinish,
      hgrows.finished hfinish, hreply⟩
  obtain ⟨task, t, result, hhanded, hlast, -, hfinish, -⟩ := hreturned hvisits hreturns
  obtain ⟨outcome, hclosing⟩ := (Reachable.clientOk ⟨moves, hrun⟩ client).closing hlast
  obtain ⟨ending, t', hending, hthere, hid, hends⟩ := exists_ends hrun hlast hfinish
  have hverdict : result = ending.world.verdict t := by
    rw [← hid] at hthere
    exact World.closeReply_injective (hending.reachable.fits.reply_eq hends hthere)
  refine ⟨task, t, result, hclosing.client_eq, hhanded, exists_takes hrun hlast,
    ⟨ending, t', hending, hid, hends, fun name hname =>
      hverdict.trans (World.verdict_eq_namedVerdict hname)⟩, fun hvisits' hreturns' => ?_⟩
  obtain ⟨task', td, result', -, hlast', hthen, hfinish', hreply⟩ := hreturned hvisits' hreturns'
  obtain ⟨rfl, rfl⟩ := hclosing.unique hlast'
  have hsame : result' = result := by
    rw [hfinish, Option.some.injEq, Finish.value.injEq] at hfinish'
    exact (World.closeReply_injective hfinish').symm
  subst hsame
  refine ⟨hthen, ?_⟩
  rcases hreply with rfl | rfl
  · rfl
  · exact World.outwardly_copy hverdict

/-- A client is connected, and two calls close it; the token of the first one is cancelled. The
teardown ends, and the first close is about to return. -/
def firstReturn : List Move :=
  [.build (.recorded default) default, .act (.getChannel 0 "channel")] ++ Move.pollAll 0 10 0 ++
    [.act (.close 0 "first" (some "token")), .act (.close 0 "second" none),
      .act (.interrupt "token")] ++
    (Move.pollAll 1 3 0 ++ Move.pollAll 2 1 0 ++ Move.pollAll 3 11 0) ++ [.poll 1, .step]

/-- The moves after that, up to the return of the second close. -/
def secondReturn : List Move :=
  [.step, .step, .expire, .rest, .poll 2, .step]

/-- The moment at which the first close returns. -/
def early : Moment := (start.run firstReturn).get (by decide +kernel)

/-- The moment at which the second close returns. -/
def later : Moment := (start.run (firstReturn ++ secondReturn)).get (by decide +kernel)

/-- The error with which both closes return. -/
def interruptedClose : Error :=
  .interrupted "Interrupted while waiting for endpoint management to close"

theorem closers_agree_of_two_closers :
    start.run (firstReturn ++ secondReturn) = some later ∧ ¬ later.world.LostTeardown 0 ∧
      ∃ after after' reply', early.Returns after (.close 0) (.error interruptedClose) ∧
        later.Returns after' (.close 0) reply' ∧
        outwardly reply' = outwardly (.error interruptedClose) := by
  have hrun : start.run (firstReturn ++ secondReturn) = some later := (Option.some_get _).symm
  have hearly : Visits (firstReturn ++ secondReturn) early :=
    ⟨firstReturn, secondReturn, rfl, (Option.some_get _).symm⟩
  have hlater : Visits (firstReturn ++ secondReturn) later :=
    ⟨firstReturn ++ secondReturn, [], (List.append_nil _).symm, hrun⟩
  have hlost : ¬ later.world.LostTeardown 0 := by
    rintro ⟨task, t, hhanded, haborted⟩
    obtain ⟨outcome, hclosing⟩ :=
      (hlater.reachable.clientOk 0).closing (World.mem_history.2 hhanded)
    have hthere : .teardown 3 ⟨0, some 0, some 0, some "token"⟩ ∈ later.world.history 0 := by
      decide +kernel
    obtain ⟨rfl, -⟩ := hclosing.unique hthere
    have hfinish : later.world.finish? 3 = some (.value (.error interruptedClose)) := rfl
    rw [hfinish] at haborted
    cases haborted
  have hreturns : early.Returns ((early.next .step).get (by decide +kernel)) (.close 0)
      (.error interruptedClose) :=
    ⟨(Option.some_get _).symm, ⟨1, .reply (.error interruptedClose), [.closeJoin 0], some 0, none⟩,
      .closeJoin 0, [], rfl, rfl, rfl, rfl⟩
  have hreturns' : later.Returns ((later.next .step).get (by decide +kernel)) (.close 0)
      (.error interruptedClose.clone.clone) :=
    ⟨(Option.some_get _).symm, ⟨2, .reply (.ok .unit), [.closeLock 0 none], some 0, none⟩,
      .closeLock 0 none, [], rfl, rfl, rfl, rfl⟩
  obtain ⟨task, t, result, -, -, -, -, hagree⟩ := closers_agree hrun hlost hearly hreturns
  obtain ⟨-, hfirst⟩ := hagree hearly hreturns
  obtain ⟨-, hsecond⟩ := hagree hlater hreturns'
  exact ⟨hrun, hlost, _, _, _, hreturns, hreturns', hsecond.trans hfirst.symm⟩

end Moment

end Remoting
