import Remoting.Proofs.Order
import Remoting.Proofs.Replying

/-!
# What a teardown tells the handler of its client

A client that is made with a handler of its own keeps it. In the run from there the teardown of the
client is the only one that tells this handler on behalf of the client to shut down, and it does so
in a step of its task. From the first of these steps on the handler admits no operation.
-/

namespace Remoting

theorem Contact.not_isConnecting {call : Contact} (h : call.isClosing = true) :
    call.isConnecting = false := by
  cases call <;> first | rfl | cases h

/-- The stage of a teardown at which the handler is told to admit no more operations. -/
theorem Teardown.eq_shutdown_of_call? {td : Teardown} {interrupted : Bool} {stage : Teardown.Stage}
    (h : td.call? interrupted stage = some .shutdown) : stage = .shutdown := by
  cases stage with
  | shutdown => rfl
  | closeStrategy | closeEndpoint | awaitEndpoint =>
      obtain ⟨part, -, heq⟩ := Option.map_eq_some_iff.1 h
      cases interrupted <;> cases heq
  | drain =>
      cases interrupted <;> cases h
  | _ => cases h

namespace World

variable {w : World} {client : ClientId} {handler : HandlerId}

theorem admits?_eq_none {tracker : Tracker} (htracker : w.tracker? handler = some tracker)
    (hrefuses : tracker.accepting = false) : w.admits? handler = none := by
  simp [admits?, htracker, hrefuses]

/-- Cleanup actions are added to a configuration only. -/
theorem parts_addDisposers (w : World) (config : Nat) (disposers : List Disposer) :
    (w.addDisposers config disposers).clients = w.clients ∧
      (w.addDisposers config disposers).handlers = w.handlers ∧
      (w.addDisposers config disposers).contacts = w.contacts := by
  induction disposers generalizing w with
  | nil => exact ⟨rfl, rfl, rfl⟩
  | cons disposer disposers ih =>
      have hadd : (w.addDisposer config disposer).2.clients = w.clients ∧
          (w.addDisposer config disposer).2.handlers = w.handlers ∧
          (w.addDisposer config disposer).2.contacts = w.contacts := by
        unfold addDisposer
        split <;> exact ⟨rfl, rfl, rfl⟩
      obtain ⟨hclients, hhandlers, hcontacts⟩ := ih (w.addDisposer config disposer).2
      exact ⟨hclients.trans hadd.1, hhandlers.trans hadd.2.1, hcontacts.trans hadd.2.2⟩

/-- A client that is made has a new handler unless it has a recording association. -/
theorem parts_addClient (w : World) (spec : ClientSpec) (trace : AllocationTrace) :
    (w.addClient spec trace).contacts = w.contacts ∧ ∃ config association,
      (w.addClient spec trace).clients =
        w.clients ++ [.fresh config association spec.factory trace] ∧
      match spec.recorder with
      | none => association = .handler w.handlers.length ∧
          ∃ supplier, (w.addClient spec trace).handlers = w.handlers ++ [⟨.empty, supplier⟩]
      | some plan => association = .recorder plan := by
  have hsource : (w.addSource spec.config).2.clients = w.clients ∧
      (w.addSource spec.config).2.handlers = w.handlers ∧
      (w.addSource spec.config).2.contacts = w.contacts := by
    cases spec.config <;> exact ⟨rfl, rfl, rfl⟩
  unfold World.addClient
  generalize w.addSource spec.config = source at hsource
  obtain ⟨config, v⟩ := source
  obtain ⟨hclients', hhandlers', hcontacts'⟩ := parts_addDisposers v config spec.disposers
  have hclients := hclients'.trans hsource.1
  have hhandlers := hhandlers'.trans hsource.2.1
  have hcontacts := hcontacts'.trans hsource.2.2
  cases spec.recorder with
  | none =>
      refine ⟨hcontacts, config, _, ?_, rfl, .client w.clients.length, ?_⟩
      · simp [addAssociation, addHandler, placeClient, hclients, hhandlers]
      · simp [addAssociation, addHandler, placeClient, hhandlers]
  | some plan =>
      refine ⟨hcontacts, config, .recorder plan, ?_, rfl⟩
      simp [addAssociation, placeClient, hclients]

theorem clientDeeds_of_association (h : w.association? client = some (.handler handler))
    (deeds : List Deed) : w.clientDeeds client handler deeds = deeds := by
  simp [clientDeeds, h, deedsAt]

end World

namespace Moment

variable {before made m after last : Moment} {move : Move} {moves : List Move} {client : ClientId}
  {handler : HandlerId} {t : Task} {td : Teardown} {stage : Teardown.Stage} {call : Contact}

/-- A call of a teardown that comes about in a run is made in a step of its task, at the stage for
it. -/
theorem exists_stage (hm : m.Reachable) (hrun : m.run moves = some last)
    (hnot : call ∉ m.world.history client) (hcall : call ∈ last.world.history client)
    (hclosing : call.isClosing = true) (hrelease : call ≠ .release) :
    ∃ before later first second t td stage, moves = before ++ .step :: later ∧
      m.run before = some first ∧ first.next .step = some second ∧ second.run later = some last ∧
      first.polled? = some t ∧ td.client = client ∧ t.control = .call (.teardown td stage) ∧
      td.call? (first.world.interrupted td) stage = some call := by
  obtain ⟨before, move, later, first, second, rfl, hfirst, hnext, hlater, hbefore, hafter⟩ :=
    exists_change (P := fun m => (client, call) ∈ m.world.contacts) hrun
      (fun hmem => hnot (World.mem_history.2 hmem)) (World.mem_history.1 hcall)
  rcases ((hm.run hfirst).fits.next hnext).adds.entry hafter with hmem | hrel | ⟨t, ht, hmakes⟩
  · exact absurd hmem hbefore
  · exact absurd hrel hrelease
  rcases hmakes with ⟨hconnecting, -⟩ | hrel | ⟨td, stage, hclient, hcontrol, hmade⟩ |
    ⟨joined, td, -, rfl, -⟩
  · cases (Contact.not_isConnecting hclosing).symm.trans hconnecting
  · exact absurd hrel hrelease
  · obtain rfl := next_eq_step hnext ht fun wait heq => by cases hcontrol.symm.trans heq
    exact ⟨before, later, first, second, t, td, stage, rfl, hfirst, hnext, hlater, ht, hclient,
      hcontrol, hmade⟩
  · cases hclosing

/-- A client that has made no call yet has a handler for its operations and a configuration. -/
structure Founded (m : Moment) (client : ClientId) (handler : HandlerId) : Prop where
  silent : m.world.history client = []
  association : m.world.association? client = some (.handler handler)
  tracker : ∃ tracker, m.world.tracker? handler = some tracker
  config : ∃ cell, m.world.configOf? client = some cell

/-- A client that is made without a recording association gets a handler of its own. -/
theorem founded_of_build {spec : ClientSpec} {trace : AllocationTrace} (hbefore : before.Reachable)
    (hbuild : before.next (.build spec trace) = some made) (hrecorder : spec.recorder = none)
    (hconfig : ∃ cell, made.world.configOf? before.world.clients.length = some cell) :
    made.Founded before.world.clients.length before.world.handlers.length := by
  cases next_transition hbuild
  obtain ⟨hcontacts, config, association, hclients, hparts⟩ :=
    before.world.parts_addClient spec trace
  rw [hrecorder] at hparts
  obtain ⟨rfl, supplier, hhandlers⟩ := hparts
  refine ⟨?_, ?_, ⟨.empty, ?_⟩, hconfig⟩
  · have hnone : before.world.state? before.world.clients.length = none := by
      rw [World.state?, List.getElem?_eq_none (Nat.le_refl _), Option.map_none]
    have hempty := hbefore.clientOk before.world.clients.length
    rw [World.ClientOk, hnone] at hempty
    rw [World.history_of_contacts hcontacts]
    exact hempty
  · simp [World.association?, hclients, Client.fresh]
  · simp [World.tracker?, hhandlers]

/-- The handler of a client is there. -/
theorem Reachable.exists_tracker (h : m.Reachable)
    (hassociation : m.world.association? client = some (.handler handler)) :
    ∃ tracker, m.world.tracker? handler = some tracker := by
  refine Reachable.induction (P := fun m => ∀ {client : ClientId} {handler : HandlerId},
    m.world.association? client = some (.handler handler) →
      ∃ tracker, m.world.tracker? handler = some tracker) (fun hfound => by cases hfound)
    (fun {m after move} ih hnext client handler hfound => ?_) h hassociation
  have hlasts := next_lasts hnext
  obtain ⟨c, hc, hassociated⟩ := Option.map_eq_some_iff.1 hfound
  by_cases hold : client < m.world.clients.length
  · -- the client has kept its association
    have hbefore : m.world.association? client = some m.world.clients[client].association := by
      rw [World.association?, List.getElem?_eq_getElem hold, Option.map_some]
    rw [Option.some.inj ((hlasts.association hbefore).symm.trans hfound)] at hbefore
    obtain ⟨tracker, htracker⟩ := ih hbefore
    obtain ⟨tracker', htracker', -⟩ := hlasts.wanes htracker
    exact ⟨tracker', htracker'⟩
  · -- the client is the one that was made
    obtain ⟨spec, trace, rfl⟩ : ∃ spec trace, move = .build spec trace := by
      by_contra hnone
      have hlength := congrArg List.length
        (next_traces hnext fun spec trace heq => hnone ⟨spec, trace, heq⟩)
      simp only [World.traces, List.length_map] at hlength
      exact hold (hlength ▸ (List.getElem?_eq_some_iff.1 hc).1)
    cases next_transition hnext
    obtain ⟨-, config, association, hclients, hparts⟩ := m.world.parts_addClient spec trace
    rw [show (m.world.addClient spec trace).clients = _ from hclients,
      List.getElem?_append_right (Nat.not_lt.1 hold), List.getElem?_singleton] at hc
    split at hc <;> cases hc
    rw [show association = _ from hassociated] at hparts
    split at hparts
    next =>
      obtain ⟨heq, supplier, hhandlers⟩ := hparts
      cases heq
      exact ⟨.empty, by simp [World.tracker?, hhandlers]⟩
    next => cases hparts

/-- The record of the client's handler after a stage of the client's teardown. -/
theorem Founded.told (h : made.Founded client handler) (hrun : made.run moves = some m)
    (ht : m.polled? = some t) (hcontrol : t.control = .call (.teardown td stage))
    (hnext : m.next .step = some after) :
    m.world.association? client = some (.handler handler) ∧
      ∃ tracker, m.world.tracker? handler = some tracker ∧ after.world.tracker? handler =
        some ((m.world.stageDeeds handler td stage).foldl Tracker.after tracker) := by
  have hlasts := run_lasts hrun
  obtain ⟨tracker, htracker⟩ := h.tracker
  obtain ⟨tracker', htracker', -⟩ := hlasts.wanes htracker
  refine ⟨hlasts.association h.association, tracker', htracker', ?_⟩
  have hdeeds : m.deeds handler .step = m.world.stageDeeds handler td stage := by
    simp only [Moment.deeds, ht, hcontrol]
    rfl
  rw [(next_turns hnext (Move.spares_step handler)).tracker_eq htracker', hdeeds]

/-- The handler of a client admits no operation after the teardown has told it to shut down. -/
theorem Founded.refuses (h : made.Founded client handler) (hmade : made.Reachable)
    (hrun : made.run moves = some m) (hshutdown : .shutdown ∈ m.world.history client) :
    ∃ tracker, m.world.tracker? handler = some tracker ∧ tracker.accepting = false := by
  obtain ⟨before, later, first, second, t, td, stage, -, hfirst, hnext, hlater, ht, rfl, hcontrol,
    hmade'⟩ := exists_stage hmade hrun (by rw [h.silent]; exact List.not_mem_nil) hshutdown rfl
      (fun heq => by cases heq)
  obtain rfl := Teardown.eq_shutdown_of_call? hmade'
  obtain ⟨hassociation, tracker, -, hafter⟩ := h.told hfirst ht hcontrol hnext
  rw [World.stageDeeds, World.clientDeeds_of_association hassociation] at hafter
  obtain ⟨tracker', htracker', hwanes⟩ := (run_lasts hlater).wanes hafter
  exact ⟨tracker', htracker', (hwanes rfl).1⟩

/-- The configuration of a client is released after the teardown has done so. -/
theorem Founded.released (h : made.Founded client handler) (hrun : made.run moves = some m)
    (hrelease : .release ∈ m.world.history client) : m.world.Released client := by
  obtain ⟨cell, hcell⟩ := h.config
  rcases (run_lasts hrun).released (World.mem_history.1 hrelease) with hmem | hreleased
  · have hmem' := World.mem_history.2 hmem
    rw [h.silent] at hmem'
    cases hmem'
  · exact hreleased hcell

end Moment

end Remoting
