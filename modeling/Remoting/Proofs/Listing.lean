import Remoting.Proofs.Leaks

/-!
# Which clients are open

That a client is closed is noted three times: in its connection, which is read under its lock, in a
flag that is read without the lock, and in the registry of all open clients. The three change in the
same step, in which a close takes the lock of the open client. `open_clients_are_listed` says so of
every run, and which entries of the registry a move can add and remove.
-/

namespace Remoting

namespace World

variable {w : World} {client : ClientId} {id : Nat} {trace : AllocationTrace}

theorem standing?_eq_some {closed : Bool} : w.standing? client = some (closed, trace) ↔
    ∃ c, w.clients[client]? = some c ∧ c.closed = closed ∧ c.trace = trace := by
  simp only [standing?, Option.map_eq_some_iff, Prod.mk.injEq]

theorem getElem?_traces (w : World) (client : ClientId) : w.traces[client]? = w.trace? client :=
  List.getElem?_map

/-- The listing has the open clients, each with where it was created. -/
theorem Registered.mem_unclosed (h : w.Registered) : (id, trace) ∈ w.unclosed ↔
    ∃ client, id = client + 1 ∧ w.standing? client = some (false, trace) :=
  Registry.mem_snapshot.trans h.mem

/-- An open client is listed with where it was created, and a closed one is not listed. -/
theorem Registered.listed_iff (h : w.Registered) {c : Client} (hc : w.clients[client]? = some c) :
    (client + 1, trace) ∈ w.unclosed ↔ c.closed = false ∧ c.trace = trace := by
  rw [h.mem_unclosed]
  constructor
  · rintro ⟨other, heq, hstanding⟩
    obtain rfl := Nat.succ.inj heq
    obtain ⟨c', hc', hopen, htrace⟩ := standing?_eq_some.1 hstanding
    obtain rfl := Option.some.inj (hc.symm.trans hc')
    exact ⟨hopen, htrace⟩
  · rintro ⟨hopen, htrace⟩
    exact ⟨client, rfl, standing?_eq_some.2 ⟨c, hc, hopen, htrace⟩⟩

/-- A new client is behind all others. -/
theorem traces_addClient (w : World) (spec : ClientSpec) (trace : AllocationTrace) :
    (w.addClient spec trace).traces = w.traces ++ [trace] := by
  obtain ⟨v, c, heq, hpasses, -, htrace, -⟩ : ∃ v c, w.addClient spec trace = v.placeClient c ∧
      Passes (fun _ => false) (fun _ => False) w v ∧ _ := addClient_eq w spec trace
  have hsame : v.traces = w.traces := by
    refine List.ext_getElem? fun client => ?_
    rw [getElem?_traces, getElem?_traces]
    exact (hpasses.carries client).trace
  calc (w.addClient spec trace).traces = v.traces ++ [c.trace] := by
        rw [heq]
        exact List.map_append
    _ = w.traces ++ [trace] := by rw [hsame, htrace]

end World

namespace Moment

variable {m after last : Moment} {move : Move} {moves : List Move} {client : ClientId}

/-- With a move a close takes the lock of an open client. -/
def Closes (m : Moment) (move : Move) (client : ClientId) : Prop :=
  move = .step ∧ ∃ t td, m.polled? = some t ∧ m.world.Takes t td ∧ td.client = client

theorem registered_start : start.world.Registered where
  nodup := List.nodup_nil
  mem {id trace} := by
    refine ⟨fun hmem => (List.not_mem_nil hmem).elim, ?_⟩
    rintro ⟨client, -, hstanding⟩
    cases hstanding

/-- The registry agrees with the clients at every reachable moment. -/
theorem Reachable.registered (h : m.Reachable) : m.world.Registered :=
  h.induction registered_start fun hregistered hnext => (next_lasts hnext).registered hregistered

/-- The flag of a client agrees with its connection. -/
theorem Reachable.closed_iff (h : m.Reachable) {c : Client}
    (hc : m.world.clients[client]? = some c) :
    c.closed = true ↔ ∃ outcome, c.state = .closed outcome := by
  have hclient := h.clientOk client
  have hclosed : m.world.closed? client = some c.closed := by
    rw [World.closed?, hc, Option.map_some]
  rw [World.ClientOk, World.state?, hc, Option.map_some, hclosed] at hclient
  cases hstate : c.state with
  | opened endpoint strategy =>
      rw [hstate] at hclient
      refine ⟨fun htrue => ?_, ?_⟩
      · cases (Option.some.inj hclient.1).symm.trans htrue
      · rintro ⟨outcome, heq⟩
        cases heq
  | closed outcome =>
      rw [hstate] at hclient
      exact ⟨fun _ => ⟨outcome, rfl⟩, fun _ => Option.some.inj hclient.1⟩

theorem Closes.takes_place (h : m.Closes move client) (hnext : m.next move = some after) :
    after.world.Handed client := by
  obtain ⟨rfl, t, td, ht, htakes, rfl⟩ := h
  obtain ⟨after', joined, hnext', hmem⟩ := takes_next ht htakes
  obtain rfl := Option.some.inj (hnext.symm.trans hnext')
  exact ⟨joined, td, hmem⟩

/-- The teardown of a client has been handed over if it was before, or if a close takes the lock. -/
theorem handed_next (h : m.Reachable) (hnext : m.next move = some after) :
    after.world.Handed client ↔ m.world.Handed client ∨ m.Closes move client := by
  constructor
  · intro hhanded
    by_cases hbefore : m.world.Handed client
    · exact .inl hbefore
    · exact .inr (takes_of_handed h.fits hnext hbefore hhanded)
  · rintro (hbefore | hcloses)
    · exact hbefore.grow (h.fits.next hnext).grows
    · exact hcloses.takes_place hnext

/-- A client that is made is behind all others. -/
theorem traces_build {spec : ClientSpec} {trace : AllocationTrace}
    (hnext : m.next (.build spec trace) = some after) :
    after.world.traces = m.world.traces ++ [trace] := by
  cases next_transition hnext
  exact m.world.traces_addClient spec trace

/-- With a move at most one client is made. -/
theorem traces_next (hnext : m.next move = some after) : after.world.traces = m.world.traces ∨
    ∃ spec trace, move = .build spec trace ∧ after.world.traces = m.world.traces ++ [trace] := by
  by_cases hmove : ∃ spec trace, move = .build spec trace
  · obtain ⟨spec, trace, rfl⟩ := hmove
    exact .inr ⟨spec, trace, rfl, traces_build hnext⟩
  · exact .inl (next_traces hnext fun spec trace heq => hmove ⟨spec, trace, heq⟩)

/-- An existing client keeps where it was created, and is closed if it was or if a close takes its
lock. -/
theorem standing_next (h : m.Reachable) (hnext : m.next move = some after) {c : Client}
    (hc : m.world.clients[client]? = some c) : ∃ c', after.world.clients[client]? = some c' ∧
      c'.trace = c.trace ∧ (c'.closed = true ↔ c.closed = true ∨ m.Closes move client) := by
  have hprefix : m.world.traces <+: after.world.traces := by
    rcases traces_next hnext with heq | ⟨spec, trace, -, heq⟩
    · exact heq ▸ List.prefix_rfl
    · exact ⟨[trace], heq.symm⟩
  have htrace : m.world.traces[client]? = some c.trace := by
    rw [World.getElem?_traces, World.trace?, hc, Option.map_some]
  have hafter := (List.prefix_iff_getElem?.1 hprefix) client (List.getElem?_eq_some_iff.1 htrace).1
  rw [← List.getElem?_eq_getElem, htrace, World.getElem?_traces] at hafter
  obtain ⟨c', hc', hsame⟩ := Option.map_eq_some_iff.1 hafter
  refine ⟨c', hc', hsame, ?_⟩
  obtain ⟨active, hfit⟩ := h.fits.exists_callsFit
  obtain ⟨active', hfit'⟩ := (h.next hnext).fits.exists_callsFit
  rw [← World.handed_iff hfit' hc', ← World.handed_iff hfit hc, handed_next h hnext]

/-- A client that did not exist before a move is the one that is made with it. -/
theorem made_next (hnext : m.next move = some after) (hnone : m.world.clients[client]? = none)
    {c : Client} (hc : after.world.clients[client]? = some c) :
    client = m.world.clients.length ∧ ∃ spec, move = .build spec c.trace := by
  have htrace : after.world.traces[client]? = some c.trace := by
    rw [World.getElem?_traces, World.trace?, hc, Option.map_some]
  have hle : m.world.traces.length ≤ client := by
    rw [World.traces, List.length_map]
    exact List.getElem?_eq_none_iff.1 hnone
  rcases traces_next hnext with heq | ⟨spec, trace, rfl, heq⟩
  · rw [heq, List.getElem?_eq_none hle] at htrace
    cases htrace
  · rw [heq, List.getElem?_append_right hle, List.getElem?_singleton] at htrace
    split at htrace
    next hzero =>
      cases htrace
      refine ⟨?_, spec, rfl⟩
      rw [World.traces, List.length_map] at hle hzero
      exact Nat.le_antisymm (Nat.le_of_sub_eq_zero hzero) hle
    next => cases htrace

/-- A client that is made is open. -/
theorem open_of_build (h : m.Reachable) {spec : ClientSpec} {trace : AllocationTrace}
    (hnext : m.next (.build spec trace) = some after) :
    ∃ c, after.world.clients[m.world.clients.length]? = some c ∧ c.closed = false ∧
      c.trace = trace := by
  have htrace : after.world.trace? m.world.clients.length = some trace := by
    have hlength : m.world.traces.length = m.world.clients.length := List.length_map ..
    rw [← World.getElem?_traces, traces_build hnext, ← hlength]
    exact List.getElem?_concat_length
  obtain ⟨c, hc, hsame⟩ := Option.map_eq_some_iff.1 htrace
  refine ⟨c, hc, Bool.eq_false_iff.2 fun htrue => ?_, hsame⟩
  obtain ⟨active, hfit⟩ := (h.next hnext).fits.exists_callsFit
  obtain ⟨active', hfit'⟩ := h.fits.exists_callsFit
  rcases (handed_next h hnext).1 ((World.handed_iff hfit hc).2 htrue) with hbefore | hcloses
  · obtain ⟨c', hc'⟩ := hbefore.found hfit'
    exact absurd (List.getElem?_eq_some_iff.1 hc').1 (Nat.lt_irrefl _)
  · cases hcloses.1

/-- What a move does to the listing: the client that is made is added, and the client whose lock a
close takes is removed. -/
theorem mem_unclosed_next (h : m.Reachable) (hnext : m.next move = some after) {id : Nat}
    {trace : AllocationTrace} : (id, trace) ∈ after.world.unclosed ↔
      ((id, trace) ∈ m.world.unclosed ∧ ∀ client, id = client + 1 → ¬ m.Closes move client) ∨
        id = m.world.clients.length + 1 ∧ ∃ spec, move = .build spec trace := by
  have hafter := (h.next hnext).registered
  constructor
  · intro hmem
    obtain ⟨client, rfl, hstanding⟩ := hafter.mem_unclosed.1 hmem
    obtain ⟨c', hc', hopen, htrace⟩ := World.standing?_eq_some.1 hstanding
    cases hc : m.world.clients[client]? with
    | none =>
        obtain ⟨rfl, spec, hmove⟩ := made_next hnext hc hc'
        exact .inr ⟨rfl, spec, htrace ▸ hmove⟩
    | some c =>
        obtain ⟨c'', hc'', hsame, hclosed⟩ := standing_next h hnext hc
        obtain rfl := Option.some.inj (hc'.symm.trans hc'')
        have hnot : ¬ (c.closed = true ∨ m.Closes move client) := by
          rw [← hclosed, hopen]
          exact Bool.false_ne_true
        refine .inl ⟨(h.registered.listed_iff hc).2 ⟨?_, hsame ▸ htrace⟩,
          fun other heq hcloses => ?_⟩
        · exact Bool.eq_false_iff.2 fun hc => hnot (.inl hc)
        · obtain rfl := Nat.succ.inj heq
          exact hnot (.inr hcloses)
  · rintro (⟨hmem, hnot⟩ | ⟨rfl, spec, rfl⟩)
    · obtain ⟨client, rfl, hstanding⟩ := h.registered.mem_unclosed.1 hmem
      obtain ⟨c, hc, hopen, htrace⟩ := World.standing?_eq_some.1 hstanding
      obtain ⟨c', hc', hsame, hclosed⟩ := standing_next h hnext hc
      refine (hafter.listed_iff hc').2 ⟨Bool.eq_false_iff.2 fun htrue => ?_, hsame.trans htrace⟩
      rcases hclosed.1 htrue with hbefore | hcloses
      · cases hopen.symm.trans hbefore
      · exact hnot client rfl hcloses
    · obtain ⟨c, hc, hopen⟩ := open_of_build h hnext
      exact (hafter.listed_iff hc).2 hopen

/-- In every run a client is marked as closed if and only if its connection is closed, which is so
once a close has taken its lock, and it is listed as open as long as that is not so. A closed client
stays closed and is not listed again. The listing is in strict order, each entry has where the
client was created, and with a move an entry is added only for the client that is made and removed
only for the client whose lock a close takes. -/
theorem open_clients_are_listed (hrun : start.run moves = some m) :
    (∀ {client c}, m.world.clients[client]? = some c →
      (c.closed = true ↔ ∃ outcome, c.state = .closed outcome) ∧
      (c.closed = true ↔ Taken moves client) ∧
      ((∃ trace, (client + 1, trace) ∈ m.world.unclosed) ↔ ¬ Taken moves client) ∧
      (c.closed = true → ∀ {later last}, m.run later = some last →
        ∃ c', last.world.clients[client]? = some c' ∧ c'.closed = true ∧
          (∃ outcome, c'.state = .closed outcome) ∧
          ∀ trace, (client + 1, trace) ∉ last.world.unclosed)) ∧
    m.world.unclosed.Pairwise (fun first second => first.1 < second.1) ∧
    (∀ {id trace}, (id, trace) ∈ m.world.unclosed →
      ∃ client c, id = client + 1 ∧ m.world.clients[client]? = some c ∧ c.trace = trace) ∧
    ∀ {move after}, m.next move = some after → ∀ {id trace},
      (id, trace) ∈ after.world.unclosed ↔
        ((id, trace) ∈ m.world.unclosed ∧ ∀ client, id = client + 1 → ¬ m.Closes move client) ∨
          id = m.world.clients.length + 1 ∧ ∃ spec, move = .build spec trace := by
  have hreach : m.Reachable := ⟨moves, hrun⟩
  obtain ⟨active, hfit⟩ := hreach.fits.exists_callsFit
  refine ⟨fun {client c} hc => ⟨hreach.closed_iff hc, ?_, ?_, fun hclosed later last hlater => ?_⟩,
    Registry.pairwise_snapshot hreach.registered.nodup, fun {id trace} hmem => ?_,
    fun hnext => mem_unclosed_next hreach hnext⟩
  · rw [taken_iff hrun, World.handed_iff hfit hc]
  · rw [taken_iff hrun, World.handed_iff hfit hc, Bool.not_eq_true]
    constructor
    · rintro ⟨trace, hmem⟩
      exact ((hreach.registered.listed_iff hc).1 hmem).1
    · exact fun hopen => ⟨c.trace, (hreach.registered.listed_iff hc).2 ⟨hopen, rfl⟩⟩
  · have hlast := hreach.run hlater
    obtain ⟨active', hfit'⟩ := hlast.fits.exists_callsFit
    have hhanded := ((World.handed_iff hfit hc).2 hclosed).grow (hreach.grows hlater)
    obtain ⟨c', hc'⟩ := hhanded.found hfit'
    have hclosed' := (World.handed_iff hfit' hc').1 hhanded
    refine ⟨c', hc', hclosed', (hlast.closed_iff hc').1 hclosed', fun trace hmem => ?_⟩
    cases hclosed'.symm.trans ((hlast.registered.listed_iff hc').1 hmem).1
  · obtain ⟨client, rfl, hstanding⟩ := hreach.registered.mem_unclosed.1 hmem
    obtain ⟨c, hc, -, htrace⟩ := World.standing?_eq_some.1 hstanding
    exact ⟨client, c, rfl, hc, htrace⟩

/-- Two clients are made. A call closes the first one, up to the step with which it takes the lock,
and the second one is dropped, so that its close waits in the background. -/
def closeAndDrop : List Move :=
  [.build (.recorded default) ⟨"first", none⟩, .build (.recorded default) ⟨"second", some "worker"⟩,
    .act (.close 0 "close" none), .act (.drop 1), .poll 0, .step, .step, .step]

/-- The moment after that. -/
def closedAndDropped : Moment := (start.run closeAndDrop).get (by decide +kernel)

theorem open_clients_are_listed_of_dropped : start.run closeAndDrop = some closedAndDropped ∧
    Taken closeAndDrop 0 ∧ (∀ trace, (1, trace) ∉ closedAndDropped.world.unclosed) ∧
    closedAndDropped.world.pending 1 = 1 ∧ ¬ Taken closeAndDrop 1 ∧
    ∃ trace, (2, trace) ∈ closedAndDropped.world.unclosed := by
  have hrun : start.run closeAndDrop = some closedAndDropped := (Option.some_get _).symm
  obtain ⟨hclients, -, -, -⟩ := open_clients_are_listed hrun
  obtain ⟨first, hfirst, hclosed⟩ : ∃ c, closedAndDropped.world.clients[0]? = some c ∧
      c.closed = true := ⟨_, rfl, rfl⟩
  obtain ⟨second, hsecond, hopen⟩ : ∃ c, closedAndDropped.world.clients[1]? = some c ∧
      c.closed = false := ⟨_, rfl, rfl⟩
  obtain ⟨-, htaken, -, hstays⟩ := hclients hfirst
  obtain ⟨-, htaken', hlisted, -⟩ := hclients hsecond
  obtain ⟨c', -, -, -, hunlisted⟩ :=
    hstays hclosed (show closedAndDropped.run [] = some closedAndDropped from rfl)
  have hnot : ¬ Taken closeAndDrop 1 := fun htaken => by
    cases hopen.symm.trans (htaken'.2 htaken)
  exact ⟨hrun, htaken.1 hclosed, hunlisted, by decide +kernel, hnot, hlisted.2 hnot⟩

end Moment

end Remoting
