import Remoting.Proofs.Serialising

/-!
# One call at a time

A run is one by one if it starts a call only once all calls before it have ended. `serialisable`
says that a run that serves, with any number of calls at the same time and polls in any order,
cannot be told from such a run: at every moment its calls have ended as those of a client that is
used by one call at a time, in the order in which they got the lock, and it has made the first ones
of the calls to collaborators that this client makes. Where nothing gets on any more it has made all
of them, and every run one by one of the same calls ends in the same way.
-/

namespace Remoting

namespace World

variable {w : World} {first : Serial} {started order : List (TaskId × Use)}
  {polled : Option TaskId} {charge : Option (TaskId × Option Finish)} {turns : List Serial.Turn}
  {result : Option Finish} {finish : Finish} {task : TaskId} {use : Use}

/-- A world in which some calls have been started and some of them have had the lock, in the given
order, looks like one of a client that is used by one call at a time: every call that has ended has
had the lock and has ended as its turn, and what collaborators were asked for is the beginning of
what the turns ask for. -/
structure Accords (w : World) (started order : List (TaskId × Use)) (turns : List Serial.Turn) :
    Prop where
  calls : w.calls 0 <+: turns.flatMap fun turn => turn.calls
  results : ∀ entry ∈ started, ∀ finish, w.finish? entry.1 = some finish →
    ∃ (i : Nat) (turn : Serial.Turn), order[i]? = some entry ∧ turns[i]? = some turn ∧
      turn.result = some finish

/-- The turns are over: all that they ask collaborators for has been asked, every call that has had
the lock has ended as its turn or, like its turn, not at all, and there are other calls only behind
a turn without an end. -/
structure Fulfils (w : World) (started order : List (TaskId × Use)) (turns : List Serial.Turn) :
    Prop where
  calls : w.calls 0 = turns.flatMap fun turn => turn.calls
  results : List.Forall₂ (fun entry (turn : Serial.Turn) => w.finish? entry.1 = turn.result) order
    turns
  others : ∀ entry ∈ started, entry ∉ order →
    w.finish? entry.1 = none ∧ ∃ turn ∈ turns, turn.result = none

/-- The calls to collaborators are the first ones of the turns. -/
theorem Phase.prefix (h : w.Phase first turns charge) :
    w.calls 0 <+: turns.flatMap fun turn => turn.calls := by
  cases h with
  | idle hends calls => exact calls ▸ List.prefix_rfl
  | @busy turns rest s task t made hends ht howner hbusy calls =>
      have hall : (turns ++ [rest.behind made]).flatMap (fun turn => turn.calls) =
          (turns.flatMap (fun turn => turn.calls) ++ made) ++ rest.calls := by
        simp [Serial.Turn.behind]
      rw [hall, calls]
      exact List.prefix_append _ _

/-- A call that has had the lock and has ended has ended as its turn. -/
theorem Stands.result_eq (h : w.Stands polled charge result task) (horderly : w.Orderly polled)
    (hphase : w.Phase first turns charge) (hfinish : w.finish? task = some finish) :
    result = some finish := by
  have hgone : ∀ {t}, w.task? task ≠ some t := fun ht => by
    cases hfinish.symm.trans (horderly.finish?_eq ht)
  cases h with
  | finished hfinish' hresult =>
      rw [hresult, ← hfinish', hfinish]
  | ends ht => exact absurd ht hgone
  | joins ht => exact absurd ht hgone
  | busy hcharge =>
      subst hcharge
      cases hphase with
      | busy _ ht => exact absurd ht hgone

/-- A call that has ended has had the lock. -/
theorem Serves.mem_order (h : w.Serves first started order polled charge)
    (horderly : w.Orderly polled)
    (hstarted : (task, use) ∈ started) (hfinish : w.finish? task = some finish) :
    (task, use) ∈ order := by
  refine (h.waits hstarted).resolve_right ?_
  rintro ⟨t, ht, -⟩
  cases hfinish.symm.trans (horderly.finish?_eq ht)

theorem Serves.accords (h : w.Serves first started order polled charge)
    (horderly : w.Orderly polled) :
    w.Accords started order (first.play (order.map Prod.snd)) where
  calls := h.phase.prefix
  results := by
    rintro ⟨task, use⟩ hstarted finish hfinish
    obtain ⟨i, hi⟩ := List.mem_iff_getElem?.1 (h.mem_order horderly hstarted hfinish)
    obtain ⟨turn, hturn, hstands⟩ := h.stands_at hi
    exact ⟨i, turn, hi, hturn, hstands.result_eq horderly h.phase hfinish⟩

theorem Serves.fulfils (h : w.Serves first started order none charge) (horderly : w.Orderly none)
    (hstill : w.Still) (hseats : w.Seats) (hlined : w.LinedUp) :
    w.Fulfils started order (first.play (order.map Prod.snd)) := by
  obtain ⟨hcalls, hcharge⟩ := h.phase_eq horderly hstill
  have hbusy : ∀ {task result}, charge = some (task, result) →
      result = none ∧ ∃ t, w.task? task = some t := by
    intro task result heq
    refine ⟨(hcharge heq).1, ?_⟩
    have hphase := h.phase
    rw [heq] at hphase
    generalize first.play (order.map Prod.snd) = turns at hphase
    cases hphase with
    | busy _ ht => exact ⟨_, ht⟩
  refine ⟨hcalls, ?_, ?_⟩
  · exact h.stands.imp fun _ _ hstands => hstands.finish?_eq horderly hstill hbusy
  · rintro ⟨task, use⟩ hstarted hnot
    refine ⟨?_, ?_⟩
    · rw [Option.eq_none_iff_forall_ne_some]
      exact fun finish hfinish => hnot (h.mem_order horderly hstarted hfinish)
    · by_contra hends
      push Not at hends
      exact hnot (h.subset horderly hstill hseats hlined hends hstarted)

/-- The calls have had the lock as they were started, but for the last one, which may wait for it
when all others have ended. -/
def InTurn (w : World) (started order : List (TaskId × Use)) : Prop :=
  started = order ∨ (∃ entry ∉ order, started = order ++ [entry]) ∧
    ∀ entry ∈ order, ∃ finish, w.finish? entry.1 = some finish

theorem InTurn.grow {u : World} (h : w.InTurn started order) (hgrows : w.Grows u) :
    u.InTurn started order := by
  refine h.imp_right fun ⟨hwaits, hends⟩ => ⟨hwaits, fun entry hmem => ?_⟩
  obtain ⟨finish, hfinish⟩ := hends entry hmem
  exact ⟨finish, hgrows.finished hfinish⟩

/-- One more call is started after all calls have ended. -/
theorem InTurn.start (h : w.InTurn started order)
    (hserves : w.Serves first started order polled charge) (horderly : w.Orderly polled)
    (hends : ∀ entry ∈ started, ∃ finish, w.finish? entry.1 = some finish) (use : Use) :
    w.InTurn (started ++ [(w.nextTask, use)]) order := by
  have hsame : started = order := by
    refine h.resolve_right ?_
    rintro ⟨⟨⟨task, use⟩, hnot, hmore⟩, -⟩
    have hmem : (task, use) ∈ started := hmore ▸ List.mem_append_right _ (List.mem_singleton_self _)
    obtain ⟨finish, hfinish⟩ := hends _ hmem
    exact hnot (hserves.mem_order horderly hmem hfinish)
  subst hsame
  refine .inr ⟨⟨_, fun hmem => ?_, rfl⟩, hends⟩
  obtain ⟨finish, hfinish⟩ := hends _ hmem
  exact Nat.lt_irrefl _ (horderly.past hfinish)

/-- The call that gets the lock is the one that has waited for it. -/
theorem InTurn.take (h : w.InTurn started order) {entry : TaskId × Use}
    (hstarted : order ++ [entry] ⊆ started) (hnodup : ((order ++ [entry]).map Prod.fst).Nodup) :
    w.InTurn started (order ++ [entry]) := by
  rw [List.map_append] at hnodup
  have hnew : entry ∉ order := fun hmem =>
    (List.nodup_append.1 hnodup).2.2 _ (List.mem_map_of_mem hmem) _
      (List.mem_map_of_mem (List.mem_singleton_self _)) rfl
  have hthere := hstarted (List.mem_append_right _ (List.mem_singleton_self entry))
  rcases h with rfl | ⟨⟨last, -, rfl⟩, -⟩
  · exact absurd hthere hnew
  · rcases List.mem_append.1 hthere with hmem | hmem
    · exact absurd hmem hnew
    · rw [List.mem_singleton.1 hmem]
      exact .inl rfl

/-- Where nothing gets on any more, every call has had the lock. -/
theorem InTurn.eq {turns : List Serial.Turn} (h : w.InTurn started order)
    (hfulfils : w.Fulfils started order turns) : started = order := by
  refine h.resolve_right ?_
  rintro ⟨⟨entry, hnot, rfl⟩, hends⟩
  obtain ⟨-, turn, hturn, hnone⟩ :=
    hfulfils.others entry (List.mem_append_right _ (List.mem_singleton_self _)) hnot
  obtain ⟨i, hi⟩ := List.mem_iff_getElem?.1 hturn
  obtain ⟨hlt, rfl⟩ := List.getElem?_eq_some_iff.1 hi
  have hlt' := hfulfils.results.length_eq ▸ hlt
  obtain ⟨finish, hfinish⟩ := hends _ (List.getElem_mem hlt')
  cases hnone.symm.trans ((hfulfils.results.get hlt' hlt).symm.trans hfinish)

end World

namespace Moment

variable {m made middle last : Moment} {moves : List Move}
  {config : Config} {disposers : List Disposer} {recorder : Option RecorderPlan}
  {factory : FactoryPlan} {trace : AllocationTrace}

/-- Whether a run from a moment at which some calls have been started starts further calls only once
all calls before them have ended. -/
def oneByOne (m : Moment) (started : List (TaskId × Use)) : List Move → Bool
  | [] => true
  | move :: moves =>
    (move.use?.isNone || started.all fun entry => (m.world.finish? entry.1).isSome) &&
      (m.next move).elim true fun after => after.oneByOne (started ++ m.starts move) moves

/-- What a move lets the calls do: one is started, at most one gets the lock, or neither. -/
theorem starts_takes_cases (m : Moment) (move : Move) :
    (∃ use, move.use?.isSome = true ∧ m.starts move = [(m.world.nextTask, use)] ∧
      m.takes move = []) ∨
    m.starts move = [] ∧ (m.takes move = [] ∨ ∃ entry, m.takes move = [entry]) := by
  cases huse : move.use? with
  | some use =>
      cases move with
      | act => exact .inl ⟨use, rfl, by rw [starts, huse]; rfl, rfl⟩
      | _ => cases huse
  | none =>
      refine .inr ⟨by rw [starts, huse]; rfl, ?_⟩
      cases move with
      | step =>
          simp only [takes]
          cases m.polled?.bind Task.takes? with
          | none => exact .inl rfl
          | some entry => exact .inr ⟨entry, rfl⟩
      | _ => exact .inl rfl

/-- In a move of a run one by one the calls get the lock as they are started. -/
theorem Serving.inTurn_next {initial : Serial} {started order : List (TaskId × Use)} {move : Move}
    (h : m.Serving initial started order) (hturn : m.world.InTurn started order)
    (hserves : move.serves = true) (hnext : m.next move = some middle)
    (hends : move.use?.isSome = true →
      ∀ entry ∈ started, ∃ finish, m.world.finish? entry.1 = some finish) :
    middle.world.InTurn (started ++ m.starts move) (order ++ m.takes move) := by
  have hafter := h.next hserves hnext
  refine World.InTurn.grow ?_ (h.reachable.fits.next hnext).grows
  rcases m.starts_takes_cases move with ⟨use, huse, hstarts, htakes⟩ |
    ⟨hstarts, htakes | ⟨entry, htakes⟩⟩
  · obtain ⟨charge, hserve⟩ := h.serves
    rw [hstarts, htakes, List.append_nil]
    exact hturn.start hserve h.reachable.fits.orderly (hends huse) use
  · rw [hstarts, htakes, List.append_nil, List.append_nil]
    exact hturn
  · obtain ⟨charge, hserve⟩ := hafter.serves
    rw [hstarts, htakes, List.append_nil] at hserve ⊢
    exact hturn.take hserve.started hserve.nodup

/-- The calls of a run one by one get the lock as they are started. -/
theorem Serving.inTurn {initial : Serial} {started order : List (TaskId × Use)}
    (h : m.Serving initial started order) (hturn : m.world.InTurn started order)
    (hserves : ∀ move ∈ moves, move.serves = true) (hones : m.oneByOne started moves = true)
    (hrun : m.run moves = some last) :
    last.world.InTurn (started ++ m.started moves) (order ++ m.order moves) := by
  induction moves generalizing m started order with
  | nil =>
      cases hrun
      simpa only [Moment.started, Moment.order, gather, List.append_nil] using hturn
  | cons move moves ih =>
      obtain ⟨after, hnext, hrest⟩ := Option.bind_eq_some_iff.1 hrun
      obtain ⟨hmove, hmoves⟩ := List.forall_mem_cons.1 hserves
      rw [oneByOne, hnext, Option.elim_some, Bool.and_eq_true, Bool.or_eq_true,
        Option.isNone_iff_eq_none, List.all_eq_true] at hones
      obtain ⟨hends, hones⟩ := hones
      have hafter := h.inTurn_next hturn hmove hnext fun huse entry hmem => by
        rcases hends with hnone | hends
        · rw [hnone] at huse
          cases huse
        · exact Option.isSome_iff_exists.1 (hends entry hmem)
      have hlast := ih (h.next hmove hnext) hafter hmoves hones hrest
      simpa only [Moment.started, Moment.order, gather_cons hnext, List.append_assoc] using hlast

/-! ## Runs -/

theorem Serving.accords {initial : Serial} {started order : List (TaskId × Use)}
    (h : m.Serving initial started order) :
    m.world.Accords started order (initial.play (order.map Prod.snd)) := by
  obtain ⟨charge, hserves⟩ := h.serves
  exact hserves.accords h.reachable.fits.orderly

theorem Serving.fulfils {initial : Serial} {started order : List (TaskId × Use)}
    (h : m.Serving initial started order) (hsettled : m.Settled) :
    m.world.Fulfils started order (initial.play (order.map Prod.snd)) := by
  obtain ⟨charge, hserves⟩ := h.serves
  have horderly := h.reachable.fits.orderly
  rw [hsettled.1] at hserves horderly
  exact hserves.fulfils horderly (hsettled.still h.reachable.fits) h.reachable.seats h.linedUp

/-- Calls for a channel and closes that use one client at the same time are as good as the same
calls one at a time, in the order in which they get the lock. -/
theorem serialisable
    (hmade : start.next (.build ⟨.own config, disposers, recorder, factory⟩ trace) = some made)
    (hserves : ∀ move ∈ moves, move.serves = true) (hrun : made.run moves = some last) :
    ((made.order moves).map Prod.fst).Nodup ∧ made.order moves ⊆ made.started moves ∧
    last.world.Accords (made.started moves) (made.order moves)
      ((Serial.fresh config recorder factory).play ((made.order moves).map Prod.snd)) ∧
    (last.Settled → last.world.Fulfils (made.started moves) (made.order moves)
      ((Serial.fresh config recorder factory).play ((made.order moves).map Prod.snd))) ∧
    ∀ {alone last'}, (∀ move ∈ alone, move.serves = true) → made.oneByOne [] alone = true →
      made.run alone = some last' → last.Settled → last'.Settled →
      (made.started alone).map Prod.snd = (made.order moves).map Prod.snd →
        last'.world.calls 0 = last.world.calls 0 ∧
        List.Forall₂ (fun entry entry' => last'.world.finish? entry.1 = last.world.finish? entry'.1)
          (made.started alone) (made.order moves) := by
  have hserving := serving_build hmade
  have hlast := hserving.run hserves hrun
  simp only [List.nil_append] at hlast
  obtain ⟨charge, hserve⟩ := hlast.serves
  refine ⟨hserve.nodup, hserve.started, hlast.accords, hlast.fulfils, ?_⟩
  intro alone last' hserves' hones hrun' hsettled hsettled' huses
  have hlast' := hserving.run hserves' hrun'
  simp only [List.nil_append] at hlast'
  have hfulfils := hlast.fulfils hsettled
  have hfulfils' := hlast'.fulfils hsettled'
  have hturn := hserving.inTurn (.inl rfl) hserves' hones hrun'
  simp only [List.nil_append] at hturn
  have hsame := hturn.eq hfulfils'
  rw [← hsame, huses] at hfulfils'
  refine ⟨hfulfils'.calls.trans hfulfils.calls.symm, ?_⟩
  have hlength := hfulfils'.results.length_eq.trans hfulfils.results.length_eq.symm
  refine List.forall₂_iff_get.2 ⟨hlength, fun i hi hi' => ?_⟩
  have hturn := hfulfils'.results.length_eq ▸ hi
  exact (hfulfils'.results.get hi hturn).trans (hfulfils.results.get hi' hturn).symm

/-- A factory that takes its time to make a strategy. -/
def slowFactory : FactoryPlan :=
  { (default : FactoryPlan) with
    strategies := [{ (default : StrategyPlan) with create := ⟨some 5, false, .succeed⟩ }] }

/-- Two calls for a channel and a close are started at once, and the call that was started last gets
the lock first. -/
def atOnce : List Move :=
  [.act (.getChannel 0 "late"), .act (.close 0 "close" none), .act (.getChannel 0 "early")] ++
    Move.pollAll 2 5 0 ++ Move.pollAll 1 1 0 ++ Move.pollAll 0 1 0 ++ .pass 5 ::
      (Move.pollAll 2 8 0 ++ Move.pollAll 1 2 0 ++ Move.pollAll 3 23 0 ++ Move.pollAll 1 3 0 ++
        Move.pollAll 0 3 0)

/-- The same calls one after the other. -/
def oneAfterOther : List Move :=
  .act (.getChannel 0 "early") :: (Move.pollAll 0 5 0 ++ .pass 5 :: (Move.pollAll 0 8 0 ++
    .act (.close 0 "close" none) :: (Move.pollAll 1 3 0 ++ Move.pollAll 2 23 0 ++
      Move.pollAll 1 3 0 ++ .act (.getChannel 0 "late") :: Move.pollAll 3 4 0)))

/-- The moment after a client with this factory was made. -/
def unused : Moment := ⟨World.empty.addClient (.recorded slowFactory) default, none⟩

/-- The moments after these moves. -/
def servedAtOnce : Moment := (unused.run atOnce).get (by decide +kernel)

def servedInTurn : Moment := (unused.run oneAfterOther).get (by decide +kernel)

theorem serialisable_of_early_and_late_call :
    unused.order atOnce = [(2, .get), (1, .close), (0, .get)] ∧
      servedInTurn.world.calls 0 = servedAtOnce.world.calls 0 ∧
      List.Forall₂
        (fun entry entry' =>
          servedInTurn.world.finish? entry.1 = servedAtOnce.world.finish? entry'.1)
        (unused.started oneAfterOther) (unused.order atOnce) := by
  have horder : unused.order atOnce = [(2, .get), (1, .close), (0, .get)] := by decide +kernel
  have hserves : ∀ move ∈ atOnce, move.serves = true :=
    List.all_eq_true.1 (show atOnce.all Move.serves = true by decide +kernel)
  have hserves' : ∀ move ∈ oneAfterOther, move.serves = true :=
    List.all_eq_true.1 (show oneAfterOther.all Move.serves = true by decide +kernel)
  have hsettled : servedAtOnce.Settled :=
    ⟨rfl, by rw [show servedAtOnce.world.tasks = [] from rfl]; simp⟩
  have hsettled' : servedInTurn.Settled :=
    ⟨rfl, by rw [show servedInTurn.world.tasks = [] from rfl]; simp⟩
  have huses :
      (unused.started oneAfterOther).map Prod.snd = (unused.order atOnce).map Prod.snd := by
    decide +kernel
  obtain ⟨-, -, -, -, halone⟩ :=
    serialisable rfl hserves
      (show unused.run atOnce = some servedAtOnce from (Option.some_get _).symm)
  exact ⟨horder, halone hserves' (by decide +kernel) (Option.some_get _).symm hsettled
    hsettled' huses⟩

end Moment

end Remoting
