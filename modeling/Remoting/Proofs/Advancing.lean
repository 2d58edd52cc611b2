import Remoting.Proofs.Serving

/-!
# Steps of the tasks of a client that serves many calls

Every step of a task keeps `Serves`. The steps that go on with the lock add a call to the order and
make the first move of its turn; the steps of the task at work make the rest of it; every other step
is no concern of the client.
-/

namespace Remoting

/-- The call that a task goes on with now that it has got the lock. -/
def Task.takes? (t : Task) : Option (TaskId × Use) :=
  match t.control, t.frames with
  | .reply _, .getLock _ :: _ => some (t.id, .get)
  | .reply _, .closeLock .. :: _ => some (t.id, .close)
  | _, _ => none

/-- No call more. -/
theorem Serial.play_append_nil (s : Serial) (order : List (TaskId × Use)) :
    s.play ((order ++ []).map Prod.snd) = s.play (order.map Prod.snd) ++ [] := by
  rw [List.append_nil, List.append_nil]

namespace World

variable {w v u : World} {s first : Serial} {task other : TaskId} {t : Task} {new : List Task}
  {polled : Option TaskId} {charge charge' : Option (TaskId × Option Finish)}
  {started order extra : List (TaskId × Use)} {turns : List Serial.Turn} {turn : Serial.Turn}
  {result : Option Finish} {finish : Finish} {control : Control} {frames : List Frame} {use : Use}
  {made : List Contact}

/-! ## What the acting task leaves alone -/

/-- A task has gone on or ended. If it has gone on with the lock, a call is added to the order. -/
theorem Serves.alter (h : w.Serves first started order (some task) charge)
    (hpassage : Passage task new w u) (horderly : u.Orderly (some task))
    (hplay : first.play ((order ++ extra).map Prod.snd) = first.play (order.map Prod.snd) ++ turns)
    (hphase : u.Phase first (first.play (order.map Prod.snd) ++ turns) charge')
    (hcharge : ∀ {other result}, charge = some (other, result) → other ≠ task →
      charge' = some (other, result))
    (hself : ∀ {result}, w.Stands (some task) charge result task →
      u.Stands (some task) charge' result task)
    (hextra : List.Forall₂ (fun entry turn => u.Stands (some task) charge' turn.result entry.1)
      extra turns)
    (hspot : ∀ t, u.task? task = some t → u.Spot (some task) charge' started (order ++ extra) t)
    (hnew : ∀ t ∈ new, u.Spot (some task) charge' started (order ++ extra) t)
    (hwaits : ∀ use, (task, use) ∈ started → (task, use) ∉ order → (task, use) ∈ extra ∨
      ∃ t, u.task? task = some t ∧ Serial.Queued use t.control t.frames)
    (hstarted : extra ⊆ started) (hnodup : ((order ++ extra).map Prod.fst).Nodup)
    (hlisted : u.Listed) : u.Serves first started (order ++ extra) (some task) charge' where
  phase := by
    rw [hplay]
    exact hphase
  spots t ht := by
    by_cases hid : t.id = task
    · have hfind := horderly.task?_eq ht
      rw [hid] at hfind
      exact hspot t hfind
    · rcases hpassage.tasks t ht hid with hold | hnew'
      · exact (h.spots t hold).alter hid hcharge extra
      · exact hnew t hnew'
  stands := by
    rw [hplay]
    exact List.rel_append
      (h.stands.imp fun _ _ hstands => hstands.alter hpassage hcharge hself) hextra
  -- other tasks wait on as before, and the acting one has a hypothesis of its own
  waits {other use} hmem := by
    rcases h.waits hmem with horder | ⟨t, ht, hqueued⟩
    · exact .inl (List.mem_append_left _ horder)
    · by_cases hid : other = task
      · subst hid
        by_cases horder : (other, use) ∈ order
        · exact .inl (List.mem_append_left _ horder)
        · exact (hwaits use hmem horder).imp_left (List.mem_append_right _)
      · exact .inr ⟨t, hpassage.others hid ht, hqueued⟩
  started := List.append_subset.2 ⟨h.started, hstarted⟩
  nodup := hnodup
  listed := hlisted

/-- The tasks of the endpoint stay on its list when a task goes on. -/
theorem Acted.listed (h : Acted new made w v s) (hlisted : w.Listed)
    (hnew : ∀ t ∈ new, t.owner = none ∨ t.owner = some 0)
    (horderly : (v.goto task control frames).Orderly polled) :
    (v.goto task control frames).Listed := by
  have hids : (v.goto task control frames).tasks.map Task.id = (w.tasks ++ new).map Task.id := by
    rw [← h.tasks]
    simp only [goto, List.map_map]
    exact List.map_congr_left fun t _ => goto_id t
  have hnodup := horderly.nodup
  rw [hids, List.map_append, List.nodup_append] at hnodup
  obtain ⟨-, hfresh, hapart⟩ := hnodup
  have howned : (v.goto task control frames).view.owned = _ := h.owned
  -- a task that goes on is still owned by whoever owned it
  have hkeep : ∀ t ∈ w.tasks ++ new, ∃ t' ∈ (v.goto task control frames).tasks, t'.id = t.id ∧
      t'.owner = t.owner := by
    intro t ht
    rw [← h.tasks] at ht
    exact ⟨_, mem_goto.2 ⟨t, ht, rfl⟩, goto_id t, by split <;> rfl⟩
  constructor
  · rw [howned, List.nodup_append]
    refine ⟨hlisted.nodup, (List.filter_sublist.map Task.id).nodup hfresh,
      fun id hid other hother => ?_⟩
    obtain ⟨t, ht, rfl, -⟩ := hlisted.owned id hid
    obtain ⟨t', ht', rfl⟩ := List.mem_map.1 hother
    exact hapart _ (List.mem_map_of_mem ht) _ (List.mem_map_of_mem (List.mem_of_mem_filter ht'))
  · intro id hid
    rw [howned] at hid
    rcases List.mem_append.1 hid with hid | hid
    · obtain ⟨t, ht, rfl, howner⟩ := hlisted.owned id hid
      obtain ⟨t', ht', hid', howner'⟩ := hkeep t (List.mem_append_left _ ht)
      exact ⟨t', ht', hid', howner'.trans howner⟩
    · obtain ⟨t, ht, rfl⟩ := List.mem_map.1 hid
      obtain ⟨hmem, hsome⟩ := List.mem_filter.1 ht
      obtain ⟨t', ht', hid', howner'⟩ := hkeep t (List.mem_append_right _ hmem)
      refine ⟨t', ht', hid', howner'.trans ?_⟩
      rcases hnew t hmem with hnone | howner
      · rw [hnone] at hsome
        cases hsome
      · exact howner

/-- A task without the lock has gone on, and no call sees of it. -/
theorem Serves.aside (h : w.Serves first started order (some task) charge)
    (htasks : v.tasks = w.tasks) (hfinished : v.finished = w.finished)
    (hcontacts : v.contacts = w.contacts) (hview : v.view = w.view)
    (hcharge : ∀ result, charge ≠ some (task, result))
    (horderly : (v.goto task control frames).Orderly (some task))
    (hself : ∀ {result}, w.Stands (some task) charge result task →
      (v.goto task control frames).Stands (some task) charge result task)
    (hspot : (v.goto task control frames).Spot (some task) charge started order
      { t with control, frames })
    (hwaits : ∀ use, (task, use) ∈ started → (task, use) ∉ order →
      Serial.Queued use control frames) (ht : w.task? task = some t) :
    (v.goto task control frames).Serves first started order (some task) charge := by
  have hpassage : Passage task [] w (v.goto task control frames) :=
    passage_goto (htasks.trans (List.append_nil _).symm) hfinished task control frames
  have hfind : (v.goto task control frames).task? task = some { t with control, frames } :=
    task?_goto_self (by rw [task?, htasks]; exact ht) control frames
  have hlisted : (v.goto task control frames).Listed := by
    refine ⟨by rw [view_goto, hview]; exact h.listed.nodup, fun id hid => ?_⟩
    rw [view_goto, hview] at hid
    obtain ⟨t', ht', rfl, howner⟩ := h.listed.owned id hid
    exact ⟨_, mem_goto.2 ⟨t', htasks ▸ ht', rfl⟩, goto_id t', by split <;> exact howner⟩
  have hphase : (v.goto task control frames).Phase first (first.play (order.map Prod.snd)) charge :=
    h.phase.keep hpassage hcharge (calls_of_contacts hcontacts 0) fun s hshows => by
      rw [view_goto, hview]
      exact hshows
  -- no call gets a turn, so nothing is added to the order
  have hserves := h.alter hpassage horderly (first.play_append_nil order) (by rwa [List.append_nil])
    (fun heq _ => heq) hself .nil
    (fun t' ht' => by
      cases hfind.symm.trans ht'
      rwa [List.append_nil])
    (by simp)
    (fun use hmem hnot => .inr ⟨_, hfind, hwaits use hmem hnot⟩) (List.nil_subset _)
    (by rw [List.append_nil]; exact h.nodup) hlisted
  rwa [List.append_nil] at hserves

/-- A call that was started and has not had the lock waits for it. -/
theorem Serves.queued (h : w.Serves first started order polled charge)
    (hmem : (task, use) ∈ started) (hnot : (task, use) ∉ order) (ht : w.task? task = some t) :
    Serial.Queued use t.control t.frames := by
  rcases h.waits hmem with horder | ⟨t', ht', hqueued⟩
  · exact absurd horder hnot
  · cases ht.symm.trans ht'
    exact hqueued

/-- What the world looks like. -/
theorem Phase.exists_shows (h : w.Phase first turns charge) : ∃ s, w.view.Shows s := by
  cases h with
  | idle hends calls shows => exact ⟨_, shows⟩
  | busy hends ht howner hbusy calls shows => exact ⟨_, shows⟩

/-! ## The end of a task -/

/-- While the user holds the client, nothing follows from the end of a task with a handle. -/
theorem finishTask_eq (h : w.view.Shows s) (ht : w.task? task = some t) (finish : Finish) :
    w.finishTask task finish = World.signal
      (((w.removeTask task).leaveOwner task t.owner).noteFinish task finish) (.finished task) := by
  obtain ⟨c, hc, hshows, -⟩ := exists_client h
  have hheld : (w.removeTask task).dropHeld finish t.handle = (w.removeTask task, finish) := by
    cases t.handle with
    | none => rfl
    | some client =>
        have hdrop : (w.removeTask task).dropHandle client = (w.removeTask task, none) := by
          unfold dropHandle
          cases hclient : (w.removeTask task).clients[client]? with
          | none => rfl
          | some c' =>
              have hmem : c' ∈ w.clients := List.mem_of_getElem? hclient
              rw [hc] at hmem
              obtain rfl := List.mem_singleton.1 hmem
              dsimp only
              rw [hasHandle_of_held hclient hshows.held, Bool.true_or, if_pos rfl]
        simp only [dropHeld, hdrop]
  simp only [finishTask, ht, hheld]

theorem passage_finishTask (h : w.view.Shows s) (ht : w.task? task = some t) (finish : Finish)
    (hfit : w.CallsFit (some task)) : Passage task [] w (w.finishTask task finish) := by
  have hsame := (quiet_leaveOwner (w.removeTask task) task t.owner).same
  rw [finishTask_eq h ht]
  refine ⟨fun {other t'} hne ht' => ?_, fun {other finish'} hfinish => ?_, fun t' ht' _ => .inl ?_⟩
  · show World.task? ((w.removeTask task).leaveOwner task t.owner) other = some t'
    rw [task?, hsame.tasks]
    exact (task?_removeTask hne).trans ht'
  · have hne : other ≠ task := by
      rintro rfl
      cases (hfit.finish?_eq ht).symm.trans hfinish
    refine (finish?_noteFinish _ task finish other).trans ?_
    rw [if_neg hne, hsame.finish?]
    exact hfinish
  · have hmem : t' ∈ ((w.removeTask task).leaveOwner task t.owner).tasks := ht'
    rw [hsame.tasks] at hmem
    exact (List.mem_filter.1 hmem).1

/-- A task without the lock ends. -/
theorem Serves.finishes (h : w.Serves first started order (some task) charge)
    (hfit : w.CallsFit (some task)) (horderly : (w.finishTask task finish).Orderly (some task))
    (ht : w.task? task = some t) (howner : t.owner = none ∨ t.owner = some 0)
    (hcharge : ∀ result, charge ≠ some (task, result))
    (hself : ∀ {result}, w.Stands (some task) charge result task → result = some finish)
    (hwaits : ∀ use, ¬ Serial.Queued use t.control t.frames) :
    (w.finishTask task finish).Serves first started order (some task) charge := by
  obtain ⟨s, hshows⟩ := h.phase.exists_shows
  have hpassage := passage_finishTask hshows ht finish hfit
  obtain ⟨hmem, hid⟩ := task?_mem ht
  have heq := finishTask_eq hshows ht finish
  have hview : (w.finishTask task finish).view =
      ((w.removeTask task).leaveOwner task t.owner).view := by rw [heq]; rfl
  have hleaves := view_leaveOwner (w := w.removeTask task) hshows howner task
  rw [← hview, view_removeTask] at hleaves
  have hfinish : (w.finishTask task finish).finish? task = some finish := by
    rw [heq]
    refine (finish?_noteFinish _ task finish task).trans ?_
    rw [if_pos rfl]
  have hgone : ∀ t', (w.finishTask task finish).task? task ≠ some t' := by
    intro t' ht'
    cases (horderly.finish?_eq ht').symm.trans hfinish
  have hcalls : (w.finishTask task finish).calls 0 = w.calls 0 := by
    rw [heq]
    exact calls_of_contacts (quiet_leaveOwner (w.removeTask task) task t.owner).contacts 0
  have htasks : (w.finishTask task finish).tasks = (w.removeTask task).tasks := by
    rw [heq]
    exact (quiet_leaveOwner (w.removeTask task) task t.owner).same.tasks
  -- the endpoint strikes a task off its list exactly if it owns it
  have hlisted : (w.finishTask task finish).Listed := by
    have hkeep : ∀ id ∈ w.view.owned, id ≠ task →
        ∃ t ∈ (w.finishTask task finish).tasks, t.id = id ∧ t.owner = some 0 := by
      intro id hmem hne
      obtain ⟨t', ht', rfl, howner'⟩ := h.listed.owned id hmem
      refine ⟨t', ?_, rfl, howner'⟩
      rw [htasks]
      exact List.mem_filter.2 ⟨ht', by simpa using hne⟩
    rcases hleaves with ⟨hsame, hnone⟩ | herase
    · refine ⟨by rw [hsame]; exact h.listed.nodup, fun id hmem' => ?_⟩
      rw [hsame] at hmem'
      refine hkeep id hmem' ?_
      rintro rfl
      obtain ⟨t', ht', hid', howner'⟩ := h.listed.owned id hmem'
      have hfind := hfit.task?_eq ht'
      rw [hid'] at hfind
      cases hfind.symm.trans ht
      cases hnone.symm.trans howner'
    · refine ⟨by rw [herase]; exact h.listed.nodup.erase task, fun id hmem' => ?_⟩
      rw [herase] at hmem'
      have hmem' : id ∈ w.view.owned.erase task := hmem'
      rw [h.listed.nodup.mem_erase_iff] at hmem'
      exact hkeep id hmem'.2 hmem'.1
  have hphase : (w.finishTask task finish).Phase first (first.play (order.map Prod.snd))
      charge := by
    refine h.phase.keep hpassage hcharge hcalls fun s hshows => ?_
    rcases hleaves with ⟨hsame, -⟩ | herase
    · rw [hsame]
      exact hshows
    · rw [herase]
      exact Shows.owning hshows _
  have hserves := h.alter hpassage horderly (first.play_append_nil order) (by rwa [List.append_nil])
    (fun heq _ => heq) (fun hstands => .finished hfinish (hself hstands)) .nil
    (fun t' ht' => absurd ht' (hgone t')) (by simp)
    (fun use hmem hnot => absurd (h.queued hmem hnot ht) (hwaits use)) (List.nil_subset _)
    (by rw [List.append_nil]; exact h.nodup) hlisted
  rwa [List.append_nil] at hserves

/-! ## The task at work -/

theorem Onward.passage (h : Onward task new turn w u) : Passage task new w u := by
  obtain ⟨v, s, control, frames, made, rfl, hacted, -⟩ := h
  exact passage_goto hacted.tasks hacted.finished task control frames

theorem Onward.listed (h : Onward task new turn w u) (hlisted : w.Listed)
    (hnew : ∀ t ∈ new, t.owner = none ∨ t.owner = some 0) (horderly : u.Orderly polled) :
    u.Listed := by
  obtain ⟨v, s, control, frames, made, rfl, hacted, -⟩ := h
  exact hacted.listed hlisted hnew horderly

/-- The acting task is the one at work or is about to end as its call has to. -/
def Works (u : World) (task : TaskId) (charge : Option (TaskId × Option Finish))
    (result : Option Finish) : Prop :=
  ∃ t, u.task? task = some t ∧ t.owner = none ∧ (charge = some (task, result) ∨
    charge = none ∧ ∃ finish, Ends u t.control t.frames finish ∧ result = some finish)

theorem Works.stands (h : u.Works task charge result) :
    u.Stands (some task) charge result task := by
  obtain ⟨t, ht, howner, hcharge | ⟨-, finish, hends, hresult⟩⟩ := h
  · exact .busy hcharge
  · exact .ends ht howner rfl hends hresult

theorem Works.spot (h : u.Works task charge result) (ht : u.task? task = some t) :
    u.Spot (some task) charge started order t := by
  obtain ⟨t', ht', howner, hor⟩ := h
  cases ht.symm.trans ht'
  obtain ⟨-, hid⟩ := task?_mem ht
  rcases hor with hcharge | ⟨-, finish, hends, -⟩
  · exact .busy result (by rw [hid]; exact hcharge)
  · exact .ends finish howner (by rw [hid]) hends

/-- How the world goes on with the turn of the acting task. -/
theorem Onward.phase {before : List Serial.Turn} {earlier : List Contact}
    (h : Onward task new turn w u) (ht : w.task? task = some t) (howner : t.owner = none)
    (hends : ∀ turn ∈ before, turn.result.isSome = true)
    (hcalls : w.calls 0 = (before.flatMap fun turn => turn.calls) ++ earlier) :
    ∃ charge', u.Phase first (before ++ [turn.behind earlier]) charge' ∧
      u.Works task charge' turn.result := by
  obtain ⟨v, s, control, frames, made, rfl, hacted, hor⟩ := h
  have hthere : v.task? task = some t := by
    rw [task?] at ht ⊢
    rw [hacted.tasks, List.find?_append, ht]
    rfl
  have hfind : (v.goto task control frames).task? task = some { t with control, frames } :=
    task?_goto_self hthere control frames
  -- the turn goes on with the lock, or it has come to its end
  rcases hor with ⟨rest, hbusy, rfl⟩ | ⟨finish, hfinish, rfl⟩
  · refine ⟨some (task, rest.result), ?_, _, hfind, howner, .inl rfl⟩
    rw [Serial.Turn.behind_behind]
    refine .busy hends hfind howner hbusy (hacted.calls.trans ?_) hacted.shows
    rw [hcalls, List.append_assoc]
  · refine ⟨none, .idle ?_ (hacted.calls.trans ?_) ?_, _, hfind, howner,
      .inr ⟨rfl, finish, ?_, rfl⟩⟩
    · intro turn hturn
      rcases List.mem_append.1 hturn with hbefore | hlast
      · exact hends turn hbefore
      · rw [List.mem_singleton.1 hlast]
        rfl
    · rw [hcalls, List.flatMap_append, List.flatMap_singleton]
      simp [Serial.Turn.behind, Serial.ends, List.append_assoc]
    · rw [Serial.reached_append]
      exact hacted.shows
    · cases hfinish with
      | replies reply hframes => exact .replies reply hframes
      | panics content hframes => exact .panics content hframes

/-- Where a task is that has not ended. -/
theorem Stands.eq_of_not_free (h : w.Stands polled charge result task) (ht : w.task? task = some t)
    (hnone : w.finish? task = none) (hfree : ¬ Serial.Free t.control t.frames) :
    charge = some (task, result) := by
  rcases h.cases_of ht hnone with heq | ⟨-, finish, hends, -⟩ | ⟨joined, -, hcontrol, hframes, -⟩
  · exact heq
  · exact absurd hends.free hfree
  · refine absurd ?_ hfree
    rw [hcontrol, hframes]
    exact ⟨rfl, by simp [Frame.hold?]⟩

/-- The task at work goes on. -/
theorem Serves.works (h : w.Serves first started order (some task) (some (task, result)))
    (hfit : w.CallsFit (some task)) (horderly : u.Orderly (some task))
    (honward : ∀ {s : Serial} {t : Task} {rest : Serial.Turn}, w.task? task = some t →
      s.Busy t.control t.frames rest → w.view.Shows s → Onward task [] rest w u) :
    ∃ charge', u.Serves first started order (some task) charge' := by
  obtain ⟨turns, hturns, hphase⟩ : ∃ turns, first.play (order.map Prod.snd) = turns ∧
      w.Phase first turns (some (task, result)) := ⟨_, rfl, h.phase⟩
  cases hphase with
  | @busy before rest s _ t made hends ht howner hbusy calls shows =>
    have honward : Onward task [] rest w u := honward ht hbusy shows
    obtain ⟨charge', hphase, hworks⟩ := honward.phase ht howner hends calls
    have hnone := hfit.finish?_eq ht
    have hself : ∀ {result}, w.Stands (some task) (some (task, rest.result)) result task →
        u.Stands (some task) charge' result task := by
      intro result hstands
      obtain rfl : rest.result = result :=
        congrArg Prod.snd (Option.some.inj (hstands.eq_of_not_free ht hnone hbusy.not_free))
      exact hworks.stands
    refine ⟨charge', ?_⟩
    have hserves := h.alter honward.passage horderly (first.play_append_nil order)
      (by rw [List.append_nil, hturns]; exact hphase)
      (fun heq hne => absurd (congrArg Prod.fst (Option.some.inj heq)).symm hne) hself .nil
      (fun t ht => hworks.spot ht) (by simp)
      (fun use hmem hnot => absurd (h.queued hmem hnot ht).free hbusy.not_free) (List.nil_subset _)
      (by rw [List.append_nil]; exact h.nodup) (honward.listed h.listed (by simp) horderly)
    rwa [List.append_nil] at hserves

/-- The task at work makes a step. -/
theorem Serves.work (h : w.Serves first started order (some task) (some (task, result)))
    (hfit : w.CallsFit (some task)) (horderly : u.Orderly (some task))
    (hstep : w.step? task = some u) :
    ∃ charge', u.Serves first started order (some task) charge' :=
  h.works hfit horderly fun ht hbusy hshows => Busy.step hbusy hshows ht rfl rfl hstep

/-! ## A call that takes the lock -/

/-- A task whose wait for the lock is over has the lock. -/
theorem owner_of_granted {reply : Reply} {frame : Frame} (hacting : w.Acting task)
    (ht : w.task? task = some t) (hcontrol : t.control = .reply reply)
    (hframes : t.frames = [frame])
    (hframe : frame = .getLock 0 ∨ ∃ interrupt, frame = .closeLock 0 interrupt) :
    w.owner? 0 = some task := by
  have htyped := (hacting.active ht).typed
  rw [hcontrol, hframes] at htyped
  obtain ⟨job, hstack, hdelivers⟩ := htyped
  obtain rfl : job = .wait (.lock 0) := by
    rcases hframe with rfl | ⟨interrupt, rfl⟩ <;> exact hstack.1
  exact hdelivers

/-- While a task has the lock and is not at work, none is at work. -/
theorem Phase.uncharged (h : w.Phase first turns charge) (hacting : w.Acting task)
    (ht : w.task? task = some t) (howner : w.owner? 0 = some task)
    (hfree : Serial.Free t.control t.frames) : charge = none := by
  have hnot := h.not_charged ht hfree
  cases h with
  | idle => rfl
  | @busy turns rest s other t' made hends ht' howner' hbusy calls shows =>
      obtain ⟨hmem, rfl⟩ := task?_mem ht'
      by_cases heq : task = t'.id
      · exact absurd (by rw [heq]) (hnot rest.result)
      · have hok := (hacting.fits.resting hmem fun hsame => heq (Option.some.inj hsame)).2
        exact absurd (Option.some.inj (howner.symm.trans (Busy.owner hbusy hok))) heq

/-- What a client has come to that is used by nobody at the moment. -/
theorem Phase.of_none (h : w.Phase first turns none) :
    (∀ turn ∈ turns, turn.result.isSome = true) ∧
      w.calls 0 = (turns.flatMap fun turn => turn.calls) ∧ w.view.Shows (first.reached turns) := by
  cases h with
  | idle hends calls shows => exact ⟨hends, calls, shows⟩

/-- A call takes the lock. -/
theorem Serves.takes (h : w.Serves first started order (some task) none)
    (hfit : w.CallsFit (some task)) (horderly : u.Orderly (some task)) (ht : w.task? task = some t)
    (hstarted : (task, use) ∈ started) (hqueued : Serial.Queued use t.control t.frames)
    (hpassage : Passage task new w u)
    (hturn : (first.reached (first.play (order.map Prod.snd))).turn use = turn)
    (hphase : u.Phase first (first.play (order.map Prod.snd) ++ [turn]) charge')
    (hstands : u.Stands (some task) charge' turn.result task)
    (hspot : ∀ t, u.task? task = some t →
      u.Spot (some task) charge' started (order ++ [(task, use)]) t)
    (hnew : ∀ t ∈ new, u.Spot (some task) charge' started (order ++ [(task, use)]) t)
    (hlisted : u.Listed) :
    u.Serves first started (order ++ [(task, use)]) (some task) charge' := by
  obtain ⟨hends, -⟩ := h.phase.of_none
  have hnone := hfit.finish?_eq ht
  have hnot : ∀ {result}, ¬ w.Stands (some task) none result task := fun hstands =>
    hstands.not_queued ht hnone (by simp) hqueued
  -- whoever has had the lock does not stand in its queue any more
  have hfresh : task ∉ order.map Prod.fst := by
    intro hmem
    obtain ⟨entry, hentry, rfl⟩ := List.mem_map.1 hmem
    obtain ⟨i, hi⟩ := List.mem_iff_getElem?.1 hentry
    obtain ⟨turn, -, hstands⟩ := h.stands_at hi
    exact hnot hstands
  refine h.alter hpassage horderly ?_ hphase (by simp) (fun h => absurd h hnot)
    (.cons hstands .nil) hspot hnew ?_ (by simpa using hstarted) ?_ hlisted
  · rw [List.map_append, ← hturn]
    exact Serial.play_append hends use
  · intro use' hmem hnot
    have huse : use' = use := hqueued.use_eq (h.queued hmem hnot ht)
    exact .inl (by rw [huse]; exact List.mem_singleton_self _)
  · rw [List.map_append, List.nodup_append]
    refine ⟨h.nodup, List.nodup_singleton _, fun id hid other hother => ?_⟩
    rintro rfl
    rw [List.mem_singleton.1 hother] at hid
    exact hfresh hid

/-- A call takes the lock, and its task is at work or about to end. -/
theorem Serves.enters (h : w.Serves first started order (some task) none)
    (hfit : w.CallsFit (some task)) (horderly : u.Orderly (some task)) (ht : w.task? task = some t)
    (howner : t.owner = none) (hstarted : (task, use) ∈ started)
    (hqueued : Serial.Queued use t.control t.frames)
    (hgets : Gets task ((first.reached (first.play (order.map Prod.snd))).turn use) w u) :
    ∃ charge', u.Serves first started (order ++ [(task, use)]) (some task) charge' := by
  obtain ⟨new, hnew, honward⟩ := hgets
  obtain ⟨hends, hcalls, -⟩ := h.phase.of_none
  obtain ⟨charge', hphase, hworks⟩ := honward.phase ht howner hends
    (hcalls.trans (List.append_nil _).symm)
  exact ⟨charge', h.takes hfit horderly ht hstarted hqueued honward.passage rfl hphase
    hworks.stands (fun t ht => hworks.spot ht) (fun t ht => .owned (hnew t ht))
    (honward.listed h.listed (fun t ht => .inr (hnew t ht).owner) horderly)⟩

/-- A close of an open client takes the lock, and the task of the teardown is at work. -/
theorem Serves.handsOver {interrupt : Option TokenName}
    (h : w.Serves first started order (some task) none) (hfit : w.CallsFit (some task))
    (horderly : (w.lockedClose task 0 interrupt []).Orderly (some task))
    (ht : w.task? task = some t) (howner : t.owner = none) (hstarted : (task, .close) ∈ started)
    (hqueued : Serial.Queued .close t.control t.frames)
    (hopen : (first.reached (first.play (order.map Prod.snd))).outcome = none) :
    ∃ charge', (w.lockedClose task 0 interrupt []).Serves first started (order ++ [(task, .close)])
      (some task) charge' := by
  obtain ⟨hends, hcalls, hshows⟩ := h.phase.of_none
  have hacted := acted_handOver hshows interrupt
  have hbusy := busy_handOver hopen (hshows.asked hopen) interrupt
  rw [lockedClose_eq hshows hopen] at horderly ⊢
  generalize hv : (w.handOver 0 _).2.giveLock 0 w.nextTask = v at hacted horderly
  generalize hclosing : first.reached (first.play (order.map Prod.snd)) = s at hacted hbusy
  -- the task of the teardown is new, so it is not the one that hands over
  have hne : w.nextTask ≠ task := by
    obtain ⟨hmem, hid⟩ := task?_mem ht
    rw [← hid]
    exact (Nat.ne_of_lt (hfit.fresh hmem)).symm
  have hjoined : (v.goto task (.wait (.join w.nextTask)) [.closeJoin 0]).task? w.nextTask =
      some ⟨w.nextTask, .call (.teardown (s.taken interrupt) .shutdown), [], none, none⟩ := by
    have hnone : w.tasks.find? (fun t => decide (t.id = w.nextTask)) = none :=
      List.find?_eq_none.2 fun t ht => by simpa using Nat.ne_of_lt (hfit.fresh ht)
    rw [task?_goto_of_ne hne, task?, hacted.tasks, List.find?_append, hnone]
    simp
  have hfind : (v.goto task (.wait (.join w.nextTask)) [.closeJoin 0]).task? task =
      some { t with control := .wait (.join w.nextTask), frames := [.closeJoin 0] } := by
    refine task?_goto_self ?_ _ _
    rw [task?] at ht ⊢
    rw [hacted.tasks, List.find?_append, ht]
    rfl
  have hphase : (v.goto task (.wait (.join w.nextTask)) [.closeJoin 0]).Phase first
      (first.play (order.map Prod.snd) ++ [s.close]) (some (w.nextTask, s.close.result)) := by
    rw [← s.close.behind_nil]
    refine .busy hends hjoined rfl hbusy (hacted.calls.trans ?_) hacted.shows
    rw [hcalls]
  refine ⟨some (w.nextTask, s.close.result), h.takes hfit horderly ht hstarted hqueued
    (passage_goto hacted.tasks hacted.finished _ _ _) (by rw [hclosing]; rfl) hphase
    (.joins hfind howner rfl rfl (fun _ hresult => Serial.closeReply_of_close hresult) (.busy rfl))
    (fun t' ht' => ?_) (fun t' ht' => ?_)
    (hacted.listed h.listed (by simp) horderly)⟩
  · cases hfind.symm.trans ht'
    obtain ⟨-, hid⟩ := task?_mem ht
    exact .joins w.nextTask howner rfl rfl (by simp [hid])
  · rw [List.mem_singleton.1 ht']
    exact .busy _ rfl

end World

end Remoting
