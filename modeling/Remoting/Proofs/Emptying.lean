import Remoting.Proofs.Reaching
import Remoting.Proofs.Waiting

/-!
# Waits for operations to end

A wait for the operations of a handler looks at their number and at the clock, and only when it is
polled. The number is that of the tickets that are alive, so what the wait answers is read off the
uses of the record: every use, by the handler itself or by somebody who reaches into the record, is
in `Moment.uses`. Cancelling an operation leaves its ticket alive, and a record without tickets
stays without until the next operation is registered. The main statement is `drained_answers`.
-/

namespace Remoting

namespace Tracker

variable {tracker : Tracker} {uses more : List Use} {id : OperationId}

/-! ## Tickets -/

/-- Tickets are only given to operations that are admitted, and only dropped. -/
theorem tickets_use (tracker : Tracker) (use : Use) : (tracker.use use).tickets =
    match use with
    | .register =>
      if tracker.accepting then tracker.tickets ++ [tracker.nextId] else tracker.tickets
    | .dropTicket id => tracker.tickets.erase id
    | _ => tracker.tickets := by
  cases use with
  | register =>
      simp only [Tracker.use, register]
      split <;> rfl
  | dropTicket id =>
      by_cases hid : id ∈ tracker.tickets
      · simp only [Tracker.use]
        rw [dropTicket_eq hid]
      · simp [Tracker.use, dropTicket, hid, List.erase_of_not_mem hid]
  | cancelAll reason | cancelChannel channel reason =>
      simp only [Tracker.use, cancelAll, cancelChannel]
      rw [cancelWhere_eq]
  | poll operation =>
      simp only [Tracker.use]
      rw [pollReceiver_eq]
  | bind | stop | dropReceiver => rfl

/-- A ticket that is not dropped stays alive, whatever else is done. -/
theorem mem_tickets_uses (hid : id ∈ tracker.tickets) (hdrop : .dropTicket id ∉ more) :
    id ∈ (more.foldl use tracker).tickets := by
  induction more generalizing tracker with
  | nil => exact hid
  | cons first more ih =>
      obtain ⟨hfirst, hmore⟩ := List.ne_and_not_mem_of_not_mem_cons hdrop
      refine ih ?_ hmore
      rw [tickets_use]
      cases first with
      | register =>
          dsimp only
          split
          · exact List.mem_append_left _ hid
          · exact hid
      | dropTicket other =>
          have hne : id ≠ other := fun heq => hfirst (heq ▸ rfl)
          exact (List.mem_erase_of_ne hne).2 hid
      | _ => exact hid

/-- Without tickets a record goes on without them until an operation is registered. -/
theorem tickets_uses_eq_nil (hnone : tracker.tickets = []) (hregister : .register ∉ more) :
    (more.foldl use tracker).tickets = [] := by
  induction more generalizing tracker with
  | nil => exact hnone
  | cons first more ih =>
      obtain ⟨hfirst, hmore⟩ := List.ne_and_not_mem_of_not_mem_cons hregister
      refine ih ?_ hmore
      rw [tickets_use, hnone]
      cases first with
      | register => exact absurd rfl hfirst
      | _ => rfl

theorem ofUses_append (uses more : List Use) :
    ofUses (uses ++ more) = more.foldl use (ofUses uses) := by
  rw [ofUses, List.foldl_append, ofUses]

theorem liveTickets_eq_nil_iff (uses : List Use) :
    liveTickets uses = [] ↔ (ofUses uses).tickets = [] :=
  ⟨fun hnone => (hnone ▸ tickets_perm uses).eq_nil,
    fun hnone => (hnone ▸ (tickets_perm uses).symm).eq_nil⟩

/-- What a wait that has begun finds in a record: all operations have ended, or its time is over. -/
theorem drained?_ofUses (uses : List Use) (deadline now : Nat) :
    (ofUses uses).drained? deadline now =
    if liveTickets uses = [] then some true else if deadline ≤ now then some false else none := by
  have hcount := (records_ofUses uses).count
  unfold drained?
  simp only [liveTickets_eq_nil_iff, hcount, List.length_eq_zero_iff]

end Tracker

/-- The uses that an action makes of a record that it reaches into. -/
def Action.uses : Action → List Tracker.Use
  | .register _ count => List.replicate count .register
  | .bind _ operation channel => [.bind operation channel]
  | .cancelAll _ reason => [.cancelAll reason]
  | .cancelChannel _ channel reason => [.cancelChannel channel reason]
  | .dropTicket _ operation => [.dropTicket operation]
  | .dropReceiver _ operation => [.dropReceiver operation]
  | .pollReceiver _ operation => [.poll operation]
  | _ => []

/-- The uses that a move makes of a record that it reaches into. -/
def Move.uses : Move → List Tracker.Use
  | .act action => action.uses
  | _ => []

namespace World

variable {w : World} {handler : HandlerId}

theorem tracker?_modifyHandler (w : World) (handler : HandlerId) (change : Tracker → Tracker) :
    (w.modifyHandler handler fun h => { h with tracker := change h.tracker }).tracker? handler =
      (w.tracker? handler).map change := by
  simp only [tracker?, modifyHandler, List.getElem?_modify]
  cases w.handlers[handler]? <;> simp

theorem handlers_warn_signal (handler : HandlerId) (undelivered matched : List OperationId)
    (w : World) : (matched.foldl (fun w id => w.signal (.cancelled handler id))
      (undelivered.foldl (fun w id => w.warn (.undelivered id)) w)).handlers = w.handlers := by
  induction undelivered generalizing w with
  | nil =>
      induction matched generalizing w with
      | nil => rfl
      | cons id matched ih => exact ih (w.signal _)
  | cons id undelivered ih => exact ih (w.warn _)

theorem tracker?_cancelOperations (w : World) (handler : HandlerId)
    (cancel : Tracker → Tracker.Cancellation) :
    (w.cancelOperations handler cancel).2.tracker? handler =
      (w.tracker? handler).map fun tracker => (cancel tracker).after := by
  unfold cancelOperations
  split
  next hnone =>
    rw [tracker?, hnone]
    rfl
  next h hcell =>
    rw [tracker?, handlers_warn_signal]
    simp [tracker?, modifyHandler, hcell]

theorem tracker?_register (w : World) (handler : HandlerId) (count : Nat) :
    (Session.register w handler count).2.tracker? handler = (w.tracker? handler).map fun tracker =>
      (List.replicate count Tracker.Use.register).foldl Tracker.use tracker := by
  induction count generalizing w with
  | zero => exact Option.map_id'.symm
  | succ count ih =>
      have hdeals : Deals (fun _ => True) handler (deedsAt handler handler [.accept]) w
          (w.registerOperation handler).2 := deals_registerOperation w handler
      have hone := hdeals.tracker
      rw [deedsAt, if_pos rfl] at hone
      refine (ih (w.registerOperation handler).2).trans ?_
      rw [hone, Option.map_map]
      rfl

theorem tracker?_pollReceiver (w : World) (handler : HandlerId) (operation : OperationId) :
    (w.act (.pollReceiver handler operation)).tracker? handler =
      (w.tracker? handler).map fun tracker => (tracker.pollReceiver operation).2 := by
  cases hcell : w.handlers[handler]? with
  | none =>
      simp [World.act, Session.act, Session.tracker, Session.world, Session.ofWorld, hcell,
        tracker?, Tracker.pollReceiver, Tracker.receiver?, Tracker.empty]
  | some h =>
      cases hpoll : h.tracker.pollReceiver operation with
      | mk receiver? tracker =>
          cases receiver? with
          | some receiver =>
              simp [World.act, Session.act, Session.tracker, Session.world, Session.ofWorld, hcell,
                hpoll, tracker?, modifyHandler, Session.answering, Session.setWorld]
          | none =>
              -- where there is no receiver to look at, nothing changes
              have hsame : tracker = h.tracker := by
                unfold Tracker.pollReceiver at hpoll
                split at hpoll
                next => cases hpoll
                next => exact (congrArg Prod.snd hpoll).symm
              simp [World.act, Session.act, Session.tracker, Session.world, Session.ofWorld, hcell,
                hpoll, tracker?, hsame]

/-- An action that reaches into a record does to it what its uses say. -/
theorem tracker?_act {action : Action} (hreaches : action.reaches? = some handler) :
    (w.act action).tracker? handler = (w.tracker? handler).map fun tracker =>
      action.uses.foldl Tracker.use tracker := by
  cases action with
  | register own count =>
      obtain rfl : own = handler := Option.some.inj hreaches
      exact tracker?_register w own count
  | bind own operation channel =>
      obtain rfl : own = handler := Option.some.inj hreaches
      exact tracker?_modifyHandler w own (·.bind operation channel)
  | cancelAll own reason =>
      obtain rfl : own = handler := Option.some.inj hreaches
      exact tracker?_cancelOperations w own (·.cancelAll reason)
  | cancelChannel own channel reason =>
      obtain rfl : own = handler := Option.some.inj hreaches
      exact tracker?_cancelOperations w own (·.cancelChannel channel reason)
  | dropTicket own operation =>
      obtain rfl : own = handler := Option.some.inj hreaches
      exact tracker?_modifyHandler w own (·.dropTicket operation)
  | dropReceiver own operation =>
      obtain rfl : own = handler := Option.some.inj hreaches
      exact tracker?_modifyHandler w own (·.dropReceiver operation)
  | pollReceiver own operation =>
      obtain rfl : own = handler := Option.some.inj hreaches
      exact tracker?_pollReceiver w own operation
  | _ => cases hreaches

end World

namespace Moment

variable {m first after last : Moment} {move : Move} {moves before later : List Move}
  {handler : HandlerId} {tracker : Tracker} {task : TaskId} {deadline : Nat} {frames : List Frame}

/-! ## Uses in runs -/

/-- The uses that a move makes of the record of a handler. -/
def uses (m : Moment) (handler : HandlerId) (move : Move) : List Tracker.Use :=
  match m.world.tracker? handler with
  | none => []
  | some _ =>
    if move.reaches? = some handler then move.uses
    else (m.deeds handler move).flatMap Deed.uses

/-- The uses that a run makes of the record of a handler. -/
def usesIn (m : Moment) (handler : HandlerId) : List Move → List Tracker.Use
  | [] => []
  | move :: moves =>
    m.uses handler move ++
      match m.next move with
      | some after => after.usesIn handler moves
      | none => []

theorem usesIn_append (hrun : m.run before = some first) :
    m.usesIn handler (before ++ later) = m.usesIn handler before ++ first.usesIn handler later := by
  induction before generalizing m with
  | nil =>
      cases hrun
      rfl
  | cons move before ih =>
      obtain ⟨after, hnext, hrest⟩ := Option.bind_eq_some_iff.1 hrun
      simp only [List.cons_append, usesIn, hnext, ih hrest, List.append_assoc]

theorem foldl_uses (deeds : List Deed) (tracker : Tracker) :
    (deeds.flatMap Deed.uses).foldl Tracker.use tracker = deeds.foldl Tracker.after tracker := by
  induction deeds generalizing tracker with
  | nil => rfl
  | cons deed deeds ih =>
      rw [List.flatMap_cons, List.foldl_append, ← Tracker.after_eq_uses, List.foldl_cons, ih]

/-- A move makes of a record what its uses say, and a new record is empty. -/
theorem next_tracker (hnext : m.next move = some after) :
    after.world.tracker? handler = ((m.world.tracker? handler).map fun tracker =>
        (m.uses handler move).foldl Tracker.use tracker) ∨
      m.world.tracker? handler = none ∧ after.world.tracker? handler = some .empty := by
  by_cases hreaches : move.reaches? = some handler
  · obtain ⟨action, rfl⟩ : ∃ action, move = .act action := by
      cases move with
      | act action => exact ⟨action, rfl⟩
      | _ => cases hreaches
    refine .inl ?_
    have hworld : after.world = m.world.act action := by
      cases next_transition hnext
      rfl
    rw [hworld, World.tracker?_act hreaches]
    cases htracker : m.world.tracker? handler with
    | none => rfl
    | some tracker =>
        simp only [uses, htracker, hreaches, if_true]
        rfl
  · -- otherwise only the operations of the handler itself use the record
    have hspares : move.Spares handler := by
      rintro action rfl heq
      exact hreaches heq
    refine (next_turns hnext hspares).tracker.imp_left fun heq => ?_
    rw [heq]
    cases htracker : m.world.tracker? handler with
    | none => rfl
    | some tracker =>
        simp only [uses, htracker, hreaches, if_false, Option.map_some, foldl_uses]

/-- At every moment of a run a record is what its uses have made of it. -/
theorem tracker_of_run {suppliers : List Supplier}
    (hrun : (startWith suppliers).run moves = some last)
    (htracker : last.world.tracker? handler = some tracker) :
    tracker = .ofUses ((startWith suppliers).usesIn handler moves) := by
  -- the handler may be made in the run: until then there are no uses
  suffices h : (∀ tracker, last.world.tracker? handler = some tracker →
        tracker = .ofUses ((startWith suppliers).usesIn handler moves)) ∧
      (last.world.tracker? handler = none → (startWith suppliers).usesIn handler moves = []) from
    h.1 tracker htracker
  refine run_history_induction (P := fun moves last => (∀ tracker,
      last.world.tracker? handler = some tracker →
        tracker = .ofUses ((startWith suppliers).usesIn handler moves)) ∧
    (last.world.tracker? handler = none → (startWith suppliers).usesIn handler moves = []))
    ⟨fun tracker htracker => ?_, fun _ => rfl⟩ ?_ hrun
  · rw [startWith, World.ofSuppliers_eq] at htracker
    obtain ⟨h, hcell, rfl⟩ := Option.map_eq_some_iff.1 htracker
    rw [List.getElem?_map] at hcell
    obtain ⟨supplier, -, rfl⟩ := Option.map_eq_some_iff.1 hcell
    rfl
  · rintro moves middle move after hmiddle ⟨hpresent, habsent⟩ hnext
    have hsnoc : (startWith suppliers).usesIn handler (moves ++ [move]) =
        (startWith suppliers).usesIn handler moves ++ middle.uses handler move := by
      rw [usesIn_append hmiddle]
      simp only [usesIn, hnext, List.append_nil]
    rw [hsnoc]
    have hnone : middle.world.tracker? handler = none → middle.uses handler move = [] := by
      intro hnone
      rw [uses, hnone]
    rcases next_tracker hnext with heq | ⟨hbefore, hempty⟩
    · cases hbefore : middle.world.tracker? handler with
      | none =>
          rw [hbefore, Option.map_none] at heq
          exact ⟨fun tracker hsome => (by cases heq.symm.trans hsome),
            fun _ => by rw [habsent hbefore, hnone hbefore, List.append_nil]⟩
      | some known =>
          rw [hbefore, Option.map_some] at heq
          refine ⟨fun tracker hsome => ?_, fun hgone => (by cases heq.symm.trans hgone)⟩
          rw [← Option.some.inj (heq.symm.trans hsome), hpresent known hbefore,
            Tracker.ofUses_append]
    · refine ⟨fun tracker hsome => ?_, fun hgone => (by cases hempty.symm.trans hgone)⟩
      rw [habsent hbefore, hnone hbefore, List.append_nil]
      exact (Option.some.inj (hempty.symm.trans hsome)).symm

/-! ## Waits in runs -/

/-- What a wait for operations returns, or nothing while it goes on: it is over without operations,
and it gives up with its time. -/
def drainAnswer? (live : List OperationId) (deadline now : Nat) : Option Control :=
  if live = [] then some (.reply (.ok (.flag true)))
  else if deadline ≤ now then some (.reply (.ok (.flag false)))
  else none

/-- A wait whose time is over has an answer. -/
theorem drainAnswer?_of_due (live : List OperationId) {now : Nat} (hdue : deadline ≤ now) :
    drainAnswer? live deadline now = some (.reply (.ok (.flag live.isEmpty))) := by
  rw [drainAnswer?, if_pos hdue]
  cases live <;> rfl

theorem ready?_drained (task : TaskId) {uses : List Tracker.Use}
    (htracker : m.world.tracker? handler = some (.ofUses uses)) :
    m.world.ready? task (.drained handler deadline) =
      drainAnswer? (Tracker.liveTickets uses) deadline m.world.now := by
  obtain ⟨h, hcell, htracker⟩ := Option.map_eq_some_iff.1 htracker
  rw [World.ready?, hcell, Option.bind_some, htracker, Tracker.drained?_ofUses, drainAnswer?]
  split
  · rfl
  · split <;> rfl

/-- The polled task finds that its wait for operations is over: it is told the answer of that
moment. -/
def DrainEnds (m : Moment) (handler : HandlerId) (task : TaskId) (deadline : Nat) (move : Move) :
    Prop :=
  ∃ tracker control, m.world.tracker? handler = some tracker ∧
    drainAnswer? tracker.tickets deadline m.world.now = some control ∧
    m.Notices task (.drained handler deadline) move control

/-- What a wait for the operations of a handler keeps to, from one moment of a run to a later one.
The uses that the run has made of the record are given up to the first moment, and from there on. -/
structure Emptied (first : Moment) (moves : List Move) (last : Moment) (handler : HandlerId)
    (earlier later : List Tracker.Use) : Prop where
  /-- At each poll it returns whether all operations have ended, if they have or its time is over,
  and otherwise it goes on. -/
  heeds : ∀ {task deadline frames}, last.StandsAt task (.wait (.drained handler deadline)) frames →
    last.Heeds task frames
      (drainAnswer? (Tracker.liveTickets (earlier ++ later)) deadline last.world.now)
  /-- Unless it is broken off, it goes on until it is polled and has an answer. -/
  returns : ∀ {task deadline frames},
    first.StandsAt task (.wait (.drained handler deadline)) frames →
    last.StandsAt task (.wait (.drained handler deadline)) frames ∨
      first.Happens (fun n move => n.StandsAt task (.wait (.drained handler deadline)) frames ∧
        (n.BreaksOff task frames move ∨ n.DrainEnds handler task deadline move)) moves
  /-- A ticket that nobody drops is alive, whatever operations are cancelled. -/
  holds : ∀ id ∈ Tracker.liveTickets earlier, .dropTicket id ∉ later →
    id ∈ Tracker.liveTickets (earlier ++ later)
  /-- All operations that have ended stay so until the next one is registered. -/
  rests : Tracker.liveTickets earlier = [] → .register ∉ later →
    Tracker.liveTickets (earlier ++ later) = []
  /-- It begins with its time limit, counted from that moment. Without any time it is over at
  once. -/
  begins : ∀ {task ms frames}, last.StandsAt task (.call (.awaitDrained handler ms)) frames →
    last.actor? .step = some task → ∃ after, last.next .step = some after ∧
      after.StandsAt task (.wait (.drained handler (last.world.after ms))) frames ∧
      after.actor? .step = some task ∧ after.world.tracker? handler = last.world.tracker? handler ∧
      (ms = 0 → ∃ answered, after.next .step = some answered ∧ answered.StandsAt task
        (.reply (.ok (.flag (Tracker.liveTickets (earlier ++ later)).isEmpty))) frames)

/-- The call for a wait leads to the wait. -/
theorem StandsAt.awaits {ms : Nat} (h : m.StandsAt task (.call (.awaitDrained handler ms)) frames)
    (hactor : m.actor? .step = some task) : ∃ after, m.next .step = some after ∧
      after.StandsAt task (.wait (.drained handler (m.world.after ms))) frames ∧
      after.actor? .step = some task ∧ after.world.tracker? handler = m.world.tracker? handler ∧
      after.world.now = m.world.now := by
  obtain ⟨t, ht, hcontrol, rfl⟩ := h
  obtain ⟨-, rfl⟩ := World.task?_mem ht
  have hstep : m.world.step? t.id = some (m.world.goto t.id
      (.wait (.drained handler (m.world.after ms))) t.frames) := by
    rw [World.step?_call ht hcontrol]
    rfl
  exact ⟨_, next_of_polled (polled?_of_actor? hactor ht) hstep,
    ⟨_, World.task?_goto_self ht _ _, rfl, rfl⟩, hactor, rfl, rfl⟩

/-- A wait for the operations of a handler answers exactly: it returns at its first poll at which no
operation is alive or its time is over, and its answer is whether none is alive at that poll. So an
operation that was only cancelled keeps it waiting, and once all operations have ended the next poll
ends it, however many have come and gone before. -/
theorem drained_answers {suppliers : List Supplier}
    (hbefore : (startWith suppliers).run before = some first) (hlater : first.run later = some last)
    (htracker : last.world.tracker? handler = some tracker) :
    tracker = .ofUses ((startWith suppliers).usesIn handler before ++ first.usesIn handler later) ∧
      first.Emptied later last handler ((startWith suppliers).usesIn handler before)
        (first.usesIn handler later) := by
  have hrun := run_trans hbefore hlater
  have huses := tracker_of_run hrun htracker
  rw [usesIn_append hbefore] at huses
  subst huses
  refine ⟨rfl, ?_⟩
  constructor
  case heeds =>
    intro task deadline frames hstands
    exact ready?_drained task htracker ▸ hstands.heeds
  case returns =>
    intro task deadline frames hstands
    refine (hstands.run hlater).imp_right ?_
    rintro ⟨between, move, rest, n, rfl, hn, hwaits, hleaves⟩
    refine ⟨between, move, rest, n, rfl, hn, hwaits, hleaves.imp_right ?_⟩
    rintro ⟨control, hnotices⟩
    obtain ⟨known, hknown⟩ : ∃ known, n.world.tracker? handler = some known := by
      obtain ⟨-, -, hready⟩ := hnotices
      simp only [World.ready?, Option.map_eq_some_iff, Option.bind_eq_some_iff] at hready
      obtain ⟨-, ⟨h, hcell, -⟩, -⟩ := hready
      exact ⟨h.tracker, by rw [World.tracker?, hcell, Option.map_some]⟩
    refine ⟨known, control, hknown, ?_, hnotices⟩
    have hused := tracker_of_run (run_trans hbefore hn) hknown
    have hready := hnotices.2.2
    rw [ready?_drained task (hused ▸ hknown)] at hready
    simp only [drainAnswer?, Tracker.liveTickets_eq_nil_iff, ← hused] at hready ⊢
    exact hready
  case holds =>
    intro id hid hdrop
    rw [Tracker.mem_liveTickets] at hid ⊢
    rw [Tracker.ofUses_append]
    exact Tracker.mem_tickets_uses hid hdrop
  case rests =>
    intro hnone hregister
    rw [Tracker.liveTickets_eq_nil_iff] at hnone ⊢
    rw [Tracker.ofUses_append]
    exact Tracker.tickets_uses_eq_nil hnone hregister
  case begins =>
    intro task ms frames hstands hactor
    obtain ⟨after, hnext, hwaits, hactor', hsame, hnow⟩ := hstands.awaits hactor
    refine ⟨after, hnext, hwaits, hactor', hsame, ?_⟩
    rintro rfl
    -- a wait without any time is over at once, and the look at it finds an answer
    have hdue : last.world.after 0 ≤ after.world.now := by
      rw [hnow]
      exact Nat.le_of_eq rfl
    have hready := (ready?_drained task (hsame.trans htracker)).trans (drainAnswer?_of_due _ hdue)
    obtain ⟨answered, hanswered, hreply, -⟩ := hwaits.returns hactor' hready
    exact ⟨answered, hanswered, hreply⟩

/-- Two operations are registered at a handler, and a task waits for a second until they have
ended. -/
def emptyingStart : List Move :=
  [.act (.register 0 2), .act (.start "wait" (.awaitDrained 0 1000)),
    .poll 0, .step, .expire, .rest]

def emptyingFirst : Moment := ((startWith [.plan [] 0]).run emptyingStart).get (by decide +kernel)

/-- One of them is cancelled, both end, and then the second is over. -/
def emptyingEnds : List Move :=
  [.act (.cancelAll 0 (.cancelled "abort")), .act (.dropTicket 0 1), .act (.dropTicket 0 2),
    .pass 1000]

def emptyingLast : Moment := (emptyingFirst.run emptyingEnds).get (by decide +kernel)

theorem drained_answers_of_ends : (startWith [.plan [] 0]).run emptyingStart = some emptyingFirst ∧
    emptyingFirst.run emptyingEnds = some emptyingLast ∧
    ∃ tracker, emptyingLast.world.tracker? 0 = some tracker ∧
      (startWith [.plan [] 0]).usesIn 0 emptyingStart = [.register, .register] ∧
      emptyingFirst.usesIn 0 emptyingEnds =
        [.cancelAll (.cancelled "abort"), .dropTicket 1, .dropTicket 2] ∧
      emptyingFirst.Emptied emptyingEnds emptyingLast 0 [.register, .register]
        [.cancelAll (.cancelled "abort"), .dropTicket 1, .dropTicket 2] ∧
      ∃ polled after, emptyingLast.next (.poll 0) = some polled ∧ polled.next .step = some after ∧
        after.StandsAt 0 (.reply (.ok (.flag true))) [] := by
  have hbefore : (startWith [.plan [] 0]).run emptyingStart = some emptyingFirst :=
    (Option.some_get _).symm
  have hlater : emptyingFirst.run emptyingEnds = some emptyingLast := (Option.some_get _).symm
  obtain ⟨tracker, htracker⟩ : ∃ tracker, emptyingLast.world.tracker? 0 = some tracker :=
    Option.isSome_iff_exists.1 (by decide +kernel)
  have hearlier : (startWith [.plan [] 0]).usesIn 0 emptyingStart = [.register, .register] := by
    decide +kernel
  have hends : emptyingFirst.usesIn 0 emptyingEnds =
      [.cancelAll (.cancelled "abort"), .dropTicket 1, .dropTicket 2] := by decide +kernel
  obtain ⟨-, hemptied⟩ := drained_answers hbefore hlater htracker
  rw [hearlier, hends] at hemptied
  have hstands : emptyingLast.StandsAt 0 (.wait (.drained 0 1000)) [] := ⟨_, rfl, rfl, rfl⟩
  have hheeds := hemptied.heeds hstands
  have hnone : Tracker.liveTickets ([.register, .register] ++
      [.cancelAll (.cancelled "abort"), .dropTicket 1, .dropTicket 2]) = [] := by decide +kernel
  rw [hnone] at hheeds
  exact ⟨hbefore, hlater, tracker, htracker, hearlier, hends, hemptied, hheeds.polls rfl rfl rfl⟩

end Moment

end Remoting
