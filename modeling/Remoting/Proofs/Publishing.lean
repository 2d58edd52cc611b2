import Mathlib.Data.List.Induction
import Remoting.Endpoint.State

/-!
# What receivers learn of a state

Whoever has a handle of an endpoint's channel may move the state on, add a receiver and let a
receiver look, in any order. The state is the furthest one that was ever asked for, and a receiver
is told of a change exactly if a move has succeeded since it was added or last looked. For this the
channel counts the moves that succeed: a receiver that has not looked has still seen the count of
that time.
-/

namespace Remoting.StateChannel

/-- What is done with a channel through any of its handles. -/
inductive Use where
  /-- Moves to a later state. -/
  | advance (next : EndpointState)
  /-- Adds a receiver. -/
  | receive
  /-- Lets a receiver look. -/
  | look (receiver : Nat)

/-- The channel after a use. -/
def use (channel : StateChannel) : Use → StateChannel
  | .advance next => (channel.advance next).2
  | .receive => channel.receiver.2
  | .look receiver =>
    match channel.look? receiver with
    | some (_, _, channel) => channel
    | none => channel

/-- The channel after several uses. -/
def uses (channel : StateChannel) (list : List Use) : StateChannel :=
  list.foldl use channel

/-- The channel of a new endpoint after several uses. -/
def ofUses (list : List Use) : StateChannel :=
  fresh.uses list

variable {channel after : StateChannel} {list before between : List Use} {next : EndpointState}
  {receiver : Nat} {first : Use}

@[simp] theorem uses_nil (channel : StateChannel) : channel.uses [] = channel := rfl

theorem uses_cons (channel : StateChannel) (use : Use) (list : List Use) :
    channel.uses (use :: list) = (channel.use use).uses list := rfl

theorem uses_append (channel : StateChannel) (first second : List Use) :
    channel.uses (first ++ second) = (channel.uses first).uses second := by
  rw [uses, uses, uses, List.foldl_append]

/-! ## States -/

/-- Only a move changes the state. -/
theorem rank_use (channel : StateChannel) (use : Use) :
    (channel.use use).state.rank = max channel.state.rank
      (match use with | .advance next => next.rank | _ => 0) := by
  cases use with
  | advance next => exact channel.rank_advance next
  | receive => exact (Nat.max_eq_left (Nat.zero_le _)).symm
  | look receiver =>
      refine Eq.trans (congrArg EndpointState.rank ?_) (Nat.max_eq_left (Nat.zero_le _)).symm
      show (channel.use (.look receiver)).state = channel.state
      simp only [use, look?]
      cases channel.receivers[receiver]? <;> rfl

/-- The state only moves forward. -/
theorem rank_le_uses (channel : StateChannel) (list : List Use) :
    channel.state.rank ≤ (channel.uses list).state.rank := by
  induction list generalizing channel with
  | nil => exact Nat.le_refl _
  | cons use list ih =>
      refine Nat.le_trans ?_ (ih (channel.use use))
      rw [rank_use]
      exact Nat.le_max_left _ _

/-- The state is at or past every state that was asked for. -/
theorem rank_le_of_mem (h : .advance next ∈ list) :
    next.rank ≤ (channel.uses list).state.rank := by
  obtain ⟨before, between, rfl⟩ := List.append_of_mem h
  rw [uses_append, uses_cons]
  refine Nat.le_trans ?_ (rank_le_uses _ between)
  rw [rank_use]
  exact Nat.le_max_right _ _

/-- The state is what it was, or one that was asked for. -/
theorem state_uses (channel : StateChannel) (list : List Use) :
    (channel.uses list).state = channel.state ∨ .advance (channel.uses list).state ∈ list := by
  induction list generalizing channel with
  | nil => exact .inl rfl
  | cons use list ih =>
      rcases ih (channel.use use) with hsame | hmem
      · rw [uses_cons, hsame]
        cases use with
        | advance next =>
            simp only [StateChannel.use, advance]
            split
            · exact .inr (List.mem_cons_self ..)
            · exact .inl rfl
        | receive => exact .inl rfl
        | look receiver =>
            refine .inl ?_
            simp only [StateChannel.use, look?]
            cases channel.receivers[receiver]? <;> rfl
      · exact .inr (List.mem_cons_of_mem _ hmem)

/-! ## Changes -/

/-- Among some uses of a channel there is a move that succeeds. -/
def Changes (channel : StateChannel) (list : List Use) : Prop :=
  ∃ before next later, list = before ++ .advance next :: later ∧
    ((channel.uses before).advance next).1 = true

/-- A move succeeds with the first use or with one of the others. -/
theorem changes_cons (use : Use) : channel.Changes (use :: list) ↔
    (∃ next, use = .advance next ∧ (channel.advance next).1 = true) ∨
      (channel.use use).Changes list := by
  constructor
  · rintro ⟨before, next, later, heq, hchanges⟩
    cases before with
    | nil =>
        cases heq
        exact .inl ⟨next, rfl, hchanges⟩
    | cons first before =>
        cases heq
        exact .inr ⟨before, next, later, rfl, hchanges⟩
  · rintro (⟨next, rfl, hchanges⟩ | ⟨before, next, later, rfl, hchanges⟩)
    · exact ⟨[], next, list, rfl, hchanges⟩
    · exact ⟨use :: before, next, later, rfl, hchanges⟩

/-- The channel counts the moves that succeed. -/
theorem version_use (channel : StateChannel) (use : Use) :
    (channel.use use).version = channel.version ∧
        ¬ (∃ next, use = .advance next ∧ (channel.advance next).1 = true) ∨
      (channel.use use).version = channel.version + 1 ∧
        ∃ next, use = .advance next ∧ (channel.advance next).1 = true := by
  cases use with
  | advance next =>
      by_cases hlater : channel.state.rank < next.rank
      · refine .inr ⟨?_, next, rfl, ?_⟩ <;> simp [StateChannel.use, advance, hlater]
      · refine .inl ⟨?_, ?_⟩
        · simp [StateChannel.use, advance, hlater]
        · rintro ⟨next', heq, hchanges⟩
          cases heq
          simp [advance, hlater] at hchanges
  | receive => exact .inl ⟨rfl, nofun⟩
  | look receiver =>
      refine .inl ⟨?_, nofun⟩
      simp only [StateChannel.use, look?]
      cases channel.receivers[receiver]? <;> rfl

/-- The count moves on together with the state. -/
theorem version_use_eq_iff (channel : StateChannel) (use : Use) :
    (channel.use use).version = channel.version ↔ (channel.use use).state = channel.state := by
  cases use with
  | advance next =>
      by_cases hlater : channel.state.rank < next.rank
      · have hne : next ≠ channel.state := fun heq => absurd hlater (heq ▸ Nat.lt_irrefl _)
        simp [StateChannel.use, advance, hlater, hne]
      · simp [StateChannel.use, advance, hlater]
  | receive => exact iff_of_true rfl rfl
  | look receiver =>
      simp only [StateChannel.use, look?]
      cases channel.receivers[receiver]? <;> exact iff_of_true rfl rfl

theorem version_le_uses (channel : StateChannel) (list : List Use) :
    channel.version ≤ (channel.uses list).version := by
  induction list generalizing channel with
  | nil => exact Nat.le_refl _
  | cons use list ih =>
      refine Nat.le_trans ?_ (ih (channel.use use))
      rcases channel.version_use use with ⟨heq, -⟩ | ⟨heq, -⟩ <;> omega

/-- The count has moved on exactly if a move has succeeded. -/
theorem version_uses_ne_iff : channel.version ≠ (channel.uses list).version ↔
    channel.Changes list := by
  induction list generalizing channel with
  | nil =>
      refine ⟨fun hne => absurd rfl hne, ?_⟩
      rintro ⟨before, next, later, heq, -⟩
      cases before <;> cases heq
  | cons use list ih =>
      rw [uses_cons, changes_cons, ← ih]
      have hle := version_le_uses (channel.use use) list
      rcases channel.version_use use with ⟨heq, hnot⟩ | ⟨heq, hchanges⟩
      · rw [heq]
        exact ⟨.inr, (·.resolve_left hnot)⟩
      · exact ⟨fun _ => .inl hchanges, fun _ => by omega⟩

/-! ## Receivers -/

/-- No use but its own look changes what a receiver has seen. -/
theorem receivers_use {use : Use} (hreceiver : receiver < channel.receivers.length)
    (hlook : use ≠ .look receiver) :
    (channel.use use).receivers[receiver]? = channel.receivers[receiver]? := by
  cases use with
  | advance next =>
      simp only [StateChannel.use, advance]
      split <;> rfl
  | receive => exact List.getElem?_append_left hreceiver
  | look other =>
      have hother : other ≠ receiver := fun heq => hlook (heq ▸ rfl)
      simp only [StateChannel.use, look?]
      cases channel.receivers[other]? with
      | none => rfl
      | some seen => simp [List.getElem?_set_ne hother]

/-- Whether a use adds a receiver. -/
def Use.adds : Use → Bool
  | .receive => true
  | _ => false

theorem length_use (channel : StateChannel) (use : Use) :
    (channel.use use).receivers.length = channel.receivers.length + if use.adds then 1 else 0 := by
  cases use with
  | advance next =>
      simp only [StateChannel.use, advance]
      split <;> rfl
  | receive => exact List.length_append
  | look receiver =>
      simp only [StateChannel.use, look?]
      cases channel.receivers[receiver]? with
      | none => rfl
      | some seen => simp [Use.adds]

theorem length_uses (channel : StateChannel) (list : List Use) :
    (channel.uses list).receivers.length =
      channel.receivers.length + list.countP Use.adds := by
  induction list generalizing channel with
  | nil => rfl
  | cons use list ih =>
      rw [uses_cons, ih, length_use, List.countP_cons, Nat.add_assoc, Nat.add_comm (List.countP ..)]

theorem receivers_uses (hreceiver : receiver < channel.receivers.length)
    (hlook : .look receiver ∉ list) :
    (channel.uses list).receivers[receiver]? = channel.receivers[receiver]? := by
  induction list generalizing channel with
  | nil => rfl
  | cons use list ih =>
      obtain ⟨hfirst, hrest⟩ := List.ne_and_not_mem_of_not_mem_cons hlook
      have hlength : receiver < (channel.use use).receivers.length := by
        rw [length_use]
        omega
      rw [uses_cons, ih hlength hrest, receivers_use hreceiver hfirst.symm]

/-- With a use a receiver sees the current state: it is added, or it looks. -/
inductive Sees (channel : StateChannel) (receiver : Nat) : Use → Prop
  | added (number : receiver = channel.receivers.length) : Sees channel receiver .receive
  | looks (known : receiver < channel.receivers.length) : Sees channel receiver (.look receiver)

theorem Sees.seen (h : channel.Sees receiver first) :
    (channel.use first).receivers[receiver]? = some (channel.use first).version := by
  cases h with
  | added number =>
      subst number
      exact List.getElem?_concat_length
  | looks known =>
      simp only [use, look?, List.getElem?_eq_getElem known, Option.map_some]
      exact List.getElem?_set_self known

/-- A receiver that looks again is told whether a move has succeeded since. -/
theorem Sees.look? (h : channel.Sees receiver first) (hlook : .look receiver ∉ between) :
    ∃ changed after, (channel.uses (first :: between)).look? receiver =
        some (changed, (channel.uses (first :: between)).state, after) ∧
      (changed = true ↔ (channel.use first).Changes between) := by
  have hseen := h.seen
  have hknown := (List.getElem?_eq_some_iff.1 hseen).1
  rw [uses_cons, StateChannel.look?, receivers_uses hknown hlook, hseen, Option.map_some]
  exact ⟨_, _, rfl, by rw [decide_eq_true_iff, version_uses_ne_iff]⟩

/-- For every receiver there is the use with which it saw the state last. -/
theorem exists_sees (h : receiver < (ofUses list).receivers.length) :
    ∃ before first between, list = before ++ first :: between ∧
      (ofUses before).Sees receiver first ∧ .look receiver ∉ between := by
  induction list using List.reverseRecOn with
  | nil => cases h
  | append_singleton list use ih =>
      have hstep : ofUses (list ++ [use]) = (ofUses list).use use := uses_append _ _ _
      by_cases hsees : (ofUses list).Sees receiver use
      · exact ⟨list, use, [], rfl, hsees, List.not_mem_nil⟩
      -- a receiver that this use does not add was there before
      have hknown : receiver < (ofUses list).receivers.length := by
        rw [hstep, length_use] at h
        cases use with
        | receive =>
            refine Nat.lt_of_le_of_ne (Nat.le_of_lt_succ h) fun heq => ?_
            exact hsees (.added heq)
        | advance | look => exact h
      obtain ⟨before, first, between, rfl, hbefore, hlook⟩ := ih hknown
      refine ⟨before, first, between ++ [use], by simp, hbefore, ?_⟩
      rintro hmem
      rcases List.mem_append.1 hmem with hmem | hmem
      · exact hlook hmem
      · rw [← List.mem_singleton.1 hmem] at hsees
        exact hsees (.looks hknown)

/-! ## The whole -/

/-- What the channel of an endpoint keeps to, whatever is done with it. -/
structure Faithful (list : List Use) : Prop where
  /-- The state is the furthest of all that were asked for. -/
  state : (ofUses list).state = .opened ∨ .advance (ofUses list).state ∈ list
  furthest : ∀ next, .advance next ∈ list → next.rank ≤ (ofUses list).state.rank
  /-- A move tells whether the state has changed. -/
  advance : ∀ next, ((ofUses list).advance next).1 = true ↔
    (ofUses (list ++ [.advance next])).state ≠ (ofUses list).state
  /-- A receiver that saw the state with some use is told at its next look of the current state, and
  whether a move has succeeded since. -/
  told : ∀ {before first between receiver}, list = before ++ first :: between →
    (ofUses before).Sees receiver first → .look receiver ∉ between →
      ∃ changed after, (ofUses list).look? receiver = some (changed, (ofUses list).state, after) ∧
        (changed = true ↔ ((ofUses before).use first).Changes between)
  /-- Every receiver has seen the state with some use. -/
  seen : ∀ {receiver}, receiver < list.countP Use.adds → ∃ before first between,
    list = before ++ first :: between ∧ (ofUses before).Sees receiver first ∧
      .look receiver ∉ between

/-- The channel of an endpoint keeps to this. -/
theorem faithful (list : List Use) : Faithful list where
  state := state_uses fresh list
  furthest _ hmem := rank_le_of_mem hmem
  advance next := by
    have hstep : ofUses (list ++ [.advance next]) = ((ofUses list).advance next).2 :=
      uses_append _ _ _
    rw [hstep]
    exact advance_fst_iff _ next
  told hlist hsees hlook := by
    have hwhole : ofUses list = (ofUses _).uses _ := hlist ▸ uses_append _ _ _
    rw [hwhole]
    exact hsees.look? hlook
  seen hreceiver := by
    refine exists_sees ?_
    rw [ofUses, length_uses]
    exact Nat.lt_of_lt_of_le hreceiver (Nat.le_add_left _ _)

/-- Two moves are one change to a receiver that was added before, and none to one that was added
after. -/
example :
    ((ofUses [.receive, .advance .closing, .advance .closed, .receive]).look? 0).map Prod.fst =
      some true ∧
    ((ofUses [.receive, .advance .closing, .advance .closed, .receive]).look? 1).map Prod.fst =
      some false := by decide

end Remoting.StateChannel
