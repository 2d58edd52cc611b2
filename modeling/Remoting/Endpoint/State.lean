/-!
# The state of an endpoint

An endpoint is open, closing or closed, and its state only moves forward. A `StateChannel` publishes
it: receivers learn whether it has changed since they last looked, waiters see only the state at the
moment they look.
-/

namespace Remoting

/-- How far an endpoint has been closed. -/
inductive EndpointState where
  /-- The endpoint accepts work. -/
  | opened
  /-- A close was requested and the owned tasks wind down. -/
  | closing
  /-- Everything the endpoint owned is gone. -/
  | closed
  deriving DecidableEq, Inhabited

namespace EndpointState

/-- The states in their order. -/
def all : List EndpointState := [.opened, .closing, .closed]

/-- The position of a state in the order. -/
def rank : EndpointState → Nat
  | .opened => 0
  | .closing => 1
  | .closed => 2

/-- The name of a state. -/
def name : EndpointState → String
  | .opened => "Open"
  | .closing => "Closing"
  | .closed => "Closed"

/-- The state of a given name. -/
def ofName? (text : String) : Option EndpointState :=
  all.find? (·.name == text)

/-- Whether a close was requested. -/
def isCloseRequested (state : EndpointState) : Bool :=
  state ≠ .opened

/-- Every state is on the list of states. -/
theorem mem_all (state : EndpointState) : state ∈ all := by
  cases state <;> simp [all]

/-- A state is read back from its name. -/
@[simp] theorem ofName?_name (state : EndpointState) : ofName? state.name = some state := by
  cases state <;> rfl

/-- Two states in the same position are the same. -/
theorem eq_of_rank_eq {a b : EndpointState} (h : a.rank = b.rank) : a = b := by
  cases a <;> cases b <;> first | rfl | cases h

end EndpointState

/-- The published state of an endpoint. -/
structure StateChannel where
  state : EndpointState
  /-- How often the state has changed. -/
  version : Nat
  /-- For each receiver the version it has seen. -/
  receivers : List Nat
  deriving DecidableEq, Inhabited

namespace StateChannel

/-- The channel of an open endpoint. -/
def fresh : StateChannel := ⟨.opened, 0, []⟩

/-- Moves to a later state; tells whether the state has changed. -/
def advance (channel : StateChannel) (next : EndpointState) : Bool × StateChannel :=
  if channel.state.rank < next.rank then
    (true, { channel with state := next, version := channel.version + 1 })
  else (false, channel)

/-- The state after a move is the later one of the two. -/
theorem rank_advance (channel : StateChannel) (next : EndpointState) :
    (channel.advance next).2.state.rank = max channel.state.rank next.rank := by
  unfold advance
  split <;> simp only <;> omega

/-- A move tells that the state has changed exactly when it has. -/
theorem advance_fst_iff (channel : StateChannel) (next : EndpointState) :
    (channel.advance next).1 = true ↔ (channel.advance next).2.state ≠ channel.state := by
  unfold advance
  split
  next h =>
    simp only [true_iff]
    intro same
    rw [same] at h
    exact Nat.lt_irrefl _ h
  next => simp

/-- Adds a receiver that has seen the current state; yields its number. -/
def receiver (channel : StateChannel) : Nat × StateChannel :=
  (channel.receivers.length,
    { channel with receivers := channel.receivers ++ [channel.version] })

/-- Lets a receiver look: whether the state has changed since it last did, and the state. -/
def look? (channel : StateChannel) (receiver : Nat) :
    Option (Bool × EndpointState × StateChannel) :=
  channel.receivers[receiver]?.map fun seen =>
    (seen ≠ channel.version, channel.state,
      { channel with receivers := channel.receivers.set receiver channel.version })

end StateChannel

end Remoting
