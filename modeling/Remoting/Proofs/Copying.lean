import Mathlib.Logic.Function.Iterate
import Remoting.Error

/-!
# Copies of errors

An error is copied where several callers have to see one failure, and a caller may copy its copy
again. `Alike` says that callers decide the same on two errors. A copy is like its error, unless
that is a JSON error, and of what the error was caused by it keeps the nearest text. A copy of a
copy is the copy itself, so nothing more is lost however often a failure is handed on. The main
statement is `copies_alike`.
-/

namespace Remoting

namespace Error

variable {e e' : Error}

/-- Two errors are the same in all that callers decide on. -/
structure Alike (e e' : Error) : Prop where
  kind : e.kind = e'.kind
  message : e.message = e'.message
  ioKind : e.ioKind? = e'.ioKind?
  closed : e.isClosed = e'.isClosed
  interrupted : e.isInterrupted = e'.isInterrupted

theorem isClosed_eq (e : Error) : e.isClosed = (e.kind == .closed) := by
  cases e <;> rfl

/-- Whether an error reports a closed object or an interrupted wait is told by its category and the
kind of its I/O failure. -/
theorem Alike.of_kind (hkind : e.kind = e'.kind) (hmessage : e.message = e'.message)
    (hio : e.ioKind? = e'.ioKind?) : e.Alike e' where
  kind := hkind
  message := hmessage
  ioKind := hio
  closed := by rw [isClosed_eq, isClosed_eq, hkind]
  interrupted := by rw [isInterrupted, isInterrupted, hio]

theorem Alike.refl (e : Error) : e.Alike e :=
  .of_kind rfl rfl rfl

/-- A copy is like its error, unless that is a JSON error. -/
theorem alike_clone (h : e.kind ≠ .json) : e.clone.Alike e :=
  .of_kind (kind_clone e h) (message_clone e h) (ioKind?_clone e)

/-- A copy keeps the nearest text of what its error was caused by, and no other. -/
theorem sources_clone (h : e.kind ≠ .json) : e.clone.sources = e.sources.take 1 := by
  cases e with
  | json => exact absurd rfl h
  | _ => rfl

/-- However often a copy is copied again, it stays the first copy. -/
theorem iterate_clone {n : Nat} (e : Error) (h : 1 ≤ n) : clone^[n] e = e.clone := by
  obtain ⟨later, rfl⟩ := Nat.exists_eq_add_of_le' h
  rw [Function.iterate_succ_apply]
  -- the first copy is a fixed point of copying
  exact Function.iterate_fixed e.clone_clone later

/-- The failure of a channel creation has a nearest cause. -/
theorem exists_nearest (h : e.kind = .channelCreation) :
    ∃ nearest farther, e.sources = nearest :: farther := by
  cases e with
  | channelCreation text causes => exact ⟨text, causes, rfl⟩
  | _ => cases h

/-- Every later copy of an error is the same as the first one in all that callers decide on and in
its causes. The first copy is like the error itself and keeps its nearest cause; only for a JSON
error it is a configuration error with the wording of the failure. The copy of a failed channel
creation has the nearest cause of the failure as its one cause. -/
theorem copies_alike (e : Error) :
    (∀ n, 1 ≤ n → (clone^[n] e).Alike e.clone ∧ (clone^[n] e).sources = e.clone.sources) ∧
    (e.kind ≠ .json → e.clone.Alike e ∧ e.clone.sources = e.sources.take 1) ∧
    (∀ failure, e = .json failure →
      e.clone = .configuration ("JSON error: " ++ failure.message)) ∧
    (e.kind = .channelCreation →
      ∃ nearest, e.sources.head? = some nearest ∧ e.clone.sources = [nearest]) := by
  refine ⟨fun n hn => ?_, fun h => ⟨alike_clone h, sources_clone h⟩, ?_, fun h => ?_⟩
  · rw [iterate_clone e hn]
    exact ⟨.refl _, rfl⟩
  · rintro failure rfl
    rfl
  · obtain ⟨nearest, farther, hsources⟩ := exists_nearest h
    have hkind : e.kind ≠ .json := by
      rw [h]
      decide
    refine ⟨nearest, ?_, ?_⟩
    · rw [hsources, List.head?_cons]
    · rw [sources_clone hkind, hsources]
      rfl

/-- The third copy of an interrupted system call reports an interrupted wait in the words of the
system, a copy of a refused document is a configuration error, and a copy of a refused connection
forgets why it was refused. -/
theorem copies_alike_of_interrupted_call :
    let call : Error := .io (.system 4)
    let document : Error := .json (.refused ⟨.eofInValue, ⟨1, 0⟩⟩)
    let connection : Error := .channelCreation "refused" ["no route", "timed out"]
    (call.kind ≠ .json ∧ (clone^[3] call).isInterrupted = true ∧
      (clone^[3] call).message = "I/O error: Interrupted system call (os error 4)") ∧
    document.clone =
      .configuration "JSON error: EOF while parsing a value at line 1 column 0" ∧
    connection.kind = .channelCreation ∧ connection.clone.sources = ["refused"] := by
  intro call document connection
  refine ⟨?_, ?_, rfl, ?_⟩
  · obtain ⟨hcopies, hfirst, -⟩ := copies_alike call
    have hkind : call.kind ≠ .json := nofun
    obtain ⟨hthird, -⟩ := hcopies 3 (by decide)
    obtain ⟨halike, -⟩ := hfirst hkind
    exact ⟨hkind, (hthird.interrupted.trans halike.interrupted).trans rfl,
      (hthird.message.trans halike.message).trans rfl⟩
  · obtain ⟨-, -, hjson, -⟩ := copies_alike document
    exact hjson _ rfl
  · obtain ⟨-, -, -, hcreation⟩ := copies_alike connection
    obtain ⟨nearest, hhead, hsources⟩ := hcreation rfl
    cases hhead
    exact hsources

end Error

end Remoting
