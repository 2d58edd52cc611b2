import Remoting.Error

/-!
# Failures of a strategy factory

A factory fails with a base error of its own kind to which callers on the way add contexts. Where
one of these layers is an error of the client the outermost such layer is the failure; otherwise the
whole chain is kept as the cause of a failed channel creation.
-/

namespace Remoting

/-- One layer of a factory's failure. -/
inductive CreationFailure.Layer where
  /-- An error of the client itself. -/
  | known (error : Error)
  /-- A plain text. -/
  | text (message : String)
  /-- An I/O error; only a base can be one. -/
  | io (error : Io.Error)
  deriving DecidableEq, Inhabited

namespace CreationFailure.Layer

/-- The wording of one layer. -/
def message : Layer → String
  | .known error => error.message
  | .text message => message
  | .io error => error.message

/-- The causes of a layer that is the innermost one. -/
def causes : Layer → List String
  | .known error => error.sources
  | .text _ => []
  | .io error => error.causes

/-- The error of the client that a layer consists of. -/
def known? : Layer → Option Error
  | .known error => some error
  | _ => none

end CreationFailure.Layer

/-- A factory's failure: a base error and the contexts added to it, innermost first. -/
structure CreationFailure where
  base : CreationFailure.Layer
  contexts : List CreationFailure.Layer
  deriving DecidableEq, Inhabited

namespace CreationFailure

/-- All layers, outermost first. -/
def layers (failure : CreationFailure) : List Layer :=
  failure.contexts.reverse ++ [failure.base]

/-- The outermost layer. -/
def outermost (failure : CreationFailure) : Layer :=
  failure.contexts.reverse.headD failure.base

/-- The layers below the outermost one. -/
def inner (failure : CreationFailure) : List Layer :=
  failure.layers.tail

/-- The error that a caller of the client sees for a factory's failure. -/
def toError (failure : CreationFailure) : Error :=
  match failure.layers.findSome? Layer.known? with
  | some error => error
  | none =>
    .channelCreation failure.outermost.message
      (failure.inner.map Layer.message ++ failure.base.causes)

/-- The outermost layer comes first. -/
theorem layers_eq_cons (failure : CreationFailure) :
    failure.layers = failure.outermost :: failure.inner := by
  obtain ⟨base, contexts⟩ := failure
  cases h : contexts.reverse <;> simp [layers, outermost, inner, h]

end CreationFailure

end Remoting
