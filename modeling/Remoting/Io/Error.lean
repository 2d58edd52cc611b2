import Remoting.Io.SystemError

/-!
# Input and output errors

An I/O error is a bare kind, a kind with an explanation, or a numbered system error. All three have
a kind and a text; `Error.flatten` keeps exactly these two.
-/

namespace Remoting.Io

/-- A failed I/O operation. -/
inductive Error where
  /-- Nothing but the kind is known. -/
  | simple (kind : Kind)
  /-- The failure comes with an explanation, which may itself have causes. -/
  | custom (kind : Kind) (text : String) (causes : List String)
  /-- The failure is a numbered system error. -/
  | system (number : Int)
  deriving DecidableEq, Inhabited

namespace Error

/-- The kind of an I/O error. -/
def kind : Error → Kind
  | .simple kind => kind
  | .custom kind _ _ => kind
  | .system number => (SystemError.ofNumber number).kind

/-- The text of an I/O error. -/
def message : Error → String
  | .simple kind => kind.describe
  | .custom _ text _ => text
  | .system number =>
    (SystemError.ofNumber number).text ++ " (os error " ++ toString number ++ ")"

/-- The texts of what an I/O error was caused by, nearest first. -/
def causes : Error → List String
  | .custom _ _ causes => causes
  | _ => []

/-- The error of the same kind and text that keeps no other detail. -/
def flatten (e : Error) : Error :=
  .custom e.kind e.message []

@[simp] theorem kind_flatten (e : Error) : e.flatten.kind = e.kind := rfl

@[simp] theorem message_flatten (e : Error) : e.flatten.message = e.message := rfl

@[simp] theorem causes_flatten (e : Error) : e.flatten.causes = [] := rfl

end Error

end Remoting.Io
