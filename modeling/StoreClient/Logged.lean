import StoreClient.Error

/-!
Computations that may fail and that warn while they run. Warnings raised before a failure are kept.
-/

namespace StoreClient

/-- What a caller is told without the call being refused. -/
inductive Warning where
  /-- An argument of a path whose name the path does not mention. -/
  | unusedArgument (name : String)
  /-- A scheme for which the client has no credentials. -/
  | unknownScheme (name : String)
  /-- A payload that form fields displace. -/
  | ignoredPayload
  deriving DecidableEq, Repr

def Warning.message : Warning → String
  | .unusedArgument _ => "path argument not found in template"
  | .unknownScheme _ => "no authentication registered, skipping"
  | .ignoredPayload => "form parameters present, request body ignored"

/-- An outcome together with the warnings raised on the way to it. -/
structure Logged (α : Type) where
  warnings : List Warning
  result : Except Error α

namespace Logged

protected def pure {α : Type} (a : α) : Logged α := ⟨[], .ok a⟩

def warn (w : Warning) : Logged Unit := ⟨[w], .ok ()⟩

/-- An outcome without a warning. -/
def ofExcept {α : Type} (result : Except Error α) : Logged α := ⟨[], result⟩

/-- One computation after another, unless the first fails. -/
protected def bind {α β : Type} (x : Logged α) (f : α → Logged β) : Logged β :=
  match x.result with
  | .ok a => ⟨x.warnings ++ (f a).warnings, (f a).result⟩
  | .error e => ⟨x.warnings, .error e⟩

instance : Monad Logged where
  pure := Logged.pure
  bind := Logged.bind

end Logged

end StoreClient
