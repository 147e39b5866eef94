import StoreClient.Text.Utf8

/-!
Secrets, and what may be shown of them. A short secret is not shown at all; of a long one the
first and the last four bytes are shown, unless such a cut would split a character.
-/

namespace StoreClient

/-- A text that must not be shown. -/
structure Secret where
  value : String
  deriving DecidableEq

namespace Secret

/-- What is shown instead of a secret. -/
def redacted : String := "[REDACTED]"

/-- The first four bytes, if a character ends there. -/
def head (cs : List Char) : List Char :=
  match Utf8.splitBytes? 4 cs with
  | some (front, _) => front
  | none => []

/-- The last four bytes, if a character begins there. -/
def tail (cs : List Char) : List Char :=
  match Utf8.splitBytes? (Utf8.size cs - 4) cs with
  | some (_, back) => back
  | none => []

/-- The secret with all but its ends left out. -/
def mask (secret : Secret) : String :=
  let cs := secret.value.toList
  if Utf8.size cs ≤ 8 then "***"
  else String.ofList (head cs ++ ['.', '.', '.'] ++ tail cs)

/-- The secret as a record without its value. -/
def describe (_ : Secret) : String := "SecureString \x7b value: \"" ++ redacted ++ "\" \x7d"

end Secret

end StoreClient
