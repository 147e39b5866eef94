/-!
What comes between the scheme and the path of an address: user, host and port, checked character by
character as they are given and kept as they are.
-/

namespace StoreClient

namespace Authority

/-- Why a text is no authority: a character that no address holds, or characters that do not fit
together. -/
inductive Error where
  | character
  | malformed
  deriving DecidableEq, Repr

def Error.message : Error → String
  | .character => "invalid uri character"
  | .malformed => "invalid authority"

/-- Characters that an authority may hold, apart from those with a meaning of their own. -/
def isPlain (c : Char) : Bool :=
  c.isAlphanum ||
    ['!', '$', '&', '\'', '(', ')', '*', '+', ',', '-', '.', ';', '=', '_', '~'].elem c

/-- What has been seen: how many colons and whether a percent sign since the last `@` or bracket,
which brackets, and whether an `@` came last. -/
structure State where
  colons : Nat
  percent : Bool
  bracketOpened : Bool
  bracketClosed : Bool
  userEnded : Bool

def State.initial : State := ⟨0, false, false, false, false⟩

def State.step (st : State) (c : Char) : Except Error State :=
  let st := { st with userEnded := c = '@' }
  if c = ':' then
    if 8 ≤ st.colons then .error .malformed else .ok { st with colons := st.colons + 1 }
  else if c = '[' then
    if st.percent || st.bracketOpened then .error .malformed
    else .ok { st with bracketOpened := true }
  else if c = ']' then
    if !st.bracketOpened || st.bracketClosed then .error .malformed
    else .ok { st with bracketClosed := true, colons := 0, percent := false }
  else if c = '@' then .ok { st with colons := 0, percent := false }
  else if c = '%' then .ok { st with percent := true }
  else if isPlain c then .ok st
  else .error .character

/-- Whether an authority may end here: brackets are closed, there is at most one port, and neither a
percent sign nor an `@` is left over. -/
def State.isFinal (st : State) : Bool :=
  st.bracketOpened == st.bracketClosed && st.colons ≤ 1 && !st.userEnded && !st.percent

def endsHere (c : Char) : Bool := c == '/' || c == '?' || c == '#'

/-- Checks that all of a text is an authority. -/
def check (text : List Char) : Except Error Unit := do
  let st ← (text.takeWhile fun c => !endsHere c).foldlM State.step State.initial
  if !st.isFinal then throw .malformed
  if text.any endsHere then throw .character

end Authority

end StoreClient
