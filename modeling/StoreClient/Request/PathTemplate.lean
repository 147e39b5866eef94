import StoreClient.Logged
import StoreClient.Param.Bindings
import StoreClient.Text.CharSet

/-!
Paths with placeholders. A placeholder is a name in braces; resolving a path puts the text of the
argument of that name into its place, with everything escaped but ASCII letters and digits, so
that an argument never spells more than a part of one segment.
-/

namespace StoreClient

/-- A path and the arguments for its placeholders. -/
structure PathTemplate where
  template : String
  args : Bindings

namespace PathTemplate

def ofString (template : String) : PathTemplate := ⟨template, .empty⟩

def insert (path : PathTemplate) (name : String) (param : Param) : PathTemplate :=
  { path with args := path.args.insert name param }

/-! ### Placeholders -/

/-- The names of the placeholders from left to right. `name` holds the characters since the last
opening brace, the last of them first, if only characters of a name have come since. -/
def scan : Option (List Char) → List Char → List (List Char)
  | _, [] => []
  | name, c :: rest =>
    if c = '\x7b' then scan (some []) rest
    else
      match name with
      | none => scan none rest
      | some cs =>
        if c = '\x7d' then
          if cs.isEmpty then scan none rest else cs.reverse :: scan none rest
        else if CharSet.isWord c then scan (some (c :: cs)) rest
        else scan none rest

/-- The names of the placeholders, each once, in the order in which they first occur. -/
def placeholders (template : String) : List String :=
  ((scan none template.toList).map String.ofList).eraseDups

def placeholder (name : String) : List Char := '\x7b' :: name.toList ++ ['\x7d']

/-! ### Resolving -/

/-- Replaces every occurrence of a pattern, from left to right. The first `skip` characters belong
to an occurrence that has been replaced already. -/
def replaceFrom (pattern value : List Char) : Nat → List Char → List Char
  | _, [] => []
  | skip + 1, _ :: rest => replaceFrom pattern value skip rest
  | 0, c :: rest =>
    if pattern.isPrefixOf (c :: rest) then
      value ++ replaceFrom pattern value (pattern.length - 1) rest
    else c :: replaceFrom pattern value 0 rest

/-- Replaces every occurrence of a pattern that is not empty. -/
def replaceAll (pattern value text : List Char) : List Char := replaceFrom pattern value 0 text

/-- The text of an argument as it stands in a path. -/
def encodeValue (text : String) : List Char := Percent.encode Char.isAlphanum text.toList

/-- Fills in arguments in turn. Returns the path and the names that are left without an argument. -/
def fill (path : List Char) (names : List String) :
    List (String × Param) → Logged (List Char × List String)
  | [] => return (path, names)
  | (name, param) :: rest => do
    if name ∈ names then
      let text ← .ofExcept (param.text.mapError .param)
      fill (replaceAll (placeholder name) (encodeValue text) path) (names.erase name) rest
    else
      .warn (.unusedArgument name)
      fill path names rest

/-- The path with every placeholder filled in. -/
def resolve (path : PathTemplate) : Logged String := do
  let (text, missing) ← fill path.template.toList (placeholders path.template) path.args.entries
  if missing.isEmpty then return String.ofList text
  else .ofExcept (.error (.unresolvedPath (String.ofList text) (missing.mergeSort (· ≤ ·))))

end PathTemplate

end StoreClient
