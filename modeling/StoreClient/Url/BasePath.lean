/-!
The path that comes before the path of every operation.
-/

namespace StoreClient

namespace BasePath

inductive Error where
  | empty
  | start
  | character
  deriving DecidableEq, Repr

def Error.name : Error → String
  | .empty => "Empty"
  | .start => "PathDoesNotStartWithSlash"
  | .character => "InvalidUriChar"

def Error.message (e : Error) : String := "InvalidUri(" ++ e.name ++ ")"

def isQueryChar (c : Char) : Bool :=
  let n := c.toNat
  n = 0x21 || (0x24 ≤ n && n ≤ 0x3B) || n = 0x3D || (0x3F ≤ n && n ≤ 0x7E) || 0x80 ≤ n

def isPathChar (c : Char) : Bool :=
  let n := c.toNat
  n = 0x21 || (0x24 ≤ n && n ≤ 0x3B) || n = 0x3D || (0x40 ≤ n && n ≤ 0x5F) || c.isLower ||
    ['"', '|', '~', '\x7b', '\x7d'].elem c || 0x80 ≤ n

/-- The path that a text begins with. Query and fragment are dropped, but the query is checked. -/
def parse (text : List Char) : Except Error (List Char) :=
  match text with
  | [] => .error .empty
  | ['*'] => .ok ['*']
  | c :: _ =>
    if c ≠ '/' ∧ c ≠ '?' ∧ c ≠ '#' then .error .start
    else
      let path := text.takeWhile fun c => c ≠ '?' && c ≠ '#'
      let rest := text.dropWhile fun c => c ≠ '?' && c ≠ '#'
      let query := (if rest.head? = some '?' then rest.drop 1 else []).takeWhile (· ≠ '#')
      if !path.all isPathChar || !query.all isQueryChar then .error .character
      else .ok (if path.isEmpty then ['/'] else path)

end BasePath

end StoreClient
