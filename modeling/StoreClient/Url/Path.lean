import StoreClient.Text.Percent

/-!
Paths of addresses. A path is the list of its segments; a segment of one dot is dropped and one of
two dots takes the segment before it away. With a special scheme either slash ends a segment.
-/

namespace StoreClient.Url

/-- ASCII characters that no part of an address holds as they are. -/
def isControl (c : Char) : Bool := c.toNat < 0x20 || 0x7F ≤ c.toNat

namespace Path

/-- Characters that stand for themselves in a path. -/
def isSafe (c : Char) : Bool :=
  !isControl c && !([' ', '"', '#', '<', '>', '?', '\x60', '\x7b', '\x7d'].elem c)

/-- Whether a character ends a segment. -/
def isSlash (special : Bool) (c : Char) : Bool := c == '/' || (special && c == '\\')

/-- The segments between slashes, not yet encoded. -/
def segments (special : Bool) : List Char → List (List Char)
  | [] => [[]]
  | c :: rest =>
    if isSlash special c then [] :: segments special rest
    else
      match segments special rest with
      | [] => [[c]]
      | s :: ss => (c :: s) :: ss

/-- Whether a segment is one dot, which may be escaped. -/
def isSingleDot (segment : List Char) : Bool :=
  match segment.map Char.toLower with
  | ['.'] | ['%', '2', 'e'] => true
  | _ => false

/-- Whether a segment is two dots, each of which may be escaped. -/
def isDoubleDot (segment : List Char) : Bool :=
  match segment.map Char.toLower with
  | ['.', '.'] | ['.', '%', '2', 'e'] => true
  | ['%', '2', 'e', '.'] | ['%', '2', 'e', '%', '2', 'e'] => true
  | _ => false

/-- Whether a segment names a drive, which two dots do not take away. -/
def isDrive : List Char → Bool
  | [letter, mark] => letter.isAlpha && (mark == ':' || mark == '|')
  | _ => false

/-- What two dots leave of the segments before them, of which the last comes first. -/
def shorten : List (List Char) → List (List Char)
  | [] => []
  | s :: ss => if isDrive s then s :: ss else ss

/-- Resolves the dots of a path: `done` holds the segments so far, of which the last comes first. -/
def resolve (done : List (List Char)) : List (List Char) → List (List Char)
  | [] => done.reverse
  | [s] =>
    if isDoubleDot s then ([] :: shorten done).reverse
    else if isSingleDot s then ([] :: done).reverse
    else (s :: done).reverse
  | s :: rest =>
    if isDoubleDot s then resolve (shorten done) rest
    else if isSingleDot s then resolve done rest
    else resolve (s :: done) rest

/-- The segments of a path that is given without its first slash. -/
def parse (special : Bool) (text : List Char) : List (List Char) :=
  resolve [] ((segments special text).map (Percent.encode isSafe))

/-- A slash before every segment. -/
def render (path : List (List Char)) : List Char := path.flatMap ('/' :: ·)

end Path

end StoreClient.Url
