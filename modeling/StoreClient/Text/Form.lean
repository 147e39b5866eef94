import StoreClient.Text.Percent

/-!
The form format of queries and form bodies: `name=value` pairs joined by `&`, a space written `+`
and every character but ASCII letters, digits and `*-._` percent-encoded.
-/

namespace StoreClient.Form

/-- Characters that stand for themselves. -/
def isSafe (c : Char) : Bool :=
  c.isAlphanum || c == '*' || c == '-' || c == '.' || c == '_'

def encodeChar (c : Char) : List Char :=
  if c = ' ' then ['+'] else Percent.encodeChar isSafe c

def encodeText (cs : List Char) : List Char := cs.flatMap encodeChar

def encodePair (p : String × String) : List Char :=
  encodeText p.1.toList ++ '=' :: encodeText p.2.toList

/-- The pairs in order; no pairs are the empty text. -/
def encode : List (String × String) → List Char
  | [] => []
  | [p] => encodePair p
  | p :: q :: rest => encodePair p ++ '&' :: encode (q :: rest)

end StoreClient.Form
