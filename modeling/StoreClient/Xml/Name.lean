import StoreClient.Text.CharSet

/-!
The character classes of XML, which depend on its version, and its names. A name may be qualified by
a namespace's shorthand before a colon.
-/

namespace StoreClient.Xml

inductive Version where
  | v10
  | v11
  deriving DecidableEq, Repr

/-- The characters that trimming removes and that separate the parts of a tag. -/
def isSpace (c : Char) : Bool := c == ' ' || c == '\n' || c == '\t' || c == '\r'

def isControlChar (c : Char) : Bool :=
  !isSpace c && (c.toNat < 0x20 || (0x7F ≤ c.toNat && c.toNat ≤ 0x9F && c.toNat ≠ 0x85))

/-- The characters that a document may hold at all. -/
def Version.isChar (version : Version) (c : Char) : Bool :=
  let lowest :=
    match version with
    | .v10 => 0x20
    | .v11 => 1
  isSpace c || (lowest ≤ c.toNat && c.toNat ≤ 0xFFFD) || 0x10000 ≤ c.toNat

/-- The characters that a text may hold as themselves. The later version has more characters, but
all of its control characters must be referred to by their numbers. -/
def Version.isPlain (version : Version) (c : Char) : Bool :=
  match version with
  | .v10 => Version.v10.isChar c
  | .v11 => Version.v11.isChar c && !isControlChar c

/-- Runs of characters beyond ASCII that may begin a name. -/
def nameStartRanges : List (Nat × Nat) := [
  (0xC0, 0xD6), (0xD8, 0xF6), (0xF8, 0x2FF), (0x370, 0x37D), (0x37F, 0x1FFF), (0x200C, 0x200D),
  (0x2070, 0x218F), (0x2C00, 0x2FEF), (0x3001, 0xD7FF), (0xF900, 0xFDCF), (0xFDF0, 0xFFFD),
  (0x10000, 0xEFFFF)]

def isNameStart (c : Char) : Bool :=
  c.isAlpha || c == '_' || c == ':' || CharSet.inRuns nameStartRanges c.toNat

def isNameChar (c : Char) : Bool :=
  isNameStart c || c.isDigit || c == '-' || c == '.' || c.toNat == 0xB7
    || CharSet.inRuns [(0x300, 0x36F), (0x203F, 0x2040)] c.toNat

def trim (cs : List Char) : List Char :=
  ((cs.dropWhile isSpace).reverse.dropWhile isSpace).reverse

structure Name where
  shorthand : Option (List Char)
  localPart : List Char
  deriving DecidableEq, Repr

namespace Name

/-- The name that a text spells: it has at most one colon, and neither part is empty. -/
def parse? (text : List Char) : Option Name :=
  match text.dropWhile (· ≠ ':') with
  | [] => if text.isEmpty then none else some ⟨none, text⟩
  | _ :: localPart =>
    let shorthand := text.takeWhile (· ≠ ':')
    if shorthand.isEmpty || localPart.isEmpty || localPart.elem ':' then none
    else some ⟨some shorthand, localPart⟩

def render (name : Name) : List Char :=
  match name.shorthand with
  | some shorthand => shorthand ++ ':' :: name.localPart
  | none => name.localPart

end Name

end StoreClient.Xml
