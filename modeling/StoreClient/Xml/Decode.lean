import StoreClient.Xml.Document

/-!
Readers for the types that an element is expected to have. An element's text is its only content;
a record is an element whose children of known names are its fields, each at most once.
-/

namespace StoreClient.Xml

/-- Why a document was refused: it is not well formed up to the end of its root, or its content is
not of the expected type. -/
inductive Error where
  | malformed
  | unexpectedContent
  deriving DecidableEq, Repr

/-- What is said of a refused document. A reader of XML has words of its own for each thing that it
meets; these stand for all of them and are not its words. -/
def Error.message : Error → String
  | .malformed => "the document is not well formed"
  | .unexpectedContent => "the document does not have the expected content"

/-- Reads the content of one element. -/
abbrev Reader (α : Type) := List Node → Option α

namespace Reader

/-- A text; no content is the empty one. -/
def text : Reader String
  | [] => some ""
  | [.text t] => some t
  | _ => none

/-- The decimal digits of a number, of which there is at least one. -/
def natural? (ds : List Char) : Option Nat :=
  if ds.isEmpty || !ds.all Char.isDigit then none
  else some (ds.foldl (fun n d => n * 10 + (d.toNat - 0x30)) 0)

/-- An integer with an optional sign. -/
def integer? : List Char → Option Int
  | '-' :: ds => (natural? ds).map fun n => -(n : Int)
  | '+' :: ds => (natural? ds).map fun n => (n : Int)
  | ds => (natural? ds).map fun n => (n : Int)

def int (low high : Int) : Reader Int := fun nodes => do
  let t ← text nodes
  let i ← integer? t.toList
  if low ≤ i ∧ i ≤ high then some i else none

def bool : Reader Bool := fun nodes =>
  match text nodes with
  | some "true" => some true
  | some "false" => some false
  | _ => none

end Reader

/-- A child that a record takes: its name, and a reader of the change that its content makes. -/
structure Child (α : Type) where
  name : String
  read : Reader (α → α)

/-- Reads the children in order, changing `a` by each that is asked for. Other elements and texts
between elements make no change. -/
def readChildren {α : Type} (children : List (Child α)) : List String → α → Reader α
  | _, a, [] => some a
  | seen, a, .text _ :: rest => readChildren children seen a rest
  | seen, a, .element name inner :: rest =>
    match children.find? (·.name = name) with
    | none => readChildren children seen a rest
    | some c =>
      if name ∈ seen then none
      else
        match c.read inner with
        | none => none
        | some change => readChildren children (name :: seen) (change a) rest

/-- A record, which begins as `blank`. -/
def Reader.record {α : Type} (blank : α) (children : List (Child α)) : Reader α :=
  readChildren children [] blank

/-- Reads the root element of a document, whatever its name. -/
def decode {α : Type} (read : Reader α) (text : Bytes) : Except Error α :=
  match parse? text with
  | some (.element _ inner) =>
    match read inner with
    | some a => .ok a
    | none => .error .unexpectedContent
  | _ => .error .malformed

end StoreClient.Xml
