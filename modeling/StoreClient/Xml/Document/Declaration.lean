import StoreClient.Xml.Encoding
import StoreClient.Xml.Reference

/-!
The declaration that may begin a document: its version, then maybe its encoding, then maybe whether
it stands alone.
-/

namespace StoreClient.Xml

/-- What a declaration tells, in the order of its parts. -/
inductive Declaration.Part where
  | version
  | encoding
  | standalone
  deriving DecidableEq, Repr

inductive Declaration.Place where
  /-- Before one of some parts; there has been white space or not. -/
  | between (later : List Declaration.Part) (spaced : Bool)
  /-- In the name of a part, after its first letter. -/
  | key (part : Declaration.Part) (read : List Char)
  | equals (part : Declaration.Part)
  | value (part : Declaration.Part) (value : Value)

structure Declaration where
  place : Declaration.Place := .between [.version] true
  version : Version := .v10
  charset : Option Charset := none

namespace Declaration

namespace Part

/-- The first letter of a part's name and the letters after it. -/
def spelling : Part → Char × List Char
  | .version => ('v', ['e', 'r', 's', 'i', 'o', 'n'])
  | .encoding => ('e', ['n', 'c', 'o', 'd', 'i', 'n', 'g'])
  | .standalone => ('s', ['t', 'a', 'n', 'd', 'a', 'l', 'o', 'n', 'e'])

/-- The parts that may come after a part. -/
def later : Part → List Part
  | .version => [.encoding, .standalone]
  | .encoding => [.standalone]
  | .standalone => []

end Part

/-- The version that a text names: all versions but one are read like the first. -/
def version? : List Char → Option Version
  | ['1', '.', '1'] => some .v11
  | '1' :: '.' :: digits => if !digits.isEmpty && digits.all Char.isDigit then some .v10 else none
  | _ => none

/-- What a declaration tells after one more part. -/
def record? (declaration : Declaration) (part : Part) (value : List Char) :
    Option Declaration := do
  let place := Place.between part.later false
  match part with
  | .version => return { declaration with place, version := ← version? value }
  | .encoding => return { declaration with place, charset := some (← Charset.named? value) }
  | .standalone =>
    guard (value = ['y', 'e', 's'] || value = ['n', 'o'])
    return { declaration with place }

def move (declaration : Declaration) (place : Place) : Declaration := { declaration with place }

def step (declaration : Declaration) (t : Token) : Option (Progress Declaration Declaration) :=
  match declaration.place with
  | .between later spaced =>
    match t with
    | .instructionEnd => if later.elem .version then none else some (.done declaration)
    | .char c =>
      if isSpace c then some (.more (declaration.move (.between later true)))
      else if !spaced then none
      else
        (later.find? (·.spelling.1 = c)).map fun part => .more (declaration.move (.key part []))
    | _ => none
  | .key part read => do
    match ← Name.step (· = .equals) read t with
    | .more read => some (.more (declaration.move (.key part read)))
    | .done name =>
      guard (name.localPart = part.spelling.2)
      some (.more (declaration.move (if t = .equals then .value part {} else .equals part)))
  | .equals part =>
    match t with
    | .equals => some (.more (declaration.move (.value part {})))
    | .char c => if isSpace c then some (.more declaration) else none
    | _ => none
  | .value part value => do
    match ← value.step declaration.version [] t with
    | .more value => some (.more (declaration.move (.value part value)))
    | .done value => (declaration.record? part value).map .more

end Declaration

end StoreClient.Xml
