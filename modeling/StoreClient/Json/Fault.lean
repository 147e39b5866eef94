import StoreClient.Json.Value
import StoreClient.Text.Quoted
import StoreClient.Text.Utf8
import StoreClient.Text.Ascii

/-!
Why a JSON text was refused, where in the text, and inside which members and items. While reading,
a place is the number of bytes that were still to come; it becomes a line and a column once, when
the whole text is at hand.
-/

namespace StoreClient.Json

/-- What stood where something else was expected. -/
inductive Found where
  | null
  | bool (b : Bool)
  | int (i : Int)
  | float (x : Float)
  | text (s : String)
  | sequence
  | map

def Found.describe : Found → String
  | .null => "null"
  | .bool b => "boolean `" ++ (if b then "true" else "false") ++ "`"
  | .int i => "integer `" ++ toString i ++ "`"
  | .float x => "floating point `" ++ String.ofList (renderFloat x) ++ "`"
  | .text s => "string " ++ Quoted.quote s
  | .sequence => "sequence"
  | .map => "map"

def Found.ofNumber : Number → Found
  | .int i => .int i
  | .float x => .float x

inductive Reason where
  | endInList
  | endInObject
  | endInString
  | endInValue
  | colonExpected
  | listEndExpected
  | objectEndExpected
  | identExpected
  | valueExpected
  | badEscape
  | badNumber
  | numberOutOfRange
  | badUnicode
  | controlCharacter
  | keyNotString
  | loneSurrogate
  | unpairedSurrogate
  | trailingComma
  | trailingCharacters
  | wrongType (found : Found) (expected : String)
  | wrongValue (i : Int) (expected : String)
  | duplicateField (name : String)

def Reason.message : Reason → String
  | .endInList => "EOF while parsing a list"
  | .endInObject => "EOF while parsing an object"
  | .endInString => "EOF while parsing a string"
  | .endInValue => "EOF while parsing a value"
  | .colonExpected => "expected `:`"
  | .listEndExpected => "expected `,` or `]`"
  | .objectEndExpected => "expected `,` or `\x7d`"
  | .identExpected => "expected ident"
  | .valueExpected => "expected value"
  | .badEscape => "invalid escape"
  | .badNumber => "invalid number"
  | .numberOutOfRange => "number out of range"
  | .badUnicode => "invalid unicode code point"
  | .controlCharacter =>
    "control character (\\u0000-\\u001F) found while parsing a string"
  | .keyNotString => "key must be a string"
  | .loneSurrogate => "lone leading surrogate in hex escape"
  | .unpairedSurrogate => "unexpected end of hex escape"
  | .trailingComma => "trailing comma"
  | .trailingCharacters => "trailing characters"
  | .wrongType found expected => "invalid type: " ++ found.describe ++ ", expected " ++ expected
  | .wrongValue i expected =>
    "invalid value: integer `" ++ toString i ++ "`, expected " ++ expected
  | .duplicateField name => "duplicate field `" ++ name ++ "`"

/-- A step into a document. A member whose name could not be read is unknown. -/
inductive Step where
  | item (index : Nat)
  | member (name : String)
  | unknown
  deriving DecidableEq, Repr

def Step.render : Step → String
  | .item i => s!"[{i}]"
  | .member name => name
  | .unknown => "?"

/-- Steps after the first: names are set off by a point, indices are not. -/
def renderSteps : List Step → String
  | [] => ""
  | .item i :: rest => (Step.item i).render ++ renderSteps rest
  | step :: rest => "." ++ step.render ++ renderSteps rest

/-- A path into a document; the document itself is a lone point. -/
def renderPath : List Step → String
  | [] => "."
  | step :: rest => step.render ++ renderSteps rest

/-- A refusal while reading: `left` bytes were still unread. -/
structure Fault where
  reason : Reason
  left : Nat
  path : List Step

/-- A refusal of what has just been read, with `rest` to come. -/
def Fault.here (reason : Reason) (rest : Bytes) : Fault := ⟨reason, rest.length, []⟩

/-- A refusal of the next byte of `rest`, which counts as read; at the end there is none. -/
def Fault.next (reason : Reason) (rest : Bytes) : Fault := ⟨reason, rest.length - 1, []⟩

/-- A refusal `count` bytes before `rest`. -/
def Fault.before (reason : Reason) (count : Nat) (rest : Bytes) : Fault :=
  ⟨reason, rest.length + count, []⟩

/-- The same refusal, seen from one step further out. -/
def Fault.under (step : Step) (f : Fault) : Fault := { f with path := step :: f.path }

/-- A refusal of a whole text. Lines count from one; the column is the number of bytes of its line
that had been read. -/
structure Error where
  reason : Reason
  path : List Step
  line : Nat
  column : Nat

/-- The place of a fault in the text it was found in. -/
def Fault.locate (text : Bytes) (f : Fault) : Error :=
  let done := text.take (text.length - f.left)
  ⟨f.reason, f.path, done.count Ascii.lineFeed + 1,
    (done.reverse.takeWhile (· ≠ Ascii.lineFeed)).length⟩

def Error.message (e : Error) : String :=
  e.reason.message ++ s!" at line {e.line} column {e.column}"

end StoreClient.Json
