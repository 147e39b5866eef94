import StoreClient.Json.Scan

/-!
Readers for the types that a document is expected to have. A value of another type is refused where
it stands, with a description of what was found; a fault inside an item or a member is reported
under that item's index or that member's name.
-/

namespace StoreClient.Json

/-- The refusal of the value that begins the bytes, which is not what was expected. -/
def mismatch (expected : String) (s : Bytes) : Fault :=
  let found (what : Found) (rest : Bytes) : Fault := .here (.wrongType what expected) rest
  let named (what : Found) (read : Except Fault Bytes) : Fault :=
    match read with
    | .ok rest => found what rest
    | .error f => f
  match s with
  | [] => .next .valueExpected []
  | b :: rest =>
    match b with
    | Ascii.lowerN => named .null (name nullTail rest)
    | Ascii.lowerT => named (.bool true) (name trueTail rest)
    | Ascii.lowerF => named (.bool false) (name falseTail rest)
    | Ascii.quote =>
      match stringTail rest with
      | .ok (text, rest) => found (.text text) rest
      | .error f => f
    | Ascii.openBracket => found .sequence s
    | Ascii.openBrace => found .map s
    | _ =>
      if startsNumber b then
        match number s with
        | .ok (n, rest) => found (.ofNumber n) rest
        | .error f => f
      else .next .valueExpected s

/-- Looks at the first byte of a value, which must be there. -/
def withLead {α : Type} (read : UInt8 → Bytes → Except Fault α) (s : Bytes) : Except Fault α :=
  match skipSpace s with
  | [] => .error (.next .endInValue [])
  | b :: rest => read b rest

namespace Reader

/-- An integer between two bounds; `type` names the bounds in a refusal. -/
def int (low high : Int) (type : String) : Reader Int :=
  withLead fun b rest =>
    if startsNumber b then
      match number (b :: rest) with
      | .error f => .error f
      | .ok (.int i, rest) =>
        if low ≤ i ∧ i ≤ high then .ok (i, rest) else .error (.here (.wrongValue i type) rest)
      | .ok (.float x, rest) => .error (.here (.wrongType (.float x) type) rest)
    else .error (mismatch type (b :: rest))

def text : Reader String :=
  withLead fun b rest =>
    if b = Ascii.quote then stringTail rest else .error (mismatch "a string" (b :: rest))

def bool : Reader Bool :=
  withLead fun b rest =>
    match b with
    | Ascii.lowerT => (name trueTail rest).map fun rest => (true, rest)
    | Ascii.lowerF => (name falseTail rest).map fun rest => (false, rest)
    | _ => .error (mismatch "a boolean" (b :: rest))

def unit : Reader Unit :=
  withLead fun b rest =>
    if b = Ascii.lowerN then (name nullTail rest).map fun rest => ((), rest)
    else .error (mismatch "unit" (b :: rest))

/-- `null`, or what `read` reads. -/
def optional {α : Type} (read : Reader α) : Reader (Option α) := fun s =>
  match skipSpace s with
  | Ascii.lowerN :: rest => (name nullTail rest).map fun rest => (none, rest)
  | s => (read s).map fun (a, rest) => (some a, rest)

def map {α β : Type} (f : α → β) (read : Reader α) : Reader β := fun s =>
  (read s).map fun (a, rest) => (f a, rest)

/-- What is read one step further in. -/
def under {α : Type} (step : Step) (read : Reader α) : Reader α := fun s =>
  (read s).mapError (Fault.under step)

end Reader

/-! ### Arrays -/

/-- The bytes where the next item begins; `none` if the closing bracket comes next. -/
def nextItem (first : Bool) (s : Bytes) : Except Fault (Option Bytes) :=
  match skipSpace s with
  | [] => .error (.next .endInList [])
  | b :: rest =>
    if b = Ascii.closeBracket then .ok none
    else if first then .ok (some (b :: rest))
    else if b = Ascii.comma then
      match skipSpace rest with
      | [] => .error (.next .endInValue [])
      | c :: after =>
        if c = Ascii.closeBracket then .error (.next .trailingComma (c :: after))
        else .ok (some (c :: after))
    else .error (.next .listEndExpected (b :: rest))

def closeArray (s : Bytes) : Except Fault Bytes :=
  match skipSpace s with
  | [] => .error (.next .endInList [])
  | b :: rest =>
    if b = Ascii.closeBracket then .ok rest
    else if b = Ascii.comma then
      match skipSpace rest with
      | Ascii.closeBracket :: after =>
        .error (.next .trailingComma (Ascii.closeBracket :: after))
      | s => .error (.next .trailingCharacters s)
    else .error (.next .trailingCharacters (b :: rest))

/-- Reads the items from index `i` on, up to the closing bracket. Every item takes a byte. -/
def readItems {α : Type} (read : Reader α) : Nat → Nat → Reader (List α)
  | 0, _, s => .error (.here .endInList s)
  | fuel + 1, i, s =>
    match nextItem (i = 0) s with
    | .error f => .error f
    | .ok none => .ok ([], s)
    | .ok (some s) =>
      match Reader.under (.item i) read s with
      | .error f => .error f
      | .ok (a, rest) => (readItems read fuel (i + 1) rest).map fun (as, rest) => (a :: as, rest)

/-- An array whose items `read` reads. -/
def Reader.list {α : Type} (read : Reader α) : Reader (List α) :=
  withLead fun b rest =>
    if b = Ascii.openBracket then
      match readItems read (rest.length + 1) 0 rest with
      | .error f => .error f
      | .ok (as, rest) => (closeArray rest).map fun rest => (as, rest)
    else .error (mismatch "a sequence" (b :: rest))

/-! ### Records -/

/-- A member that a record takes: its name, and a reader of the change that its value makes. -/
structure Member (α : Type) where
  name : String
  read : Reader (α → α)

/-- The bytes after the opening quote of the next member's name; `none` if the closing brace comes
next. -/
def nextMember (first : Bool) (s : Bytes) : Except Fault (Option Bytes) :=
  match skipSpace s with
  | [] => .error (.next .endInObject [])
  | b :: rest =>
    if b = Ascii.closeBrace then .ok none
    else if first then
      if b = Ascii.quote then .ok (some rest) else .error (.next .keyNotString (b :: rest))
    else if b = Ascii.comma then
      match skipSpace rest with
      | [] => .error (.next .endInValue [])
      | c :: after =>
        if c = Ascii.quote then .ok (some after)
        else if c = Ascii.closeBrace then .error (.next .trailingComma (c :: after))
        else .error (.next .keyNotString (c :: after))
    else .error (.next .objectEndExpected (b :: rest))

def readColon (s : Bytes) : Except Fault Bytes :=
  match skipSpace s with
  | [] => .error (.next .endInObject [])
  | b :: rest =>
    if b = Ascii.colon then .ok rest else .error (.next .colonExpected (b :: rest))

def closeObject (s : Bytes) : Except Fault Bytes :=
  match skipSpace s with
  | [] => .error (.next .endInObject [])
  | b :: rest =>
    if b = Ascii.closeBrace then .ok rest
    else if b = Ascii.comma then .error (.next .trailingComma (b :: rest))
    else .error (.next .trailingCharacters (b :: rest))

/-- Where a record that was given up after a name counts as read: the spaces after the name, and a
brace that would close it, are taken in. -/
def afterGivenUp (s : Bytes) : Bytes :=
  match skipSpace s with
  | Ascii.closeBrace :: rest => rest
  | s => s

/-- The change that the value of a member of this name makes; a member that is not asked for makes
none, whatever its value. -/
def readMemberValue {α : Type} (members : List (Member α)) (key : String) : Reader (α → α) :=
  Reader.under (.member key) fun s =>
    match members.find? (·.name = key) with
    | some m => m.read s
    | none => (skipValue s).map fun rest => (id, rest)

/-- Reads the members of an object up to the closing brace, changing `a` by each. A member that is
asked for may come only once. -/
def readMembers {α : Type} (members : List (Member α)) :
    Nat → Bool → List String → α → Reader α
  | 0, _, _, _, s => .error (.here .endInObject s)
  | fuel + 1, first, seen, a, s =>
    match nextMember first s with
    | .error f => .error (f.under .unknown)
    | .ok none => .ok (a, s)
    | .ok (some s) =>
      match Reader.under .unknown stringTail s with
      | .error f => .error f
      | .ok (key, s) =>
        if key ∈ seen then .error (.here (.duplicateField key) (afterGivenUp s))
        else
          match readColon s >>= readMemberValue members key with
          | .error f => .error f
          | .ok (change, rest) =>
            let seen := if members.any (·.name = key) then key :: seen else seen
            readMembers members fuel false seen (change a) rest

/-- Reads the values of the members in order from an array, from index `i` on. Values may be missing
at the end. -/
def readPositions {α : Type} : List (Member α) → Nat → α → Reader α
  | [], _, a, s => .ok (a, s)
  | m :: rest, i, a, s =>
    match nextItem (i = 0) s with
    | .error f => .error f
    | .ok none => .ok (a, s)
    | .ok (some s) =>
      match Reader.under (.item i) m.read s with
      | .error f => .error f
      | .ok (change, s) => readPositions rest (i + 1) (change a) s

/-- A record: an object with some of its members, or an array of the values of its first members.
It begins as `blank`, which each value changes. -/
def Reader.record {α : Type} (type : String) (blank : α) (members : List (Member α)) : Reader α :=
  withLead fun b rest =>
    if b = Ascii.openBrace then
      match readMembers members (rest.length + 1) true [] blank rest with
      | .error f => .error f
      | .ok (a, rest) => (closeObject rest).map fun rest => (a, rest)
    else if b = Ascii.openBracket then
      match readPositions members 0 blank rest with
      | .error f => .error f
      | .ok (a, rest) => (closeArray rest).map fun rest => (a, rest)
    else .error (mismatch ("struct " ++ type) (b :: rest))

/-! ### Documents -/

/-- Reads a document from the front of a text. What comes after it is not looked at. -/
def decodeFront {α : Type} (read : Reader α) (text : Bytes) : Except Error α :=
  match read text with
  | .ok (a, _) => .ok a
  | .error f => .error (f.locate text)

/-- Reads a text that is one document, with only white space after it. -/
def decodeWhole {α : Type} (read : Reader α) (text : Bytes) : Except Error α :=
  match read text with
  | .error f => .error (f.locate text)
  | .ok (a, rest) =>
    match skipSpace rest with
    | [] => .ok a
    | rest => .error ((Fault.next .trailingCharacters rest).locate text)

end StoreClient.Json
