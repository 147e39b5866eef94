import StoreClient.Http.Header

/-!
Media types: a type, a subtype that may end in a suffix after a plus sign, and parameters. What
counts for reading and writing bodies is whether the subtype or the suffix names a format.
-/

namespace StoreClient

/-- A media type in lower case, without its parameters. -/
structure Media where
  type : List Char
  subtype : List Char
  suffix : Option (List Char)
  deriving DecidableEq, Repr

namespace Media

/-- Where the parameters stand after some characters. -/
inductive ParamState where
  | nameStart
  | name
  | valueStart
  | value
  | quoteStart
  | quoted
  | quoteEnd
  deriving DecidableEq, Repr

/-- Whether the parameters may end here. -/
def ParamState.isFinal : ParamState → Bool
  | .nameStart | .valueStart | .value | .quoteEnd => true
  | .name | .quoteStart | .quoted => false

def isQuotedChar (c : Char) : Bool := 0x20 ≤ c.toNat && c.toNat ≠ 0x7F

/-- One character more of the parameters. -/
def ParamState.step? (st : ParamState) (c : Char) : Option ParamState :=
  match st with
  | .nameStart =>
    if c = ' ' then some .nameStart else if isTokenChar c then some .name else none
  | .name => if c = '=' then some .valueStart else if isTokenChar c then some .name else none
  | .valueStart =>
    if c = '"' then some .quoteStart else if isTokenChar c then some .value else none
  | .value => if c = ';' then some .nameStart else if isTokenChar c then some .value else none
  | .quoteStart => if isQuotedChar c then some .quoted else none
  | .quoted =>
    if c = '"' then some .quoteEnd else if isQuotedChar c then some .quoted else none
  | .quoteEnd => if c = ';' then some .nameStart else if c = ' ' then some .quoteEnd else none

def areParams (text : List Char) : Bool :=
  match text.foldlM ParamState.step? .nameStart with
  | some st => st.isFinal
  | none => false

/-- What precedes the last plus sign that is not the first character, and what follows it. -/
def splitSuffix (name : List Char) : List Char × Option (List Char) :=
  let suffix := (name.reverse.takeWhile (· ≠ '+')).reverse
  let before := name.take (name.length - suffix.length - 1)
  if before.isEmpty then (name, none) else (before, some suffix)

def parse? (text : List Char) : Option Media :=
  let text := text.map Char.toLower
  let type := text.takeWhile isTokenChar
  match text.dropWhile isTokenChar with
  | '/' :: rest =>
    let name := rest.takeWhile isTokenChar
    let (subtype, suffix) := splitSuffix name
    let media : Media := ⟨type, subtype, suffix⟩
    if type.isEmpty then none
    else
      match rest.dropWhile isTokenChar with
      | [] => some media
      | c :: params => if c = ';' ∧ !name.isEmpty ∧ areParams params then some media else none
  | _ => none

/-- The formats that bodies are written in. -/
inductive Format where
  | json
  | xml
  deriving DecidableEq, Repr

def Format.name : Format → List Char
  | .json => ['j', 's', 'o', 'n']
  | .xml => ['x', 'm', 'l']

/-- Whether the subtype or the suffix names the format. -/
def has (media : Media) (format : Format) : Bool :=
  media.subtype = format.name || media.suffix = some format.name

/-- Whether a text is a media type of the format. -/
def isOf (format : Format) (text : String) : Bool :=
  (parse? text.toList).any (·.has format)

def applicationJson : String := "application/json"

def applicationForm : String := "application/x-www-form-urlencoded"

/-! ### Negotiation -/

/-- What a request says that it accepts: JSON if it is in the list, else all of the list. -/
def selectAccept (accepts : List String) : Option String :=
  if accepts.isEmpty then none
  else some ((accepts.find? (isOf .json)).getD (",".intercalate accepts))

/-- What a body is sent as: JSON if it is in the list or the list is empty, else the first. -/
def selectContentType (contentTypes : List String) : String :=
  match contentTypes with
  | [] => applicationJson
  | first :: _ => (contentTypes.find? (isOf .json)).getD first

end Media

end StoreClient
