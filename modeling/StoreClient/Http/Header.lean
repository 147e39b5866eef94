import StoreClient.Text.Utf8

/-!
Header fields of requests and responses. A name is a token of up to 65535 bytes and is compared in
lower case; a value is any bytes but control characters, among which the tab is allowed. How many
headers a message has room for is left out.
-/

namespace StoreClient

def isTokenChar (c : Char) : Bool :=
  c.isAlphanum ||
    ['!', '#', '$', '%', '&', '\'', '*', '+', '-', '.', '^', '_', '\x60', '|', '~'].elem c

namespace Header

/-- Why a text is no header: it cannot be a name, or it cannot be a value. -/
inductive Error where
  | name
  | value
  deriving DecidableEq, Repr

def Error.message : Error → String
  | .name => "invalid HTTP header name"
  | .value => "failed to parse header value"

/-- How many characters a name may have, each of which is one byte. -/
def maxNameLength : Nat := 65535

/-- The name that a text spells, in lower case. -/
def parseName (text : String) : Except Error String :=
  if text.isEmpty || maxNameLength < text.length || !text.toList.all isTokenChar then .error .name
  else .ok (String.ofList (text.toList.map Char.toLower))

def isValueChar (c : Char) : Bool := c = '\t' || (0x20 ≤ c.toNat && c.toNat ≠ 0x7F)

/-- The value that a text spells, which is the text itself. -/
def parseValue (text : String) : Except Error String :=
  if text.toList.all isValueChar then .ok text else .error .value

/-- Whether a character may stand around a value without being part of it. -/
def isPadding (c : Char) : Bool := c = ' ' || c = '\t'

/-- The value that is left of a text without the padding around it. -/
def trimValue (text : String) : String :=
  let front := text.toList.dropWhile isPadding
  String.ofList (front.reverse.dropWhile isPadding).reverse

/-- Whether a value can be read as a text: it has only visible characters, spaces and tabs. -/
def isVisible (value : String) : Bool :=
  value.toList.all fun c => c = '\t' || (0x20 ≤ c.toNat && c.toNat < 0x7F)

end Header

/-- The headers of a message; a name may occur several times. -/
abbrev Headers := List (String × String)

namespace Headers

/-- Headers as they come in, with their names in lower case. -/
def ofFields (fields : List (String × String)) : Headers :=
  fields.map fun field => (field.1.map Char.toLower, field.2)

/-- Whether a header is about the connection and not about the message. -/
def isOfConnection (name : String) : Bool := name = "connection" || name = "content-length"

/-- Headers as they are read off the wire: names and values must be well formed; what is about the
connection is used up, and so is the padding of values. -/
def readWire (headers : Headers) : Except Header.Error Headers := do
  let read ← headers.mapM fun header => do
    return (← Header.parseName header.1, ← Header.parseValue (Header.trimValue header.2))
  return read.filter fun header => !isOfConnection header.1

/-- The first value of a name. -/
def get? (headers : Headers) (name : String) : Option String :=
  (headers.find? (·.1 = name)).map (·.2)

/-- Gives a name one value, which takes the place of all that it had. -/
def insert (name value : String) (headers : Headers) : Headers :=
  headers.filter (·.1 ≠ name) ++ [(name, value)]

def contentType? (headers : Headers) : Option String :=
  match headers.get? "content-type" with
  | some value => if Header.isVisible value then some value else none
  | none => none

end Headers

end StoreClient
