import StoreClient.Error
import StoreClient.Model.Foo
import StoreClient.Model.User

/-!
Types that the body of a response can be decoded into. Beside a reader for either format such a type
says what it makes of no body at all and of a body that is plain text.
-/

namespace StoreClient

/-- A type that responses are decoded into. -/
class Decodable (α : Type) where
  /-- How the type is called when something else is found. -/
  expected : String
  /-- The value that stands for an absent body, if there is one. -/
  ofNothing? : Option α
  /-- The value of a plain text, if texts have one. -/
  ofText? : String → Option α
  readJson : Json.Reader α
  decodeXml : Bytes → Except Xml.Error α

namespace Decodable

/-- Nothing is expected, so a document is not even looked at. -/
instance : Decodable Unit where
  expected := "unit"
  ofNothing? := some ()
  ofText? _ := none
  readJson := Json.Reader.unit
  decodeXml _ := .ok ()

instance : Decodable String where
  expected := "a string"
  ofNothing? := none
  ofText? := some
  readJson := Json.Reader.text
  decodeXml := Xml.decode Xml.Reader.text

instance : Decodable Int64 where
  expected := "i64"
  ofNothing? := none
  ofText? _ := none
  readJson := Codec.int64.readJson
  decodeXml := Xml.decode Codec.int64.readXml

instance : Decodable Bool where
  expected := "a boolean"
  ofNothing? := none
  ofText? _ := none
  readJson := Json.Reader.bool
  decodeXml := Xml.decode Xml.Reader.bool

/-- A record of the service. -/
instance {α : Type} [Record α] : Decodable α where
  expected := "struct " ++ (Record.schema (α := α)).name
  ofNothing? := none
  ofText? _ := none
  readJson := (Record.schema (α := α)).codec.readJson
  decodeXml := Xml.decode (Record.schema (α := α)).codec.readXml

/-- What may be absent; a document is a value that is there. -/
instance {α : Type} [Decodable α] : Decodable (Option α) where
  expected := expected α
  ofNothing? := some none
  ofText? text := (ofText? text).map some
  readJson := Json.Reader.optional readJson
  decodeXml text := (decodeXml text).map some

/-- A list; a document has one root and can be none. -/
instance {α : Type} [Decodable α] : Decodable (List α) where
  expected := "a sequence"
  ofNothing? := none
  ofText? _ := none
  readJson := Json.Reader.list readJson
  decodeXml _ := .error .unexpectedContent

def ofNothing {α : Type} [Decodable α] : Except Error α :=
  match ofNothing? (α := α) with
  | some a => .ok a
  | none => .error (.wrongValue .null (expected α))

def ofText {α : Type} [Decodable α] (text : String) : Except Error α :=
  match ofText? (α := α) text with
  | some a => .ok a
  | none => .error (.wrongValue (.text text) (expected α))

end Decodable

end StoreClient
