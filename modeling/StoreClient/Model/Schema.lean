import StoreClient.Json.Decode
import StoreClient.Xml.Decode
import StoreClient.Xml.Render

/-!
How the types of the service are read and written. A codec reads and writes one type in both
formats; a schema is the codec of a record, given field by field. A field that is absent is not
written, and one that is not read keeps the value it has in a blank record.
-/

namespace StoreClient

/-- Reading and writing of a type. -/
structure Codec (β : Type) where
  readJson : Json.Reader β
  toJson : β → Json.Value
  readXml : Xml.Reader β
  /-- The element of a name around a value. -/
  renderXml : String → β → List Char

namespace Codec

def text : Codec String where
  readJson := Json.Reader.text
  toJson := .text
  readXml := Xml.Reader.text
  renderXml name s := Xml.wrap name (Xml.escape s.toList)

def int64 : Codec Int64 where
  readJson := (Json.Reader.int Int64.minValue.toInt Int64.maxValue.toInt "i64").map Int64.ofInt
  toJson i := .number (.int i.toInt)
  readXml nodes :=
    (Xml.Reader.int Int64.minValue.toInt Int64.maxValue.toInt nodes).map Int64.ofInt
  renderXml name i := Xml.wrap name (toString i.toInt).toList

def int32 : Codec Int32 where
  readJson := (Json.Reader.int Int32.minValue.toInt Int32.maxValue.toInt "i32").map Int32.ofInt
  toJson i := .number (.int i.toInt)
  readXml nodes :=
    (Xml.Reader.int Int32.minValue.toInt Int32.maxValue.toInt nodes).map Int32.ofInt
  renderXml name i := Xml.wrap name (toString i.toInt).toList

end Codec

/-- A field of a record: how its value changes a record, and how a record shows it, if it does. -/
structure Field (α : Type) where
  name : String
  readJson : Json.Reader (α → α)
  readXml : Xml.Reader (α → α)
  toJson? : α → Option Json.Value
  renderXml? : α → Option (List Char)

namespace Field

/-- A field that may be absent. -/
def optional {α β : Type} (name : String) (codec : Codec β) (get : α → Option β)
    (set : Option β → α → α) : Field α where
  name
  readJson := (Json.Reader.optional codec.readJson).map set
  readXml nodes := (codec.readXml nodes).map fun b => set (some b)
  toJson? a := (get a).map codec.toJson
  renderXml? a := (get a).map (codec.renderXml name)

/-- A field that is always written. -/
def always {α β : Type} (name : String) (codec : Codec β) (get : α → β) (set : β → α → α) :
    Field α where
  name
  readJson := codec.readJson.map set
  readXml nodes := (codec.readXml nodes).map set
  toJson? a := some (codec.toJson (get a))
  renderXml? a := some (codec.renderXml name (get a))

end Field

/-- A record type: its name, a record of which nothing has been read, and its fields. -/
structure Schema (α : Type) where
  name : String
  blank : α
  fields : List (Field α)

namespace Schema

def codec {α : Type} (schema : Schema α) : Codec α where
  readJson :=
    Json.Reader.record schema.name schema.blank (schema.fields.map fun f => ⟨f.name, f.readJson⟩)
  toJson a :=
    .object (schema.fields.filterMap fun f => (f.toJson? a).map fun v => (f.name, v))
  readXml := Xml.Reader.record schema.blank (schema.fields.map fun f => ⟨f.name, f.readXml⟩)
  renderXml name a := Xml.renderElement name (schema.fields.filterMap fun f => f.renderXml? a)

/-- The document whose root is the record. -/
def renderXml {α : Type} (schema : Schema α) (a : α) : List Char :=
  Xml.document (schema.codec.renderXml schema.name a)

end Schema

/-- A type whose values are records of the service. -/
class Record (α : Type) where
  schema : Schema α

end StoreClient
