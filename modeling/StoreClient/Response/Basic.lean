import StoreClient.Response.Decodable
import StoreClient.Media

/-!
Responses and how their bodies are decoded. What a body is read as depends on the declared return
type first and on the content type second.
-/

namespace StoreClient

/-- A response whose body has been decoded. -/
structure Response (α : Type) where
  status : Nat
  headers : Headers
  data : α

/-- A body as a text in which malformed bytes have been replaced. -/
def lossyText (body : Bytes) : String := String.ofList (Utf8.decodeLossy body)

/-- Decodes a JSON document. What follows it is not looked at. -/
def decodeJson {α : Type} [Decodable α] (body : Bytes) : Except Error α :=
  (Json.decodeFront Decodable.readJson body).mapError fun e => .json e (lossyText body)

def decodeXml {α : Type} [Decodable α] (body : Bytes) : Except Error α :=
  (Decodable.decodeXml body).mapError fun e => .xml e (lossyText body)

def decodeText {α : Type} [Decodable α] (body : Bytes) : Except Error α := do
  let text ← (Utf8.decode body).mapError .text
  Decodable.ofText (String.ofList text)

/-- Decodes a body. Where nothing is declared or nothing was sent, the body is absent; JSON and XML
are read as such; any other body is plain text and can only be a declared text. -/
def decodeBody {α : Type} [Decodable α] (returnType : ReturnType) (contentType : Option String)
    (body : Bytes) : Except Error α :=
  if returnType = .nothing ∨ body.isEmpty then Decodable.ofNothing
  else if contentType.any (Media.isOf .json) then decodeJson body
  else if contentType.any (Media.isOf .xml) then decodeXml body
  else if returnType = .string then decodeText body
  else .error (.unsupportedResponse contentType returnType)

end StoreClient
