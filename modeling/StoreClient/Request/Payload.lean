import StoreClient.Error
import StoreClient.Media
import StoreClient.Model.Schema

/-!
Payloads of requests and the bodies they become.
-/

namespace StoreClient

/-- What a request carries: nothing, one entity, or a list of entities. -/
inductive Payload (β : Type) where
  | none
  | entity (e : β)
  | entities (es : List β)

namespace Payload

def isNone {β : Type} : Payload β → Bool
  | .none => true
  | _ => false

/-- The body of a payload that is sent as a content type. What is not XML is sent as JSON. -/
def encode {β : Type} [Record β] (payload : Payload β) (contentType : String) :
    Except Error (Option String) :=
  let schema := Record.schema (α := β)
  match payload with
  | .none => .ok Option.none
  | .entity e =>
    .ok (some (String.ofList
      (if Media.isOf .xml contentType then schema.renderXml e else (schema.codec.toJson e).render)))
  | .entities es =>
    if Media.isOf .xml contentType then .error (.entitiesUnsupported contentType)
    else .ok (some (String.ofList (Json.Value.array (es.map schema.codec.toJson)).render))

end Payload

end StoreClient
