import StoreClient.Request.PathTemplate
import StoreClient.Request.Payload

/-!
Requests as operations describe them: everything that is to be sent, before it is written down for
the wire.
-/

namespace StoreClient

structure Method where
  name : String
  deriving DecidableEq, Repr

namespace Method

def get : Method := ⟨"GET"⟩

def post : Method := ⟨"POST"⟩

def put : Method := ⟨"PUT"⟩

def delete : Method := ⟨"DELETE"⟩

end Method

/-- A request with payloads of one type. -/
structure Request (β : Type) where
  operation : String
  method : Method
  path : PathTemplate
  query : Bindings := .empty
  headers : Bindings := .empty
  form : Bindings := .empty
  payload : Payload β := .none
  contentTypes : List String := []
  accepts : List String := []
  authNames : List String := []
  returnType : ReturnType := .nothing

namespace Request

def withHeader {β : Type} (request : Request β) (name : String) (param : Param) : Request β :=
  { request with headers := request.headers.insert name param }

def withQuery {β : Type} (request : Request β) (name : String) (param : Param) : Request β :=
  { request with query := request.query.insert name param }

def withForm {β : Type} (request : Request β) (name : String) (param : Param) : Request β :=
  { request with form := request.form.insert name param }

/-- Asks for the credentials of a scheme, once. -/
def withAuth {β : Type} (request : Request β) (name : String) : Request β :=
  if name ∈ request.authNames then request
  else { request with authNames := request.authNames ++ [name] }

/-- Fixes what the payload is sent as. -/
def withContentType {β : Type} (request : Request β) (contentType : String) : Request β :=
  { request with contentTypes := [contentType] }

/-- Something that a caller adds to a request. -/
inductive Extra where
  | header (name : String) (param : Param)
  | query (name : String) (param : Param)
  | form (name : String) (param : Param)
  | auth (name : String)
  | contentType (contentType : String)

def extend {β : Type} (request : Request β) : Extra → Request β
  | .header name param => request.withHeader name param
  | .query name param => request.withQuery name param
  | .form name param => request.withForm name param
  | .auth name => request.withAuth name
  | .contentType contentType => request.withContentType contentType

def extendAll {β : Type} (request : Request β) (extras : List Extra) : Request β :=
  extras.foldl extend request

end Request

end StoreClient
