import StoreClient.Client.Basic
import StoreClient.Request.Basic

/-!
Requests as they go over the wire. Every header has one value: the accepted types come first,
credentials replace them, bound headers replace both, and the content type of the body replaces
whatever bears its name.
-/

namespace StoreClient

/-- A request with everything written down. -/
structure WireRequest where
  method : Method
  url : Url
  headers : Headers
  body : Option String

def WireRequest.address (request : WireRequest) : String := String.ofList request.url.render

namespace Client

/-- A path put behind the base of a client, with one slash between them. -/
def join (base path : List Char) : List Char :=
  (base.reverse.dropWhile (· = '/')).reverse ++ '/' :: path.dropWhile (· = '/')

def url {β : Type} (client : Client) (request : Request β) : Logged Url := do
  let path ← request.path.resolve
  let url ← .ofExcept ((Url.parse (join client.baseUri.toList path.toList)).mapError .url)
  if request.query.isEmpty then return url
  else
    let query ← .ofExcept (request.query.formText.mapError .param)
    return url.setQuery query.toList

/-- A header value that a text spells. -/
def headerValue (text : String) : Logged String :=
  .ofExcept ((Header.parseValue text).mapError .header)

def addAccept (accepts : List String) (headers : Headers) : Logged Headers := do
  match Media.selectAccept accepts with
  | none => return headers
  | some accept => return headers.insert "accept" (← headerValue accept)

def addCredentials (client : Client) : List String → Headers → Logged Headers
  | [], headers => return headers
  | scheme :: rest, headers => do
    match client.credentials.get? scheme with
    | some credential =>
      let (name, value) ← .ofExcept (credential.header.mapError .credential)
      addCredentials client rest (headers.insert name value)
    | none =>
      .warn (.unknownScheme scheme)
      addCredentials client rest headers

/-- Adds headers that were bound by name. -/
def addBound : List (String × String) → Headers → Logged Headers
  | [], headers => return headers
  | (name, text) :: rest, headers => do
    let name ← .ofExcept ((Header.parseName name).mapError .header)
    let value ← headerValue text
    addBound rest (headers.insert name value)

/-- The body and the headers with its content type. Form fields displace the payload. -/
def addBody {β : Type} [Record β] (request : Request β) (headers : Headers) :
    Logged (Headers × Option String) := do
  if request.form.isEmpty then
    let contentType := Media.selectContentType request.contentTypes
    match ← .ofExcept (request.payload.encode contentType) with
    | none => return (headers, none)
    | some body => return (headers.insert "content-type" (← headerValue contentType), some body)
  else
    if !request.payload.isNone then .warn .ignoredPayload
    let body ← .ofExcept (request.form.formText.mapError .param)
    return (headers.insert "content-type" Media.applicationForm, some body)

def wireRequest {β : Type} [Record β] (client : Client) (request : Request β) :
    Logged WireRequest := do
  let url ← client.url request
  let headers ← addAccept request.accepts []
  let headers ← client.addCredentials request.authNames headers
  let bound : Bindings := client.headers.merge request.headers
  let headers ← addBound (← .ofExcept (bound.textPairs.mapError .param)) headers
  let (headers, body) ← addBody request headers
  return { method := request.method, url, headers, body }

/-- Writes a request down and makes sure that it can be sent. -/
def sendable {β : Type} [Record β] (client : Client) (request : Request β) :
    Logged WireRequest := do
  let written ← client.wireRequest request
  if written.url.scheme.isSendable then return written
  else .ofExcept (.error (.unsupportedScheme written.address))

end Client

end StoreClient
