import StoreClient.Client.Wire
import StoreClient.Operation.Call

/-!
Exchanges: what becomes of a response. Between a client and the wire there is an HTTP client, which
hands a response over: the one that it reads off the wire, or the one that a redirect leads it to.
There a status other than success is a failure, and the text of the response is kept up to a limit;
a transport that only records requests takes any response as a success.
-/

namespace StoreClient

/-- A response as the other side writes it; `cut` tells that the connection ends within the body. -/
structure WireResponse where
  status : Nat := 200
  headers : Headers := []
  body : Bytes := []
  cut : Bool := false

namespace WireResponse

/-- Whether responses of the status have no body. -/
def isBodiless (status : Nat) : Bool := status < 200 || status = 204 || status = 304

/-- Whether a status announces another response, which is then waited for in vain. Switching
protocols announces none. -/
def isInterim (status : Nat) : Bool := status < 200 && status ≠ 101

/-- The response to a request for `url` as it is read off the wire, if its head can be read. -/
def readHead (url : String) (response : WireResponse) : Except Error WireResponse :=
  if isInterim response.status then .error (.brokenResponse url)
  else
    match response.headers.readWire with
    | .ok headers => .ok { response with headers }
    | .error _ => .error (.brokenResponse url)

/-- The body of a response from `url`, unless the connection ends within it. -/
def content (url : String) (response : WireResponse) : Except Error Bytes :=
  if isBodiless response.status then .ok []
  else if response.cut then .error (.brokenBody url)
  else .ok response.body

end WireResponse

/-- A response as an HTTP client hands it over: a head, and a body unless that cannot be read. -/
structure Received where
  status : Nat
  headers : Headers
  content : Except Error Bytes

/-- An HTTP client, by what it hands over for a request that meets a response on the wire. Which
redirects it follows, and what is read where they lead, is up to it. -/
structure HttpClient where
  execute : WireRequest → WireResponse → Except Error Received

/-- The HTTP client that follows no redirect. -/
def HttpClient.direct : HttpClient where
  execute request response := do
    let head ← response.readHead request.address
    return {
      status := head.status
      headers := head.headers
      content := head.content request.address }

/-- Decodes the body of a response, whatever its status. -/
def Call.decodeResponse (call : Call) (returnType : ReturnType) (status : Nat) (headers : Headers)
    (body : Bytes) : Except Error (Response Answer) := do
  let data ← call.decodeAnswer returnType headers.contentType? body
  return { status, headers, data }

/-- Decodes a response as it is written. -/
def WireResponse.decode (response : WireResponse) (call : Call) (returnType : ReturnType)
    (body : Bytes) : Except Error (Response Answer) :=
  call.decodeResponse returnType response.status response.headers body

namespace Received

def isSuccess (received : Received) : Bool := 200 ≤ received.status && received.status < 300

/-- How many bytes of a text are kept for a failure. -/
def textLimit : Nat := 1024

/-- A text, cut at the last boundary that the limit allows if it is too long. -/
def truncate (cs : List Char) : String :=
  if textLimit < Utf8.size cs then
    String.ofList (Utf8.takeBytes (Utf8.floorBoundary cs textLimit) cs) ++ "... (truncated)"
  else String.ofList cs

/-- The text that is kept of a response that tells of no success. -/
def failureText (received : Received) : String :=
  match received.content with
  | .ok body => truncate (Utf8.decodeLossy body)
  | .error e => "<unable to read response body: " ++ e.message ++ ">"

/-- What a call comes to whose response is handed over. -/
def answer (received : Received) (call : Call) (returnType : ReturnType) :
    Except Error (Response Answer) := do
  if !received.isSuccess then
    throw (.unexpectedStatus received.status received.failureText)
  call.decodeResponse returnType received.status received.headers (← received.content)

end Received

end StoreClient
