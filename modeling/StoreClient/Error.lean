import StoreClient.Credential.Basic
import StoreClient.Json.Fault
import StoreClient.Param.Value
import StoreClient.Response.ReturnType
import StoreClient.Url.Authority
import StoreClient.Url.BasePath
import StoreClient.Url.Basic
import StoreClient.Xml.Decode

/-!
Everything that can go wrong with a call, from a missing argument to a response that cannot be
understood.
-/

namespace StoreClient

/-- Why a call failed, or a client could not be made. -/
inductive Error where
  /-- An argument that the operation requires was not given. -/
  | missingArgument (parameter operation : String)
  | basePath (cause : BasePath.Error)
  | authority (cause : Authority.Error)
  | url (cause : Url.Error)
  | header (cause : Header.Error)
  | credential (cause : Credential.Error)
  | param (cause : Param.Unsupported)
  /-- Placeholders of a path that no argument was given for. -/
  | unresolvedPath (path : String) (missing : List String)
  /-- A list of entities has no form in the format of the content type. -/
  | entitiesUnsupported (contentType : String)
  /-- The expected type has no value for the text of the body, or for no body at all. -/
  | wrongValue (found : Json.Found) (expected : String)
  | json (cause : Json.Error) (body : String)
  | xml (cause : Xml.Error) (body : String)
  | text (cause : Utf8.Error)
  | unsupportedResponse (contentType : Option String) (returnType : ReturnType)
  | unexpectedStatus (status : Nat) (body : String)
  /-- A request whose address has a scheme that cannot be sent over. -/
  | unsupportedScheme (address : String)
  /-- No response came, or one whose head cannot be read. -/
  | brokenResponse (address : String)
  /-- The connection ended within the body of the response from an address. -/
  | brokenBody (address : String)

namespace Error

/-- Whether the call was refused for an argument, before anything was sent. -/
def isMissingArgument : Error → Bool
  | .missingArgument .. => true
  | _ => false

def message : Error → String
  | .missingArgument parameter operation =>
    "Missing the required parameter '" ++ parameter ++ "' when calling " ++ operation
  | .basePath cause => "Invalid base path: " ++ cause.message
  | .authority cause => cause.message
  | .url cause => cause.message
  | .header cause => cause.message
  | .credential cause => cause.message
  | .param cause => "Unsupported parameter value: " ++ cause.message
  | .unresolvedPath path missing =>
    "Path '" ++ path ++ "' is missing required arguments: " ++ Quoted.quoteList missing
  | .entitiesUnsupported contentType =>
    "Serialization error: Cannot send a list of entities as '" ++ contentType ++ "'"
  | .wrongValue found expected => (Json.Reason.wrongType found expected).message
  | .json cause body =>
    "Failed to deserialize JSON at '" ++ Json.renderPath cause.path ++ "': " ++ cause.message
      ++ "\n" ++ body
  | .xml cause body => "Failed to deserialize XML: " ++ cause.message ++ "\n" ++ body
  | .text cause => "Response body is not valid UTF-8: " ++ cause.message
  | .unsupportedResponse contentType returnType =>
    "Cannot decode a '" ++ contentType.getD "<none>" ++ "' response into " ++ returnType.display
  | .unexpectedStatus status body => s!"Unexpected status code {status}: " ++ body
  | .unsupportedScheme address => "builder error for url (" ++ address ++ ")"
  | .brokenResponse address => "error sending request for url (" ++ address ++ ")"
  | .brokenBody address => "error decoding response body for url (" ++ address ++ ")"

end Error

end StoreClient
