import StoreClient.Credential.Secret
import StoreClient.Http.Header
import StoreClient.Text.Base64
import StoreClient.Text.Quoted

/-!
Credentials, the header that each of them becomes, and the texts that show them without the secret.
-/

namespace StoreClient

/-- Credentials for one of the schemes that protect operations. -/
inductive Credential where
  | bearer (token : Secret)
  | basic (username : String) (password : Secret)
  | apiKey (headerName : String) (key : Secret)

namespace Credential

/-- Why credentials do not fit into a header. -/
inductive Error where
  | bearerToken
  | usernameColon
  | password
  | headerName (name : String)
  | apiKey
  deriving DecidableEq, Repr

def Error.message : Error → String
  | .bearerToken =>
    "Bearer token contains invalid characters: " ++ Header.Error.value.message
  | .usernameColon =>
    "Basic auth username contains invalid characters: " ++
      "Username cannot contain colon (:) character"
  | .password => "Basic auth password contains invalid characters: " ++ Header.Error.value.message
  | .headerName name =>
    "Invalid API key header name '" ++ name ++ "': " ++ Header.Error.name.message
  | .apiKey => "API key contains invalid characters: " ++ Header.Error.value.message

/-- The header of bearer tokens and of passwords. -/
def authorization : String := "authorization"

/-- User and password in the form in which they are sent. -/
def encodeBasic (username password : String) : String :=
  String.ofList (Base64.encode (Utf8.ofString (username ++ ":" ++ password)))

/-- The header that carries the credentials. -/
def header : Credential → Except Error (String × String)
  | .bearer token => do
    let value ← (Header.parseValue ("Bearer " ++ token.value)).mapError fun _ => Error.bearerToken
    return (authorization, value)
  | .basic username password => do
    if username.toList.elem ':' then throw .usernameColon
    let value ← (Header.parseValue ("Basic " ++ encodeBasic username password.value)).mapError
      fun _ => Error.password
    return (authorization, value)
  | .apiKey headerName key => do
    let name ← (Header.parseName headerName).mapError fun _ => Error.headerName headerName
    let value ← (Header.parseValue key.value).mapError fun _ => Error.apiKey
    return (name, value)

/-- A line that shows the credentials with their secret masked. -/
def display : Credential → String
  | .bearer token => "Bearer " ++ token.mask
  | .basic username _ => "Basic (username: " ++ username ++ ")"
  | .apiKey headerName key => "ApiKey (" ++ headerName ++ ": " ++ key.mask ++ ")"

/-- The credentials as a record without their secret. -/
def describe : Credential → String
  | .bearer _ => "Bearer(\"" ++ Secret.redacted ++ "\")"
  | .basic username _ =>
    "Basic \x7b username: " ++ Quoted.quote username ++ ", password: \"" ++ Secret.redacted
      ++ "\" \x7d"
  | .apiKey headerName _ =>
    "ApiKey \x7b header_name: " ++ Quoted.quote headerName ++ ", key: \"" ++ Secret.redacted
      ++ "\" \x7d"

end Credential

end StoreClient
