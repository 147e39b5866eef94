import StoreClient.Credential.Basic
import StoreClient.Error
import StoreClient.Param.Bindings

/-!
Clients: where their requests go, which credentials they have and which headers they always send.
-/

namespace StoreClient

structure Client where
  baseUri : String
  credentials : NameMap Credential
  headers : Bindings

namespace Client

/-- What a client is made from. -/
structure Config where
  scheme : Scheme := .http
  host : String := "petstore.swagger.io"
  port : UInt16 := 80
  basePath : List Char := ['/', 'v', '2']
  credentials : NameMap Credential := .empty
  headers : Bindings := .empty

namespace Config

/-- Sets the path before all paths, if the text is one. -/
def withBasePath (config : Config) (text : String) : Except Error Config := do
  let basePath ← (BasePath.parse text.toList).mapError .basePath
  return { config with basePath }

/-- Sets the credentials of a scheme. -/
def withCredential (config : Config) (scheme : String) (credential : Credential) : Config :=
  { config with credentials := config.credentials.insert scheme credential }

/-- Adds a header that is always sent. -/
def withHeader (config : Config) (name : String) (param : Param) : Config :=
  { config with headers := config.headers.insert name param }

/-- Host and port. -/
def authority (config : Config) : String :=
  config.host ++ ":" ++ toString config.port.toNat

/-- The client, if host and port fit together. -/
def build (config : Config) : Except Error Client := do
  (Authority.check config.authority.toList).mapError .authority
  return {
    baseUri :=
      String.ofList config.scheme.name ++ "://" ++ config.authority ++ String.ofList config.basePath
    credentials := config.credentials
    headers := config.headers }

end Config

end Client

end StoreClient
