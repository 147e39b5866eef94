import StoreClient.Url.Host
import StoreClient.Url.Path
import StoreClient.Url.Scheme
import StoreClient.Text.Form

/-!
Addresses of requests: scheme, user, host, port, path, query and fragment. Reading an address
forgives what a sender may write by mistake and brings each part into one spelling, so that what
is rendered reads back as it is. Only addresses that name a host are read, since the base of a
client always names a host and a port. In the address of a file the port is taken for a part of the
host, which no host can be, so that no client has such an address.
-/

namespace StoreClient

/-- An address. User, password, query and fragment are held as they are written. -/
structure Url where
  scheme : Scheme
  user : List Char
  password : List Char
  host : Url.Host
  port : Option Nat
  path : List (List Char)
  query : Option (List Char)
  fragment : Option (List Char)
  deriving DecidableEq, Repr

namespace Url

inductive Error where
  | schemeMissing
  | host (cause : HostError)
  | port
  deriving DecidableEq, Repr

def Error.message : Error → String
  | .schemeMissing => "relative URL without a base"
  | .host .empty => "empty host"
  | .host .character => "invalid domain character"
  | .host .domain => "invalid international domain name"
  | .host .ipv4 => "invalid IPv4 address"
  | .host .ipv6 => "invalid IPv6 address"
  | .port => "invalid port number"

/-- Characters that stand for themselves in a user or a password. -/
def isUserSafe (c : Char) : Bool :=
  Path.isSafe c && !(['/', ':', ';', '=', '@', '[', '\\', ']', '^', '|'].elem c)

def isQuerySafe (special : Bool) (c : Char) : Bool :=
  !isControl c && !([' ', '"', '#', '<', '>'].elem c) && !(special && c == '\'')

def isFragmentSafe (c : Char) : Bool :=
  !isControl c && !([' ', '"', '<', '>', '\x60'].elem c)

/-! ### Reading -/

/-- Control characters and the space, which may surround an address. -/
def isBlank (c : Char) : Bool := c.toNat ≤ 0x20

/-- Without tabs and line breaks. -/
def dropBreaks (text : List Char) : List Char :=
  text.filter fun c => !(['\t', '\n', '\r'].elem c)

/-- A text without what may surround an address or be strewn into it. -/
def clean (text : List Char) : List Char :=
  dropBreaks ((text.dropWhile isBlank).reverse.dropWhile isBlank).reverse

/-- The part before the first character that `p` holds of, and the part from there on. -/
def splitBefore (p : Char → Bool) (text : List Char) : List Char × List Char :=
  (text.takeWhile fun c => !p c, text.dropWhile fun c => !p c)

/-- The scheme at the front, and what follows its colon. -/
def splitScheme? (text : List Char) : Option (Scheme × List Char) :=
  match splitBefore (· == ':') text with
  | (name, _ :: rest) => (Scheme.read? name).map (·, rest)
  | (_, []) => none

/-- What follows the slashes before an authority. There are two of them, but with a special scheme
other than that of files as many as there are; where there are none there is no authority. -/
def dropSlashes (scheme : Scheme) (text : List Char) : List Char :=
  let isSlash := Path.isSlash scheme.isSpecial
  if scheme.isSpecial && scheme ≠ .file then text.dropWhile isSlash
  else
    match text with
    | c :: d :: rest => if isSlash c && isSlash d then rest else []
    | _ => []

def endsAuthority (special : Bool) (c : Char) : Bool :=
  Path.isSlash special c || c == '?' || c == '#'

/-- The user information before the last `@`, if there is an `@`, and what follows it. -/
def splitUser (authority : List Char) : Option (List Char) × List Char :=
  match splitBefore (· == '@') authority.reverse with
  | (rest, _ :: info) => (some info.reverse, rest.reverse)
  | (_, []) => (none, authority)

/-- User and password, which follows the first colon. -/
def parseUser (info : List Char) : List Char × List Char :=
  let (user, password) := splitBefore (· == ':') info
  (Percent.encode isUserSafe user, Percent.encode isUserSafe password.tail)

/-- The host, and the port's text if a colon follows; colons in brackets are of the host. -/
def splitPort (bracketed : Bool) : List Char → List Char × Option (List Char)
  | [] => ([], none)
  | c :: rest =>
    if c = ':' ∧ !bracketed then ([], some rest)
    else
      let inside := if c = '[' then true else if c = ']' then false else bracketed
      let (host, port) := splitPort inside rest
      (c :: host, port)

/-- User information, host and the text of a port. The authority of a file is all host. -/
def splitAuthority (scheme : Scheme) (authority : List Char) :
    Option (List Char) × List Char × Option (List Char) :=
  if scheme = .file then (none, authority, none)
  else
    let (info, address) := splitUser authority
    (info, splitPort false address)

/-- The port that a text names, unless it is the scheme's own; no digits name none. -/
def parsePort (scheme : Scheme) (digits : List Char) : Except Error (Option Nat) :=
  if !digits.all Char.isDigit then .error .port
  else
    let n := digits.foldl (fun n d => n * 10 + (d.toNat - 0x30)) 0
    if 65535 < n then .error .port
    else .ok (if digits.isEmpty || scheme.defaultPort? = some n then none else some n)

/-- The path, which follows the authority. With a special scheme there always is one. -/
def parsePath (special : Bool) (text : List Char) : List (List Char) :=
  match text with
  | c :: rest => Path.parse special (if Path.isSlash special c then rest else c :: rest)
  | [] => if special then Path.parse special [] else []

/-- What follows a mark, encoded; `none` without the mark. -/
def parseAfter (isSafe : Char → Bool) : List Char → Option (List Char)
  | [] => none
  | _ :: rest => some (Percent.encode isSafe rest)

def parse (text : List Char) : Except Error Url := do
  let some (scheme, rest) := splitScheme? (clean text) | .error .schemeMissing
  let special := scheme.isSpecial
  let (authority, rest) := splitBefore (endsAuthority special) (dropSlashes scheme rest)
  let (info, host, port) := splitAuthority scheme authority
  let (user, password) := parseUser (info.getD [])
  let host ← (Host.parse special host).mapError .host
  let port ← parsePort scheme (port.getD [])
  let (beforeFragment, fragment) := splitBefore (· == '#') rest
  let (path, query) := splitBefore (· == '?') beforeFragment
  return {
    scheme, user, password, host, port
    path := parsePath special path
    query := parseAfter (isQuerySafe special) query
    fragment := parseAfter isFragmentSafe fragment }

def setQuery (url : Url) (query : List Char) : Url :=
  { url with query := some (Percent.encode (isQuerySafe url.scheme.isSpecial) (dropBreaks query)) }

/-! ### Rendering -/

/-- User and password with the `@` that ends them, if there are any. -/
def renderUser (user password : List Char) : List Char :=
  if user.isEmpty && password.isEmpty then []
  else if password.isEmpty then user ++ ['@']
  else user ++ ':' :: password ++ ['@']

/-- A part after its mark, if there is one. -/
def renderAfter (mark : Char) : Option (List Char) → List Char
  | none => []
  | some text => mark :: text

def render (url : Url) : List Char :=
  url.scheme.name ++ [':', '/', '/'] ++ renderUser url.user url.password ++ url.host.render
    ++ renderAfter ':' (url.port.map (Nat.toDigits 10)) ++ Path.render url.path
    ++ renderAfter '?' url.query ++ renderAfter '#' url.fragment

end Url

end StoreClient
