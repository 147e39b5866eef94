import StoreClient.Url.Host.Domain
import StoreClient.Url.Host.Ipv6
import StoreClient.Url.Path

/-!
Hosts: an IPv6 address in brackets, an IPv4 address if the last label is a number, else a domain.
Without a special scheme what is not in brackets is kept as it is written.
-/

namespace StoreClient.Url

inductive HostError where
  | empty
  | character
  | domain
  | ipv4
  | ipv6
  deriving DecidableEq, Repr

inductive Host where
  | domain (name : List Char)
  | ipv4 (address : Nat)
  | ipv6 (pieces : List Nat)
  deriving DecidableEq, Repr

namespace Host

/-- Characters that no host holds, not even one that is kept as it is written. -/
def isForbidden (c : Char) : Bool :=
  ['\x00', '\t', '\n', '\r', ' '].elem c ||
    ['#', '/', ':', '<', '>', '?', '@', '[', '\\', ']', '^', '|'].elem c

/-- A host that is kept as it is written. -/
def parseVerbatim (text : List Char) : Except HostError Host :=
  if text.isEmpty then .error .empty
  else if text.any isForbidden then .error .character
  else .ok (.domain (Percent.encode (!isControl ·) text))

/-- A host that is a domain or an IPv4 address. -/
def parseName (text : List Char) : Except HostError Host :=
  match Domain.parse? text with
  | none => .error .domain
  | some [] => .error .empty
  | some name =>
    if Ipv4.endsInNumber name then
      match Ipv4.parse? name with
      | some address => .ok (.ipv4 address)
      | none => .error .ipv4
    else .ok (.domain name)

def parse (special : Bool) (text : List Char) : Except HostError Host :=
  match text with
  | '[' :: rest =>
    if rest.getLast? = some ']' then
      match Ipv6.parse? rest.dropLast with
      | some pieces => .ok (.ipv6 pieces)
      | none => .error .ipv6
    else .error .ipv6
  | _ => if special then parseName text else parseVerbatim text

def render : Host → List Char
  | .domain name => name
  | .ipv4 address => Ipv4.render address
  | .ipv6 pieces => '[' :: Ipv6.render pieces ++ [']']

end Host

end StoreClient.Url
