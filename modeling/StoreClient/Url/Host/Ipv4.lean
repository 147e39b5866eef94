import StoreClient.Text.Percent

/-!
IPv4 addresses as hosts: one to four numbers, each decimal, octal after `0` or hexadecimal after
`0x`, the last of which fills the bytes that are left.
-/

namespace StoreClient.Url

/-- Cuts a text at every occurrence of a character. -/
def splitAtChar (mark : Char) : List Char → List (List Char)
  | [] => [[]]
  | c :: rest =>
    if c = mark then [] :: splitAtChar mark rest
    else
      match splitAtChar mark rest with
      | [] => [[c]]
      | part :: parts => (c :: part) :: parts

namespace Ipv4

/-- The number that digits of a base denote; no digits denote zero. -/
def ofDigits? (base : Nat) (ds : List Char) : Option Nat :=
  ds.foldl (fun n? d =>
    match n?, Percent.digitValue? d with
    | some n, some v => if v < base then some (n * base + v) else none
    | _, _ => none) (some 0)

/-- The number that a part of a host spells, if it spells one. -/
def number? : List Char → Option Nat
  | [] => none
  | '0' :: 'x' :: ds | '0' :: 'X' :: ds => ofDigits? 16 ds
  | '0' :: d :: ds => ofDigits? 8 (d :: ds)
  | ds => ofDigits? 10 ds

/-- The parts of a host, without an empty last one. -/
def hostParts (host : List Char) : List (List Char) :=
  let parts := splitAtChar '.' host
  if parts.length ≠ 1 ∧ parts.getLast? = some [] then parts.dropLast else parts

/-- Whether the last part of a host is a number, so that the host can only be an address. -/
def endsInNumber (host : List Char) : Bool :=
  match (hostParts host).getLast? with
  | some last => (!last.isEmpty && last.all Char.isDigit) || (number? last).isSome
  | none => false

/-- The bytes of an address of at most four numbers, all but the last below 256 and the last filling
the rest. -/
def ofNumbers? : List Nat → Option Nat
  | [] => none
  | [n] => if n < 0x100000000 then some n else none
  | [a, n] => if a < 256 ∧ n < 0x1000000 then some (a * 0x1000000 + n) else none
  | [a, b, n] =>
    if a < 256 ∧ b < 256 ∧ n < 0x10000 then some (a * 0x1000000 + b * 0x10000 + n) else none
  | [a, b, c, n] =>
    if a < 256 ∧ b < 256 ∧ c < 256 ∧ n < 256 then
      some (a * 0x1000000 + b * 0x10000 + c * 0x100 + n)
    else none
  | _ => none

def parse? (host : List Char) : Option Nat := do
  let numbers ← (hostParts host).mapM number?
  ofNumbers? numbers

/-- Four decimal numbers with points between them. -/
def render (n : Nat) : List Char :=
  Nat.toDigits 10 (n / 0x1000000 % 256) ++ '.' :: Nat.toDigits 10 (n / 0x10000 % 256)
    ++ '.' :: Nat.toDigits 10 (n / 0x100 % 256) ++ '.' :: Nat.toDigits 10 (n % 256)

end Ipv4

end StoreClient.Url
