import StoreClient.Url.Host.Ipv4

/-!
IPv6 addresses as hosts: eight pieces of up to four hexadecimal digits, of which one run of zeros
may be left out as `::`, and the last two of which may be spelled as an IPv4 address.
-/

namespace StoreClient.Url.Ipv6

def piece? (ds : List Char) : Option Nat :=
  if ds.isEmpty || 4 < ds.length then none else Ipv4.ofDigits? 16 ds

/-- A decimal number below 256 without a leading zero. -/
def byte? (ds : List Char) : Option Nat :=
  if ds.isEmpty || 3 < ds.length || (1 < ds.length && ds.head? = some '0') then none
  else (Ipv4.ofDigits? 10 ds).bind fun n => if n < 256 then some n else none

/-- The two pieces of an embedded IPv4 address. -/
def embedded? (text : List Char) : Option (List Nat) :=
  match (splitAtChar '.' text).mapM byte? with
  | some [a, b, c, d] => some [a * 256 + b, c * 256 + d]
  | _ => none

/-- The pieces between colons; `last` tells whether the address ends with them. -/
def piecesOf (last : Bool) : List (List Char) → Option (List Nat)
  | [] => some []
  | [p] => if last && p.elem '.' then embedded? p else (piece? p).map fun n => [n]
  | p :: q :: rest => do
    let n ← piece? p
    let ns ← piecesOf last (q :: rest)
    some (n :: ns)

/-- The pieces that a text spells; the empty text spells none. -/
def pieces? (last : Bool) (text : List Char) : Option (List Nat) :=
  if text.isEmpty then some [] else piecesOf last (splitAtChar ':' text)

/-- What comes before and after the first `::`. -/
def splitGap? : List Char → Option (List Char × List Char)
  | ':' :: ':' :: rest => some ([], rest)
  | c :: rest => (splitGap? rest).map fun (before, after) => (c :: before, after)
  | [] => none

/-- The eight pieces of an address. -/
def parse? (text : List Char) : Option (List Nat) :=
  match splitGap? text with
  | none => (pieces? true text).bind fun ps => if ps.length = 8 then some ps else none
  | some (before, after) => do
    let front ← pieces? false before
    let back ← pieces? true after
    let given := front.length + back.length
    if given ≤ 7 then some (front ++ List.replicate (8 - given) 0 ++ back) else none

/-- The length of the run of zeros at each place. -/
def zeroRuns : List Nat → List Nat
  | [] => []
  | p :: rest =>
    let runs := zeroRuns rest
    (if p = 0 then runs.headD 0 + 1 else 0) :: runs

def renderPieces (ps : List Nat) : List Char :=
  [':'].intercalate (ps.map (Nat.toDigits 16))

/-- The shortest spelling: the first of the longest runs of at least two zeros is left out. -/
def render (ps : List Nat) : List Char :=
  let runs := zeroRuns ps
  let longest := runs.foldl max 0
  if longest < 2 then renderPieces ps
  else
    let start := runs.findIdx (· = longest)
    renderPieces (ps.take start) ++ [':', ':'] ++ renderPieces (ps.drop (start + longest))

end StoreClient.Url.Ipv6
