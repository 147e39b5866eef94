/-!
Punycode: how a label with characters beyond ASCII is spelled in ASCII. The ASCII characters come
first; a delta then says for each other character which code point it has and where it is inserted.
-/

namespace StoreClient.Url.Punycode

/-- The value of a digit: letters are 0 to 25, decimal digits 26 to 35. -/
def digitValue? (c : Char) : Option Nat :=
  if 'a' ≤ c ∧ c ≤ 'z' then some (c.toNat - 0x61)
  else if '0' ≤ c ∧ c ≤ '9' then some (c.toNat - 0x30 + 26)
  else none

/-- The threshold at digit position `k`: a digit below it is the last of its delta. -/
def threshold (k bias : Nat) : Nat :=
  if k ≤ bias then 1 else if bias + 26 ≤ k then 26 else k - bias

/-- Divides a delta by 35 until it is at most 455; each division adds 36 to `k`. -/
def scaleDelta (k delta : Nat) : Nat × Nat :=
  if 455 < delta then scaleDelta (k + 36) (delta / 35) else (k, delta)
termination_by delta
decreasing_by omega

/-- The bias after a delta, when there are `count` characters. The first delta is damped more. -/
def adapt (first : Bool) (delta count : Nat) : Nat :=
  let delta := if first then delta / 700 else delta / 2
  let (k, delta) := scaleDelta 0 (delta + delta / count)
  k + 36 * delta / (delta + 38)

/-- The greatest number that a delta may reach. -/
def limit : Nat := 0xFFFFFFFF

/-- Reads one delta, least digit first, adding it to `i`; also says what follows it. -/
def readDelta? (bias : Nat) : Nat → Nat → Nat → List Char → Option (Nat × List Char)
  | _, _, _, [] => none
  | i, weight, k, c :: rest =>
    match digitValue? c with
    | none => none
    | some d =>
      let i := i + d * weight
      let t := threshold k bias
      if limit < i then none
      else if d < t then some (i, rest)
      else readDelta? bias i (weight * (36 - t)) (k + 36) rest

/-- Where decoding stands: the last code point inserted, the place after it, and the bias. -/
structure State where
  code : Nat
  place : Nat
  bias : Nat
  first : Bool

def State.initial : State := ⟨0x80, 0, 72, true⟩

/-- Reads deltas up to the end and inserts their characters; every delta takes a digit. -/
def insertAll : Nat → State → List Char → List Char → Option (List Char)
  | _, _, out, [] => some out
  | 0, _, _, _ :: _ => none
  | fuel + 1, st, out, digits =>
    match readDelta? st.bias st.place 1 36 digits with
    | none => none
    | some (i, rest) =>
      let count := out.length + 1
      let code := st.code + i / count
      let place := i % count
      if h : code.isValidChar then
        insertAll fuel ⟨code, place + 1, adapt st.first (i - st.place) count, false⟩
          (out.take place ++ Char.ofNatAux code h :: out.drop place) rest
      else none

/-- The ASCII characters of a spelling and its digits, which follow the last hyphen. -/
def splitBasic (s : List Char) : List Char × List Char :=
  let digits := (s.reverse.takeWhile (· ≠ '-')).reverse
  (s.take (s.length - digits.length - 1), digits)

/-- The label that a spelling in lower case stands for. -/
def decode? (s : List Char) : Option (List Char) :=
  let (basic, digits) := splitBasic s
  insertAll digits.length State.initial basic digits

end StoreClient.Url.Punycode
