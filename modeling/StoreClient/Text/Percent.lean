import StoreClient.Text.Utf8
import StoreClient.Text.CharSet

/-!
Percent-encoding: a character outside the set that may stand for itself is written as the bytes of
its UTF-8 form, each as `%` and two upper-case hexadecimal digits.
-/

namespace StoreClient.Percent

/-- The upper-case hexadecimal digit of a number below sixteen. -/
def hexDigit (n : Nat) : Char := if n < 10 then Char.ofNat (0x30 + n) else Char.ofNat (0x37 + n)

/-- One byte, escaped. -/
def escapeByte (b : UInt8) : List Char :=
  ['%', hexDigit (b.toNat / 16), hexDigit (b.toNat % 16)]

/-- One character: as it is if `keep` allows, else its bytes escaped. -/
def encodeChar (keep : Char → Bool) (c : Char) : List Char :=
  if keep c then [c] else (Utf8.encodeChar c).flatMap escapeByte

/-- A text in which only the characters of `keep` stand for themselves. -/
def encode (keep : Char → Bool) (cs : List Char) : List Char := cs.flatMap (encodeChar keep)

/-- The value of a hexadecimal digit of either case. -/
def digitValue? (c : Char) : Option Nat :=
  if '0' ≤ c ∧ c ≤ '9' then some (c.toNat - 0x30)
  else if 'A' ≤ c ∧ c ≤ 'F' then some (c.toNat - 0x37)
  else if 'a' ≤ c ∧ c ≤ 'f' then some (c.toNat - 0x57)
  else none

/-- The bytes that a text stands for. A `%` without two hexadecimal digits after it is itself. -/
def decode : List Char → Bytes
  | [] => []
  | '%' :: h :: l :: rest =>
    match digitValue? h, digitValue? l with
    | some x, some y => (16 * x + y).toUInt8 :: decode rest
    | _, _ => Utf8.encodeChar '%' ++ decode (h :: l :: rest)
  | c :: rest => Utf8.encodeChar c ++ decode rest

end StoreClient.Percent
