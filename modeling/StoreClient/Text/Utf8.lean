/-!
UTF-8. Encoding is by arithmetic on the code point. Decoding is one pass over the bytes by a machine
whose state says how many continuation bytes are owed and in which range the next one must lie, so a
malformed sequence is noticed at the first byte that cannot continue it.
-/

namespace StoreClient

abbrev Bytes := List UInt8

namespace Utf8

def encodeChar (c : Char) : Bytes :=
  let n := c.toNat
  if n < 0x80 then [n.toUInt8]
  else if n < 0x800 then [(0xC0 + n / 0x40).toUInt8, (0x80 + n % 0x40).toUInt8]
  else if n < 0x10000 then
    [(0xE0 + n / 0x1000).toUInt8, (0x80 + n / 0x40 % 0x40).toUInt8, (0x80 + n % 0x40).toUInt8]
  else
    [(0xF0 + n / 0x40000).toUInt8, (0x80 + n / 0x1000 % 0x40).toUInt8,
      (0x80 + n / 0x40 % 0x40).toUInt8, (0x80 + n % 0x40).toUInt8]

def encode (cs : List Char) : Bytes := cs.flatMap encodeChar

def ofString (s : String) : Bytes := encode s.toList

/-- How many bytes a text takes. -/
def size (cs : List Char) : Nat := (encode cs).length

/-- A sequence that has begun: the code point so far, how many continuation bytes are owed, the
range of the next one and how many bytes have been taken. -/
structure Pending where
  code : Nat
  owed : Nat
  low : Nat
  high : Nat
  taken : Nat

/-- What the bytes spell, piece by piece: characters, sequences broken off by a byte that cannot
continue them, and a sequence that the end cuts off. -/
inductive Piece where
  | char (c : Char)
  | broken (length : Nat)
  | cut
  deriving DecidableEq, Repr

/-- A first byte: a character of its own, the beginning of a sequence, or neither. -/
inductive Lead where
  | char (c : Char)
  | more (p : Pending)
  | bad

/-- Overlong forms, surrogates and code points beyond U+10FFFF are excluded by narrowing the range
of the second byte. -/
def lead (b : UInt8) : Lead :=
  let n := b.toNat
  if n < 0x80 then .char (Char.ofNat n)
  else if n < 0xC2 then .bad
  else if n < 0xE0 then .more ⟨n - 0xC0, 1, 0x80, 0xBF, 1⟩
  else if n = 0xE0 then .more ⟨0, 2, 0xA0, 0xBF, 1⟩
  else if n = 0xED then .more ⟨n - 0xE0, 2, 0x80, 0x9F, 1⟩
  else if n < 0xF0 then .more ⟨n - 0xE0, 2, 0x80, 0xBF, 1⟩
  else if n = 0xF0 then .more ⟨0, 3, 0x90, 0xBF, 1⟩
  else if n < 0xF4 then .more ⟨n - 0xF0, 3, 0x80, 0xBF, 1⟩
  else if n = 0xF4 then .more ⟨4, 3, 0x80, 0x8F, 1⟩
  else .bad

/-- Reads bytes from between two characters (`none`) or from within one. -/
def pieces : Option Pending → Bytes → List Piece
  | none, [] => []
  | some _, [] => [.cut]
  | none, b :: rest =>
    match lead b with
    | .char c => .char c :: pieces none rest
    | .more p => pieces (some p) rest
    | .bad => .broken 1 :: pieces none rest
  | some p, b :: rest =>
    if p.low ≤ b.toNat ∧ b.toNat ≤ p.high then
      let code := p.code * 0x40 + (b.toNat - 0x80)
      if p.owed = 1 then .char (Char.ofNat code) :: pieces none rest
      else pieces (some ⟨code, p.owed - 1, 0x80, 0xBF, p.taken + 1⟩) rest
    else
      .broken p.taken ::
        match lead b with
        | .char c => .char c :: pieces none rest
        | .more p => pieces (some p) rest
        | .bad => .broken 1 :: pieces none rest

/-- Where bytes stop being UTF-8, and how long the offending sequence is; without a length the
input ends within a sequence. -/
structure Error where
  index : Nat
  length : Option Nat
  deriving DecidableEq, Repr

def Error.message (e : Error) : String :=
  match e.length with
  | some n => s!"invalid utf-8 sequence of {n} bytes from index {e.index}"
  | none => s!"incomplete utf-8 byte sequence from index {e.index}"

/-- The characters up to the end or the first malformed sequence; `index` is where the pieces
start. -/
def collect (index : Nat) : List Piece → Except Error (List Char)
  | [] => .ok []
  | .char c :: rest => (collect (index + (encodeChar c).length) rest).map (c :: ·)
  | .broken n :: _ => .error ⟨index, some n⟩
  | .cut :: _ => .error ⟨index, none⟩

/-- The text that the bytes encode. -/
def decode (bs : Bytes) : Except Error (List Char) := collect 0 (pieces none bs)

/-- Reads the continuation bytes that a sequence owes. -/
def finish (p : Pending) : Bytes → Option (Char × Bytes)
  | [] => none
  | b :: rest =>
    if p.low ≤ b.toNat ∧ b.toNat ≤ p.high then
      let code := p.code * 0x40 + (b.toNat - 0x80)
      if p.owed = 1 then some (Char.ofNat code, rest)
      else finish ⟨code, p.owed - 1, 0x80, 0xBF, p.taken + 1⟩ rest
    else none

/-- The first character that the bytes encode, and the bytes after it. -/
def decodeFirst : Bytes → Option (Char × Bytes)
  | [] => none
  | b :: rest =>
    match lead b with
    | .char c => some (c, rest)
    | .more p => finish p rest
    | .bad => none

/-- A piece as a character, a malformed one as the replacement character. -/
def Piece.replace : Piece → Char
  | .char c => c
  | .broken _ | .cut => '\uFFFD'

/-- The text that the bytes encode, each malformed sequence shown as one replacement character. -/
def decodeLossy (bs : Bytes) : List Char := (pieces none bs).map Piece.replace

/-- The longest run of leading characters that fits in `limit` bytes. -/
def takeBytes (limit : Nat) : List Char → List Char
  | [] => []
  | c :: rest =>
    let n := (encodeChar c).length
    if n ≤ limit then c :: takeBytes (limit - n) rest else []

/-- Whether a text can be cut after `n` bytes: there it ends, or a character begins. -/
def isBoundary (cs : List Char) (n : Nat) : Bool :=
  match (encode cs)[n]? with
  | some b => b.toNat < 0x80 || 0xC0 ≤ b.toNat
  | none => n = size cs

/-- The last place up to `n` where a text can be cut, found by going back byte by byte; the start of
a text is such a place. -/
def floorBoundary (cs : List Char) : Nat → Nat
  | 0 => 0
  | n + 1 => if isBoundary cs (n + 1) then n + 1 else floorBoundary cs n

/-- Splits a text after its first `n` bytes, if a character ends there. -/
def splitBytes? : Nat → List Char → Option (List Char × List Char)
  | 0, cs => some ([], cs)
  | _ + 1, [] => none
  | n + 1, c :: rest =>
    let k := (encodeChar c).length
    if k ≤ n + 1 then (splitBytes? (n + 1 - k) rest).map fun s => (c :: s.1, s.2) else none

end Utf8

end StoreClient
