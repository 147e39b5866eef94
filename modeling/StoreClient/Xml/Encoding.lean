import StoreClient.Text.Utf8

/-!
How the bytes of a document spell its characters. A mark in front of the document may tell, and so
may its declaration, which then has to agree with the mark. Characters are taken one at a time, so
that a declaration governs what comes after it.
-/

namespace StoreClient.Xml

/-- An encoding that characters are read in. UTF-8 is assumed where nothing else is known. -/
inductive Encoding where
  | assumed
  | utf8
  | latin1
  | ascii
  | utf16 (bigEndian : Bool)
  deriving DecidableEq, Repr

/-- An encoding as a declaration names it, which leaves the order of bytes open. -/
inductive Charset where
  | utf8
  | latin1
  | utf16
  | ascii
  deriving DecidableEq, Repr

/-- The names of the charsets, in order of preference. -/
def Charset.labels : List (String × Charset) := [
  ("utf-8", .utf8), ("utf8", .utf8), ("iso-8859-1", .latin1), ("latin1", .latin1),
  ("utf-16", .utf16), ("utf16", .utf16), ("ascii", .ascii), ("us-ascii", .ascii)]

/-- Whether a name in any letter case and a label are the same as far as both go. -/
def agrees (name label : List Char) : Bool :=
  (name.zip label).all fun pair => pair.1.toLower == pair.2

/-- The charset that a name stands for: the first whose label agrees with it. -/
def Charset.named? (name : List Char) : Option Charset :=
  (labels.find? fun entry => agrees name entry.1.toList).map (·.2)

namespace Encoding

/-- The encoding that the bytes of a document begin in, and the bytes after the mark that tells
it. -/
def detect : Bytes → Encoding × Bytes
  | 0xEF :: 0xBB :: 0xBF :: rest => (.utf8, rest)
  | 0xFE :: 0xFF :: rest => (.utf16 true, rest)
  | 0xFF :: 0xFE :: rest => (.utf16 false, rest)
  | bytes => (.assumed, bytes)

/-- The encoding that is read in after a declaration. What was assumed gives way, but not to
another width of characters; what a mark told must be declared, if anything is. -/
def declare? (current : Encoding) (declared : Charset) : Option Encoding :=
  match current, declared with
  | .assumed, .utf8 | .utf8, .utf8 => some .utf8
  | .assumed, .latin1 => some .latin1
  | .assumed, .ascii => some .ascii
  | .utf16 bigEndian, .utf16 => some (.utf16 bigEndian)
  | _, _ => none

/-- The number that two bytes make. -/
def unit (bigEndian : Bool) (a b : UInt8) : Nat :=
  if bigEndian then a.toNat * 0x100 + b.toNat else b.toNat * 0x100 + a.toNat

/-- The first character of bytes that are read two by two. A unit of a surrogate pair needs the
other. -/
def takeUnits (bigEndian : Bool) : Bytes → Option (Char × Bytes)
  | a :: b :: rest =>
    let first := unit bigEndian a b
    if first < 0xD800 ∨ 0xDFFF < first then some (Char.ofNat first, rest)
    else
      match rest with
      | c :: d :: rest =>
        let second := unit bigEndian c d
        if first < 0xDC00 ∧ 0xDC00 ≤ second ∧ second ≤ 0xDFFF then
          some (Char.ofNat (0x10000 + (first - 0xD800) * 0x400 + (second - 0xDC00)), rest)
        else none
      | _ => none
  | _ => none

/-- The first character of some bytes and the bytes after it; `none` if there is none or the bytes
spell none. -/
def takeChar (encoding : Encoding) (bytes : Bytes) : Option (Char × Bytes) :=
  match encoding, bytes with
  | .assumed, bytes | .utf8, bytes => Utf8.decodeFirst bytes
  | .latin1, b :: rest => some (Char.ofNat b.toNat, rest)
  | .ascii, b :: rest => if b < 0x80 then some (Char.ofNat b.toNat, rest) else none
  | .utf16 bigEndian, bytes => takeUnits bigEndian bytes
  | _, [] => none

/-- Like `takeChar`, but every line end is one line feed. -/
def takeLineChar (encoding : Encoding) (bytes : Bytes) : Option (Char × Bytes) :=
  match encoding.takeChar bytes with
  | some ('\r', rest) =>
    match encoding.takeChar rest with
    | some ('\n', rest) => some ('\n', rest)
    | _ => some ('\n', rest)
  | result => result

end Encoding

end StoreClient.Xml
