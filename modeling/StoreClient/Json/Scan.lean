import StoreClient.Json.Fault

/-!
The lexical level of JSON: white space, names, numbers and strings, and skipping a value whose
content does not matter. A reader takes the bytes that are left and gives back its result with the
bytes after it.
-/

namespace StoreClient.Json

/-- Reads one thing from the front of the bytes that are left. -/
abbrev Reader (α : Type) := Bytes → Except Fault (α × Bytes)

def isSpace (b : UInt8) : Bool :=
  b == Ascii.space || b == Ascii.lineFeed || b == Ascii.tab || b == Ascii.carriageReturn

def skipSpace (s : Bytes) : Bytes := s.dropWhile isSpace

/-- Reads the remaining letters of a name such as `null`. -/
def name : Bytes → Bytes → Except Fault Bytes
  | [], s => .ok s
  | _ :: _, [] => .error (.here .endInValue [])
  | w :: ws, b :: rest => if b = w then name ws rest else .error (.here .identExpected rest)

/-- The letters after the first of `null`, `true` and `false`. -/
def nullTail : Bytes := [0x75, 0x6C, 0x6C]
def trueTail : Bytes := [0x72, 0x75, 0x65]
def falseTail : Bytes := [0x61, 0x6C, 0x73, 0x65]

/-! ### Numbers -/

/-- The greatest significand that is kept exactly. -/
def significandLimit : Nat := 0xFFFFFFFFFFFFFFFF

/-- The digits that a significand can take up before it would pass its limit, and how many it
cannot: from the first such digit on, all are left over. -/
def takeDigits (significand : Nat) : Bytes → Nat × Nat
  | [] => (significand, 0)
  | d :: ds =>
    let grown := significand * 10 + Ascii.digitValue d
    if significandLimit < grown then (significand, ds.length + 1) else takeDigits grown ds

/-- `significand · 10 ^ exponent` in double arithmetic: one rounding for the significand, one for
the power and one for their product or quotient. A result too large for a double is refused, one
too small is zero. -/
def floatOfParts (significand : Nat) (exponent : Int) : Option Float :=
  let x := Float.ofNat significand
  let power (n : Nat) : Float := Float.ofScientific 1 false n
  if 0 ≤ exponent then
    if exponent ≤ 308 then
      let y := x * power exponent.toNat
      if y.isInf then none else some y
    else if significand = 0 then some 0 else none
  else if -308 ≤ exponent then some (x / power (-exponent).toNat)
  else if -616 ≤ exponent then some (x / power 308 / power (-(exponent + 308)).toNat)
  else some 0

def signed (negative : Bool) (x : Float) : Float := if negative then -x else x

/-- The greatest exponent that is read digit by digit. -/
def exponentLimit : Nat := 0x7FFFFFFF

/-- Reads exponent digits up to the first that passes the limit; the flag tells whether there was
one. -/
def exponentDigits (e : Nat) : Bytes → Nat × Bool × Bytes
  | [] => (e, false, [])
  | d :: rest =>
    if Ascii.isDigit d then
      let grown := e * 10 + Ascii.digitValue d
      if exponentLimit < grown then (e, true, rest) else exponentDigits grown rest
    else (e, false, d :: rest)

/-- Reads what follows the letter of an exponent. -/
def exponent (negative : Bool) (significand : Nat) (start : Int) (s : Bytes) :
    Except Fault (Number × Bytes) :=
  let (down, s) :=
    match s with
    | Ascii.plus :: rest => (false, rest)
    | Ascii.minus :: rest => (true, rest)
    | _ => (false, s)
  match s with
  | [] => .error (.here .endInValue [])
  | d :: rest =>
    if !Ascii.isDigit d then .error (.here .badNumber rest)
    else
      let (e, passed, rest) := exponentDigits (Ascii.digitValue d) rest
      if passed then
        if significand ≠ 0 ∧ !down then .error (.here .numberOutOfRange rest)
        else .ok (.float (signed negative 0), rest.dropWhile Ascii.isDigit)
      else
        match floatOfParts significand (if down then start - e else start + e) with
        | some x => .ok (.float (signed negative x), rest)
        | none => .error (.here .numberOutOfRange rest)

/-- Reads what follows a decimal point. -/
def fraction (negative : Bool) (significand : Nat) (start : Int) (s : Bytes) :
    Except Fault (Number × Bytes) :=
  let digits := s.takeWhile Ascii.isDigit
  let rest := s.dropWhile Ascii.isDigit
  if digits.isEmpty then
    .error (.next (if rest.isEmpty then .endInValue else .badNumber) rest)
  else
    let (significand, excess) := takeDigits significand digits
    let start := start - ((digits.length - excess : Nat) : Int)
    match rest with
    | Ascii.lowerE :: rest | Ascii.upperE :: rest => exponent negative significand start rest
    | _ =>
      match floatOfParts significand start with
      | some x => .ok (.float (signed negative x), rest)
      | none => .error (.here .numberOutOfRange rest)

/-- The number of a whole significand. Zero with a sign, and integers beyond 64 bits, are floats. -/
def wholeNumber (negative : Bool) (significand : Nat) : Number :=
  if negative then
    if significand = 0 ∨ 0x8000000000000000 < significand then .float (-(Float.ofNat significand))
    else .int (-(significand : Int))
  else .int significand

/-- Reads what follows the integer part. -/
def numberTail (negative : Bool) (significand excess : Nat) (s : Bytes) :
    Except Fault (Number × Bytes) :=
  match s with
  | Ascii.point :: rest => fraction negative significand excess rest
  | Ascii.lowerE :: rest | Ascii.upperE :: rest => exponent negative significand excess rest
  | _ =>
    if excess = 0 then .ok (wholeNumber negative significand, s)
    else
      match floatOfParts significand excess with
      | some x => .ok (.float (signed negative x), s)
      | none => .error (.here .numberOutOfRange s)

/-- Reads the digits of a number after its sign. A leading zero stands alone. -/
def unsignedNumber (negative : Bool) : Bytes → Except Fault (Number × Bytes)
  | [] => .error (.here .endInValue [])
  | d :: rest =>
    if d = Ascii.zero then
      match rest with
      | c :: _ =>
        if Ascii.isDigit c then .error (.next .badNumber rest) else numberTail negative 0 0 rest
      | [] => numberTail negative 0 0 rest
    else if Ascii.isDigit d then
      let (significand, excess) := takeDigits (Ascii.digitValue d) (rest.takeWhile Ascii.isDigit)
      numberTail negative significand excess (rest.dropWhile Ascii.isDigit)
    else .error (.here .badNumber rest)

def number : Reader Number
  | Ascii.minus :: rest => unsignedNumber true rest
  | s => unsignedNumber false s

def startsNumber (b : UInt8) : Bool := b == Ascii.minus || Ascii.isDigit b

/-! ### Strings -/

/-- Four hexadecimal digits. -/
def hexUnit : Bytes → Except Fault Nat
  | a :: b :: c :: d :: rest =>
    match Ascii.hexValue? a, Ascii.hexValue? b, Ascii.hexValue? c, Ascii.hexValue? d with
    | some a, some b, some c, some d => .ok (((a * 16 + b) * 16 + c) * 16 + d)
    | _, _, _, _ => .error (.here .badEscape rest)
  | _ => .error (.here .endInString [])

/-- What follows the first half of a surrogate pair: a backslash, then `u`. -/
def escapeMark (mark : UInt8) : Bytes → Except Fault Unit
  | [] => .error (.here .endInString [])
  | b :: rest => if b = mark then .ok () else .error (.here .unpairedSurrogate rest)

/-- What follows `\u`: a code unit, or the two of a surrogate pair; with the number of bytes
taken. -/
def unicodeEscape (s : Bytes) : Except Fault (Char × Nat) := do
  let first ← hexUnit s
  if 0xDC00 ≤ first ∧ first ≤ 0xDFFF then .error (.here .loneSurrogate (s.drop 4))
  else if first < 0xD800 ∨ 0xDBFF < first then .ok (Char.ofNat first, 4)
  else
    escapeMark Ascii.backslash (s.drop 4)
    escapeMark Ascii.lowerU (s.drop 5)
    let second ← hexUnit (s.drop 6)
    if 0xDC00 ≤ second ∧ second ≤ 0xDFFF then
      .ok (Char.ofNat (0x10000 + (first - 0xD800) * 0x400 + (second - 0xDC00)), 10)
    else .error (.here .loneSurrogate (s.drop 10))

/-- The characters of the one-letter escapes. -/
def shortEscape? (b : UInt8) : Option Char :=
  match b with
  | Ascii.quote => some '"'
  | Ascii.backslash => some '\\'
  | Ascii.slash => some '/'
  | Ascii.lowerB => some '\x08'
  | Ascii.lowerF => some '\x0C'
  | Ascii.lowerN => some '\n'
  | Ascii.lowerR => some '\r'
  | Ascii.lowerT => some '\t'
  | _ => none

/-- What follows a backslash, with the number of bytes taken. -/
def escape : Bytes → Except Fault (Char × Nat)
  | [] => .error (.here .endInString [])
  | b :: rest =>
    if b = Ascii.lowerU then (unicodeEscape rest).map fun (c, n) => (c, n + 1)
    else
      match shortEscape? b with
      | some c => .ok (c, 1)
      | none => .error (.here .badEscape rest)

/-- Reads up to and including the closing quote, giving the bytes of the string's value; the first
`skip` bytes belong to an escape that has been dealt with. -/
def stringBytes : Nat → Bytes → Except Fault (Bytes × Bytes)
  | _, [] => .error (.here .endInString [])
  | skip + 1, _ :: rest => stringBytes skip rest
  | 0, b :: rest =>
    if b = Ascii.quote then .ok ([], rest)
    else if b = Ascii.backslash then
      match escape rest with
      | .error f => .error f
      | .ok (c, n) => (stringBytes n rest).map fun (bs, s) => (Utf8.encodeChar c ++ bs, s)
    else if b < Ascii.space then .error (.here .controlCharacter rest)
    else (stringBytes 0 rest).map fun (bs, s) => (b :: bs, s)

/-- Reads a string after its opening quote. Its value must be UTF-8; the place of a fault lies as
far before the end of the string as the first byte that is not lies before the end of the value. -/
def stringTail : Reader String := fun s => do
  let (value, rest) ← stringBytes 0 s
  match Utf8.decode value with
  | .ok cs => .ok (String.ofList cs, rest)
  | .error e => .error (.before .badUnicode (value.length - e.index) rest)

/-! ### Skipping -/

/-- Skips a string after its opening quote, checking its escapes but not its encoding. -/
def skipString : Nat → Bytes → Except Fault Bytes
  | _, [] => .error (.here .endInString [])
  | skip + 1, _ :: rest => skipString skip rest
  | 0, b :: rest =>
    if b = Ascii.quote then .ok rest
    else if b = Ascii.backslash then
      match rest with
      | [] => .error (.here .endInString [])
      | e :: more =>
        if e = Ascii.lowerU then
          match hexUnit more with
          | .error f => .error f
          | .ok _ => skipString 5 rest
        else if (shortEscape? e).isSome then skipString 1 rest
        else .error (.here .badEscape more)
    else if b < Ascii.space then .error (.here .controlCharacter (b :: rest))
    else skipString 0 rest

/-- Skips what follows the letter of an exponent. -/
def skipExponent (s : Bytes) : Except Fault Bytes :=
  let s :=
    match s with
    | Ascii.plus :: rest | Ascii.minus :: rest => rest
    | _ => s
  match s with
  | [] => .error (.here .badNumber [])
  | d :: rest =>
    if Ascii.isDigit d then .ok (rest.dropWhile Ascii.isDigit) else .error (.here .badNumber rest)

/-- Skips what follows the integer part of a number. -/
def skipNumberTail : Bytes → Except Fault Bytes
  | Ascii.point :: rest =>
    let after := rest.dropWhile Ascii.isDigit
    if after.length = rest.length then .error (.next .badNumber rest)
    else
      match after with
      | Ascii.lowerE :: more | Ascii.upperE :: more => skipExponent more
      | _ => .ok after
  | Ascii.lowerE :: rest | Ascii.upperE :: rest => skipExponent rest
  | s => .ok s

/-- Skips the digits of a number after its sign. -/
def skipUnsigned : Bytes → Except Fault Bytes
  | [] => .error (.here .badNumber [])
  | d :: rest =>
    if d = Ascii.zero then
      match rest with
      | c :: _ => if Ascii.isDigit c then .error (.next .badNumber rest) else skipNumberTail rest
      | [] => .ok []
    else if Ascii.isDigit d then skipNumberTail (rest.dropWhile Ascii.isDigit)
    else .error (.here .badNumber rest)

/-- An array or an object that has been opened and not yet closed. -/
inductive Frame where
  | array
  | object
  deriving DecidableEq, Repr

def Frame.close : Frame → UInt8
  | .array => Ascii.closeBracket
  | .object => Ascii.closeBrace

def Frame.endReason : Frame → Reason
  | .array => .endInList
  | .object => .endInObject

def Frame.separatorReason : Frame → Reason
  | .array => .listEndExpected
  | .object => .objectEndExpected

/-- Skips a member's name and the colon after it. -/
def skipKey (s : Bytes) : Except Fault Bytes :=
  match skipSpace s with
  | [] => .error (.next .endInObject [])
  | b :: rest =>
    if b = Ascii.quote then
      match skipString 0 rest with
      | .error f => .error f
      | .ok rest =>
        match skipSpace rest with
        | [] => .error (.next .endInObject [])
        | c :: after =>
          if c = Ascii.colon then .ok after else .error (.next .colonExpected (c :: after))
    else .error (.next .keyNotString (b :: rest))

/-- Skips to the value of the next item or member. -/
def Frame.enter : Frame → Bytes → Except Fault Bytes
  | .array, s => .ok s
  | .object, s => skipKey s

/-- A value that is not an array or an object. -/
def skipScalar (b : UInt8) (rest : Bytes) : Except Fault Bytes :=
  match b with
  | Ascii.lowerN => name nullTail rest
  | Ascii.lowerT => name trueTail rest
  | Ascii.lowerF => name falseTail rest
  | Ascii.minus => skipUnsigned rest
  | Ascii.quote => skipString 0 rest
  | _ =>
    if Ascii.isDigit b then skipUnsigned (b :: rest) else .error (.next .valueExpected (b :: rest))

/-- Skips a value (`true`) or what may follow one (`false`) inside the frames that are open, until
none is. Every round takes a byte, so as many rounds as there are bytes are enough. -/
def skipFrames : Nat → Bool → List Frame → Bytes → Except Fault Bytes
  | 0, _, _, s => .error (.here .endInValue s)
  | _ + 1, false, [], s => .ok s
  | fuel + 1, false, frame :: frames, s =>
    match skipSpace s with
    | [] => .error (.next frame.endReason [])
    | b :: rest =>
      if b = Ascii.comma then
        match frame.enter rest with
        | .error f => .error f
        | .ok rest => skipFrames fuel true (frame :: frames) rest
      else if b = frame.close then skipFrames fuel false frames rest
      else .error (.next frame.separatorReason (b :: rest))
  | fuel + 1, true, frames, s =>
    match skipSpace s with
    | [] => .error (.next .endInValue [])
    | b :: rest =>
      if b = Ascii.openBracket ∨ b = Ascii.openBrace then
        let frame := if b = Ascii.openBracket then Frame.array else Frame.object
        match skipSpace rest with
        | [] => .error (.next frame.endReason [])
        | c :: after =>
          if c = frame.close then skipFrames fuel false frames after
          else
            match frame.enter (c :: after) with
            | .error f => .error f
            | .ok rest => skipFrames fuel true (frame :: frames) rest
      else
        match skipScalar b rest with
        | .error f => .error f
        | .ok rest => skipFrames fuel false frames rest

/-- Skips one value of any kind, nested to any depth. -/
def skipValue (s : Bytes) : Except Fault Bytes := skipFrames (s.length + 2) true [] s

end StoreClient.Json
