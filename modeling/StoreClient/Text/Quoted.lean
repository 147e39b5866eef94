import StoreClient.Text.CharSet

/-!
Texts shown between double quotes: quotes, backslashes and line breaks are escaped, and whatever
would not be seen, or would attach to the character before it, is shown by its code point.
-/

namespace StoreClient.Quoted

/-- A code point as `\u`, braces and lower-case hexadecimal digits. -/
def codePoint (c : Char) : List Char :=
  ['\\', 'u', '\x7b'] ++ Nat.toDigits 16 c.toNat ++ ['\x7d']

def escapeChar (c : Char) : List Char :=
  if c = '"' ∨ c = '\\' then ['\\', c]
  else if c = '\n' then ['\\', 'n']
  else if c = '\r' then ['\\', 'r']
  else if c = '\t' then ['\\', 't']
  else if c.toNat = 0 then ['\\', '0']
  else if CharSet.isExtender c || !CharSet.isPrintable c then codePoint c
  else [c]

/-- A text between quotes. -/
def quote (s : String) : String :=
  String.ofList ('"' :: s.toList.flatMap escapeChar ++ ['"'])

/-- Texts between quotes, separated by commas in square brackets. -/
def quoteList (ss : List String) : String :=
  "[" ++ ", ".intercalate (ss.map quote) ++ "]"

end StoreClient.Quoted
