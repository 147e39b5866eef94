import StoreClient.Text.Canonical
import StoreClient.Text.CharSet
import StoreClient.Url.Host.JoiningTable

/-!
Joiners: two characters that cannot be seen and tell the letters around them to join or not to. A
label may hold them only where they make a difference: after a sign that silences a vowel, and, to
keep letters apart, between letters that would join.
-/

namespace StoreClient.Url.Domain

/-- The joiner that keeps letters apart. -/
def nonJoiner : Char := '\u200C'

/-- The joiner that joins letters. -/
def joiner : Char := '\u200D'

def isJoiner (c : Char) : Bool := c == nonJoiner || c == joiner

/-- Signs that silence the vowel of the letter before them. -/
def isVirama (c : Char) : Bool := Canonical.combiningClass c.toNat = 9

/-- Marks that do not keep the letters around them from joining. -/
def isTransparent (c : Char) : Bool := CharSet.isNonspacing c || c.toNat == 0x1E94B

def joinsNext (c : Char) : Bool := CharSet.inRuns joinsNextRanges c.toNat

def joinsPrevious (c : Char) : Bool := CharSet.inRuns joinsPreviousRanges c.toNat

/-- Whether the joiner `c` makes a difference between what precedes it, given backwards, and what
follows it. -/
def isPlaced (before : List Char) (c : Char) (after : List Char) : Bool :=
  before.head?.any isVirama ||
    (c == nonJoiner && (before.find? (!isTransparent ·)).any joinsNext
      && (after.find? (!isTransparent ·)).any joinsPrevious)

/-- Whether every joiner of a text makes a difference; `before`, given backwards, precedes the
text. -/
def joinersPlaced (before : List Char) : List Char → Bool
  | [] => true
  | c :: rest => (!isJoiner c || isPlaced before c rest) && joinersPlaced (c :: before) rest

end StoreClient.Url.Domain
