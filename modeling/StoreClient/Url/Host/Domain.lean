import StoreClient.Text.Canonical
import StoreClient.Text.CharSet
import StoreClient.Url.Host.Direction
import StoreClient.Url.Host.DomainTable
import StoreClient.Url.Host.Ipv4
import StoreClient.Url.Host.Joiner
import StoreClient.Url.Host.Punycode

/-!
Domains: labels set off by points, in lower case and in ASCII. A label with other characters is
spelled in ASCII, and what it spells must be a label that is worth its spelling.
-/

namespace StoreClient.Url.Domain

/-- ASCII characters that no domain holds. -/
def isForbidden (c : Char) : Bool :=
  c.toNat ≤ 0x20 || c.toNat = 0x7F ||
    ['#', '%', '/', ':', '<', '>', '?', '@', '[', '\\', ']', '^', '|'].elem c

/-- ASCII characters that a label in lower case may hold. -/
def isAsciiLabelChar (c : Char) : Bool := c.toNat < 0x80 && !isForbidden c && !c.isUpper

/-- Characters that a label may hold when it is not spelled in ASCII. -/
def isLabelChar (c : Char) : Bool :=
  let n := c.toNat
  if n < 0x80 then isAsciiLabelChar c
  else if n < 0x2000 then CharSet.inRuns lowLabelRanges n
  else if n < 0x10000 then isJoiner c || CharSet.inRuns midLabelRanges n
  else CharSet.inRuns highLabelRanges n

/-- Whether a decoded label is worth its spelling: it has a character beyond ASCII, all of its
characters are allowed, it is composed, it does not begin with a mark, and every joiner is in its
place. -/
def isDecodedLabel (label : List Char) : Bool :=
  label.any (0x80 ≤ ·.toNat) && label.all isLabelChar && Canonical.isComposed label
    && !(label.head?.any CharSet.isMark) && joinersPlaced [] label

/-- How many characters a spelling may have, and how many what it spells. -/
def maxSpelling : Nat := 2000
def maxDecoded : Nat := 1000

/-- The label that a label in lower case stands for, if it is well formed. -/
def decodeLabel? : List Char → Option (List Char)
  | 'x' :: 'n' :: '-' :: '-' :: spelling => do
    guard (spelling.length ≤ maxSpelling)
    let label ← Punycode.decode? spelling
    guard (label.length ≤ maxDecoded)
    guard (isDecodedLabel label)
    return label
  | label => if label.all isAsciiLabelChar then some label else none

def parse? (text : List Char) : Option (List Char) := do
  let name := text.map Char.toLower
  let labels ← (splitAtChar '.' name).mapM decodeLabel?
  guard (keepDirections labels)
  return name

end StoreClient.Url.Domain
