import StoreClient.Text.CharSet.Word
import StoreClient.Text.CharSet.Unprintable
import StoreClient.Text.CharSet.Extender
import StoreClient.Text.CharSet.Mark

/-!
Sets of characters that the text formats refer to. ASCII is decided by arithmetic; beyond ASCII a
set is a list of runs of code points.
-/

namespace StoreClient.CharSet

def inRuns (runs : List (Nat × Nat)) (n : Nat) : Bool :=
  runs.any fun run => run.1 ≤ n && n ≤ run.2

/-- Characters of a placeholder's name: letters, marks, digits, connectors and joiners. -/
def isWord (c : Char) : Bool :=
  if c.toNat < 0x80 then c.isAlphanum || c == '_' else inRuns wordRanges c.toNat

/-- Characters that attach to the one before them. -/
def isExtender (c : Char) : Bool :=
  0x80 ≤ c.toNat && inRuns extenderRanges c.toNat

/-- Characters that stand for themselves when a text is shown. -/
def isPrintable (c : Char) : Bool :=
  if c.toNat < 0x80 then 0x20 ≤ c.toNat && c.toNat < 0x7F
  else !inRuns unprintableRanges c.toNat

/-- Marks that take up no room of their own. -/
def isNonspacing (c : Char) : Bool :=
  0x80 ≤ c.toNat && inRuns nonspacingRanges c.toNat

/-- Combining marks of any kind. -/
def isMark (c : Char) : Bool :=
  isNonspacing c || (0x80 ≤ c.toNat && inRuns spacingMarkRanges c.toNat)

end StoreClient.CharSet
