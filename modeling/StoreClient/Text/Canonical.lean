import StoreClient.Text.Canonical.CombiningClass
import StoreClient.Text.Canonical.Composite

/-!
Canonical composition. Some texts mean the same although they are spelled differently: a letter with
an accent is one character or two, and marks on different sides of a letter come in any order. Of
all spellings one is composed: it is what remains when a text is taken apart, its marks are put in
order and whatever can be composed is. Texts are lists of code points here.
-/

namespace StoreClient.Canonical

/-- The class of a code point; a starter, to which marks attach, has class zero. -/
def combiningClass (n : Nat) : Nat :=
  match combiningClassRuns.find? fun run => run.1 ≤ n && n ≤ run.2.1 with
  | some run => run.2.2
  | none => 0

/-! ### Hangul -/

/-- A syllable of Hangul is two or three letters: `n` is one if it lies in their block. -/
def isSyllable (n : Nat) : Bool := 0xAC00 ≤ n && n < 0xD7A4

/-- A syllable as a syllable of two letters with a third, or as two letters. -/
def splitSyllable (n : Nat) : Nat × Nat :=
  let i := n - 0xAC00
  if i % 28 = 0 then (0x1100 + i / 588, 0x1161 + i / 28 % 21)
  else (n - i % 28, 0x11A7 + i % 28)

/-- The syllable that two letters make, or a syllable of two letters and a third. -/
def joinSyllable? (a b : Nat) : Option Nat :=
  if 0x1100 ≤ a ∧ a < 0x1113 ∧ 0x1161 ≤ b ∧ b < 0x1176 then
    some (0xAC00 + ((a - 0x1100) * 21 + (b - 0x1161)) * 28)
  else if isSyllable a ∧ (a - 0xAC00) % 28 = 0 ∧ 0x11A7 < b ∧ b < 0x11C3 then
    some (a + (b - 0x11A7))
  else none

/-! ### Taking apart and composing -/

/-- The two code points that a composite stands for. -/
def split? (n : Nat) : Option (Nat × Nat) :=
  if isSyllable n then some (splitSyllable n)
  else (compositeTable.find? (·.1 = n)).map (·.2)

def join? (a b : Nat) : Option Nat :=
  match joinSyllable? a b with
  | some n => some n
  | none => (compositeTable.find? fun entry => entry.2 = (a, b)).map (·.1)

/-- How often a code point can be split, one part after another. -/
def maxDepth : Nat := 4

/-- A code point taken apart, in no more than `depth` steps. -/
def decomposeWithin : Nat → Nat → List Nat
  | 0, n => [n]
  | depth + 1, n =>
    match split? n with
    | some (a, b) => decomposeWithin depth a ++ [b]
    | none => [n]

/-- A text taken apart. -/
def decompose (text : List Nat) : List Nat := text.flatMap (decomposeWithin maxDepth)

/-- Puts a code point behind a text that is given backwards, before the marks of higher class. -/
def insertMark (n : Nat) : List Nat → List Nat
  | [] => [n]
  | m :: rest =>
    if 0 < combiningClass n ∧ combiningClass n < combiningClass m then m :: insertMark n rest
    else n :: m :: rest

/-- A text with the marks behind each starter ordered by class, and those of one class as they
were. -/
def order (text : List Nat) : List Nat :=
  (text.foldl (fun done n => insertMark n done) []).reverse

/-- Composes a starter with what follows it. `skipped`, given backwards, are the marks between them
that stay; a mark is kept from the starter by one of its own class. -/
def composeFrom (starter : Nat) (skipped : List Nat) : List Nat → List Nat
  | [] => starter :: skipped.reverse
  | n :: rest =>
    let blocked := skipped.head?.any fun m => combiningClass n ≤ combiningClass m
    match if blocked then none else join? starter n with
    | some composite => composeFrom composite skipped rest
    | none =>
      if combiningClass n = 0 then starter :: skipped.reverse ++ composeFrom n [] rest
      else composeFrom starter (n :: skipped) rest

/-- A text that has been taken apart and ordered, composed. -/
def compose : List Nat → List Nat
  | [] => []
  | n :: rest => composeFrom n [] rest

/-- The composed spelling of a text. -/
def normalize (text : List Nat) : List Nat := compose (order (decompose text))

def isComposed (text : List Char) : Bool :=
  let codes := text.map Char.toNat
  normalize codes == codes

end StoreClient.Canonical
