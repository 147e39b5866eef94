import StoreClient.Text.CharSet
import StoreClient.Url.Host.DirectionTable

/-!
Direction of writing. In a domain with a label that is written from right to left every label must
be shown the same way whatever surrounds it: it keeps to one direction from its first character to
its last.
-/

namespace StoreClient.Url.Domain

/-- How a character is placed in a line. -/
inductive Direction where
  | left
  | right
  | europeanNumber
  | arabicNumber
  /-- A nonspacing mark, which goes with the character before it. -/
  | mark
  /-- A character that follows its surroundings. -/
  | neutral
  deriving DecidableEq, Repr

def asciiDirection (c : Char) : Direction :=
  if c.isAlpha then .left else if c.isDigit then .europeanNumber else .neutral

def direction (c : Char) : Direction :=
  let n := c.toNat
  if n < 0x80 then asciiDirection c
  else if CharSet.inRuns leftMarkRanges n then .left
  else if CharSet.isNonspacing c then .mark
  else if CharSet.inRuns rightRanges n then .right
  else if CharSet.inRuns arabicNumberRanges n then .arabicNumber
  else if CharSet.inRuns europeanNumberRanges n then .europeanNumber
  else if CharSet.inRuns neutralRanges n then .neutral
  else .left

/-- Whether a character makes its domain one with labels written from right to left. -/
def Direction.isRightToLeft : Direction → Bool
  | .right | .arabicNumber => true
  | _ => false

/-- Whether the last character, marks apart, has one of the directions. -/
def endsIn (allowed label : List Direction) : Bool :=
  (label.reverse.find? (· ≠ .mark)).any allowed.elem

/-- Whether a label keeps to one direction. From left to right it begins with a letter, ends in a
letter or a number and has nothing of the other direction; from right to left it begins and ends
alike, has no letter of the other direction and no two kinds of numbers. -/
def keepsDirection (label : List Direction) : Bool :=
  match label with
  | [] => true
  | .left :: rest => !rest.any Direction.isRightToLeft && endsIn [.left, .europeanNumber] label
  | .right :: rest =>
    !rest.elem .left && !(rest.elem .europeanNumber && rest.elem .arabicNumber)
      && endsIn [.right, .europeanNumber, .arabicNumber] label
  | _ => false

/-- Whether all labels keep to one direction, if any has to. -/
def keepDirections (labels : List (List Char)) : Bool :=
  let labels := labels.map fun label => label.map direction
  !labels.any (·.any Direction.isRightToLeft) || labels.all keepsDirection

end StoreClient.Url.Domain
