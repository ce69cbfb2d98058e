import Gatehouse.Idna.DirectionTable
import Gatehouse.Idna.MarkTable
import Gatehouse.Text.Range

/-!
Labels of scripts that run from right to left (RFC 5893): which characters may stand together in one, so
that it is shown as one piece wherever it stands.
-/

namespace Gatehouse.Idna

open Text

/-- How a character behaves where text runs in both directions. -/
inductive Direction where
  | left
  | right
  | arabic
  | arabicDigit
  | europeanDigit
  | sign
  | separator
  | unit
  | neutral
  | boundary
  | mark
  | other
  deriving DecidableEq

def nonspacingRanges : List Range := Range.ofTable nonspacingText

def spacingRanges : List Range := Range.ofTable spacingText

def isMark (c : Char) : Bool := within nonspacingRanges c || within spacingRanges c

/-- Marks that take no place of their own and yet behave as letters from left to right. -/
def letterLikeRanges : List Range := Range.ofTable "CBF CC6 11A07-11A08 11C3F"

/-- The characters that are not letters from left to right, marks apart. -/
def directionTable : List (Direction × List Range) :=
  [(.right, Range.ofTable rightText), (.arabic, Range.ofTable arabicText),
   (.arabicDigit, Range.ofTable arabicDigitText), (.europeanDigit, Range.ofTable europeanDigitText),
   (.sign, Range.ofTable signText), (.separator, Range.ofTable separatorText),
   (.unit, Range.ofTable unitText), (.neutral, Range.ofTable neutralText),
   (.boundary, Range.ofTable boundaryText), (.other, Range.ofTable otherText)]

def direction (c : Char) : Direction :=
  if within nonspacingRanges c then if within letterLikeRanges c then .left else .mark
  else ((directionTable.find? fun e => within e.2 c).map (·.1)).getD .left

namespace Direction

/-- Whether a character runs from right to left; one of them makes the rules apply. -/
def isRightward (d : Direction) : Bool := d == right || d == arabic || d == arabicDigit

def isCommon (d : Direction) : Bool :=
  d == europeanDigit || d == sign || d == separator || d == unit || d == neutral || d == boundary || d == mark

/-- What may end a label from left to right, marks apart. -/
def endsLeft (d : Direction) : Bool := d == left || d == europeanDigit

/-- What may end a label from right to left, marks apart. -/
def endsRight (d : Direction) : Bool := isRightward d || d == europeanDigit

end Direction

def lastDirection? (ds : List Direction) : Option Direction := (ds.filter (· != .mark)).getLast?

/-- Whether a label may stand in a name with characters from right to left. It starts with a letter, which
tells its direction, keeps to that direction, and ends in a letter or a digit; digits of two kinds do not
mix. -/
def keepsDirection (label : Text) : Bool :=
  match label.map direction with
  | [] => true
  | .left :: rest =>
    rest.all (fun d => d == .left || d.isCommon) && (lastDirection? rest).all (·.endsLeft)
  | first :: rest =>
    (first == .right || first == .arabic) &&
      rest.all (fun d => d.isRightward || d.isCommon) && (lastDirection? rest).all (·.endsRight) &&
      !(rest.contains .europeanDigit && rest.contains .arabicDigit)

/-- Whether the labels of a name may stand together: if a character runs from right to left, all of them
must keep their directions. -/
def directionsFit (labels : List Text) : Bool :=
  !(labels.any fun l => l.any fun c => (direction c).isRightward) || labels.all keepsDirection

end Gatehouse.Idna
