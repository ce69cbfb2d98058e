import Gatehouse.Idna.Compose
import Gatehouse.Idna.Direction
import Gatehouse.Idna.JoiningTable

/-!
The two characters that ask for letters to be joined or kept apart (RFC 5892, appendix A): where they make
a difference in writing, and so may stand in a label.
-/

namespace Gatehouse.Idna

open Text

def nextJoining : List Range := Range.ofTable leftJoiningText ++ Range.ofTable dualJoiningText

def previousJoining : List Range := Range.ofTable rightJoiningText ++ Range.ofTable dualJoiningText

def isTransparent (c : Char) : Bool := within nonspacingRanges c || c.toNat == 0x1E94B

def nonJoiner : Char := '\u200c'

def joiner : Char := '\u200d'

/-- The class of the marks that silence the vowel of a consonant. -/
def silencerClass : Nat := 9

/-- Whether a joiner or non-joiner may stand between two texts, the first of which is read backwards: after
a mark that silences a vowel, or, for a non-joiner, between letters that would join. -/
def joinerFits (c : Char) (before after : Text) : Bool :=
  before.head?.any (fun p => markClass p == silencerClass) ||
    (c == nonJoiner && (before.dropWhile isTransparent).head?.any (within nextJoining) &&
      (after.dropWhile isTransparent).head?.any (within previousJoining))

/-- Whether all joiners of a text fit, where `before` stands in front of it and is read backwards. -/
def joinersFit (before : Text) : Text → Bool
  | [] => true
  | c :: rest =>
    ((c != nonJoiner && c != joiner) || joinerFits c before rest) && joinersFit (c :: before) rest

end Gatehouse.Idna
