import Gatehouse.Idna.Direction
import Gatehouse.Idna.Mapping

/-!
Text between quotation marks, as messages show it: what cannot be seen on its own is escaped.
-/

namespace Gatehouse.Text

/-- Characters that no name may hold and that can be seen. -/
def seenRanges : List Range := Range.ofTable
  "34F 115F-1160 17B4-17B5 180B-180D 180F 2024-2026 2488-249B 2FF0-2FFF 3164 31EF 33C2 33C7 33D8
   FE00-FE0F FE12 FE19 FE30 FE52 FFA0 FFFC-FFFD 1F100 E0100-E01EF"

/-- Characters that names may hold and that cannot be seen. -/
def unseenRanges : List Range :=
  Range.ofTable "0-1F 7F-A0 2000-200A 200C-200D 202F 205F 3000"

/-- Characters that extend the one before them, besides the marks that take no place of their own. -/
def extendingRanges : List Range := Range.ofTable
  "9BE 9D7 B3E B57 BBE BD7 CC0 CC2 CC7-CC8 CCA-CCB CD5-CD6 D3E D57 DCF DDF 1715 1734 1B35 1B3B
   1B3D 1B43-1B44 1BAA 1BF2-1BF3 302E-302F A953 A9C0 FF9E-FF9F 111C0 11235 1133E 1134D 11357 113B8
   113C2 113C5 113C7-113C9 113CF 114B0 114BD 115AF 116B6 11930 1193D 11F41 16FF0-16FF1 1D165-1D166
   1D16D-1D172"

/-- Whether a character can be seen. A character that a name may hold, or that stands for others there, can
mostly be seen. -/
def isSeen (c : Char) : Bool :=
  within seenRanges c ||
    (!within unseenRanges c && (Idna.mapped? c).isSome && !within Idna.ignoredRanges c)

def isExtending (c : Char) : Bool := within Idna.nonspacingRanges c || within extendingRanges c

def quotedChar (c : Char) : Text :=
  match c with
  | '\x00' => "\\0"
  | '\t' => "\\t"
  | '\r' => "\\r"
  | '\n' => "\\n"
  | '"' => "\\\""
  | '\\' => "\\\\"
  | _ =>
    if isExtending c || !isSeen c then "\\u\x7b" ++ Nat.toDigits 16 c.toNat ++ "\x7d" else [c]

def quoted (t : Text) : Text := '"' :: t.flatMap quotedChar ++ "\""

end Gatehouse.Text
