import ShardBalance.Text.Direction
import ShardBalance.Text.Joining
import ShardBalance.Text.Mark
import ShardBalance.Text.Search
import ShardBalance.Url.Domain.Folding
import ShardBalance.Url.Punycode

/-!
The labels of domain names, as they are shown and as they are sent: a label with characters beyond ASCII is
sent in Punycode, and one given in Punycode is shown as what it stands for.
-/

namespace ShardBalance.Url.Domain

structure Label where
  shown : List Char
  sent : List Char
  deriving DecidableEq, Repr

namespace Label

/-- Makes the letters beside it join. -/
def joiner : Char := '\u200d'

/-- Keeps the letters beside it from joining. -/
def nonJoiner : Char := '\u200c'

/-- Whether the first character that is not transparent joins in one of the given ways. -/
def joins (ways : List Text.Joining) (s : List Char) : Bool :=
  ((s.map Text.joining).find? (· ≠ .transparent)).any (ways.contains ·)

/-- Whether joiners and non-joiners stand where they may: after a virama, and non-joiners also between letters
that would join. `before` is what stands before the text, backwards. -/
def joinersFit (before : List Char) : List Char → Bool
  | [] => true
  | c :: s =>
    (if c = joiner ∨ c = nonJoiner then
      before.head?.any Text.isVirama ||
        (c = nonJoiner && joins [.left, .dual] before && joins [.right, .dual] s)
    else true) && joinersFit (c :: before) s

/-- The most characters of a label that needs Punycode. -/
def maxLength : Nat := 1000

/-- The most characters after `xn--`. -/
def maxCodeLength : Nat := 2000

def isShowable (label : List Char) : Bool :=
  !label.head?.any Text.isMark && joinersFit [] label && label.length ≤ maxLength

def isAscii (s : List Char) : Bool := s.all (·.toNat < 0x80)

/-- What a label in Punycode stands for, given what follows `xn--` in it: a label that needs Punycode and is
already as names have it. -/
def decode? (s : List Char) : Option (List Char) := do
  guard (s.length ≤ maxCodeLength)
  let label ← Punycode.decode? s
  if !isAscii label && fold? label = some label && isShowable label then some label else none

def ofChars? (s : List Char) : Option Label :=
  match Text.after? "xn--".toList s with
  | some code => if isAscii s then (decode? code).map (⟨·, s⟩) else none
  | none =>
    if isAscii s then some ⟨s, s⟩
    else if isShowable s then some ⟨s, "xn--".toList ++ Punycode.encode s⟩
    else none

def runsLeft (label : Label) : Bool :=
  label.shown.any fun c => 0x80 ≤ c.toNat && [.right, .arabic, .arabicNumber].contains (Text.direction c)

/-- The directions of characters that may stand in any label. -/
def anywhere : List Text.Direction :=
  [.europeanNumber, .europeanSeparator, .europeanTerminator, .commonSeparator, .nonspacing, .boundary, .neutral]

/-- Whether characters take their directions from `strong` and `anywhere` and end, marks aside, in one of
`last`. -/
def keeps (strong last directions : List Text.Direction) : Bool :=
  directions.all (strong ++ anywhere).contains &&
    (directions.reverse.dropWhile (· = .nonspacing)).head?.any last.contains

/-- Whether a label looks the same beside labels of any direction: its first character sets the direction,
the others keep to it, it ends in a letter or a digit, and its digits are of one kind if it runs from right
to left. -/
def keepsDirection (label : Label) : Bool :=
  let all := label.shown.map Text.direction
  match all.head? with
  | none => true
  | some .left => keeps [.left] [.left, .europeanNumber] all
  | some .right | some .arabic =>
    keeps [.right, .arabic, .arabicNumber] [.right, .arabic, .europeanNumber, .arabicNumber] all &&
      !(all.contains .europeanNumber && all.contains .arabicNumber)
  | some _ => false

end Label
end ShardBalance.Url.Domain
