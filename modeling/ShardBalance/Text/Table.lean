import ShardBalance.Text.Hex

/-!
Tables of characters, written as words between blanks. Characters are given by their numbers in hexadecimal.
-/

namespace ShardBalance.Text

structure Span where
  first : Nat
  last : Nat
  deriving DecidableEq, Repr

def Span.contains (r : Span) (c : Char) : Bool := r.first ≤ c.toNat && c.toNat ≤ r.last

namespace Table

def words (s : String) : List (List Char) :=
  (s.toList.splitOnP fun c => c = ' ' || c = '\n').filter (!·.isEmpty)

def number (s : List Char) : Nat := (hexNumber? s).getD 0

/-- The characters of words such as `31b` and `300-314`. -/
def spans (s : String) : List Span :=
  (words s).map fun w =>
    let first := w.takeWhile (· ≠ '-')
    let last := w.drop (first.length + 1)
    ⟨number first, number (if last.isEmpty then first else last)⟩

/-- The characters of a text such as `41.300`. -/
def characters (s : List Char) : List Char := (s.splitOn '.').map fun n => Char.ofNat (number n)

/-- What one word assigns to characters: `c0:41.300,41.301` two texts to a character and the next one,
`2460-2468:31` consecutive characters to consecutive ones,
and `460-480/2:461` the same to every second one. -/
def assigned (word : List Char) : List (Char × List Char) :=
  let head := word.takeWhile (· ≠ ':')
  let texts := word.drop (head.length + 1)
  let first := head.takeWhile (· ≠ '-')
  let most := (head.drop (first.length + 1)).takeWhile (· ≠ '/')
  let start := number first
  if most.isEmpty then
    (texts.splitOn ',').mapIdx fun i t => (Char.ofNat (start + i), characters t)
  else
    let step := if head.contains '/' then 2 else 1
    (List.range ((number most - start) / step + 1)).map fun i =>
      (Char.ofNat (start + step * i), [Char.ofNat (number texts + step * i)])

def assignments (s : String) : List (Char × List Char) := (words s).flatMap assigned

example : spans "300-314 31b" = [⟨0x300, 0x314⟩, ⟨0x31b, 0x31b⟩] := by decide +kernel

example : assignments "c0:41.300,41.301 460-462/2:461" =
    [('À', ['A', '\u0300']), ('Á', ['A', '\u0301']), ('Ѡ', ['ѡ']), ('Ѣ', ['ѣ'])] := by decide +kernel

end Table
end ShardBalance.Text
