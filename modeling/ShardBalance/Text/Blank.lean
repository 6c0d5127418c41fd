/-!
Blank characters, those with the Unicode property `White_Space`, and their removal at the ends of a text.
-/

namespace ShardBalance.Text

def isBlank (c : Char) : Bool :=
  let n := c.toNat
  n = 0x20 || (0x09 ≤ n && n ≤ 0x0d) || n = 0x85 || n = 0xa0 || n = 0x1680 ||
    (0x2000 ≤ n && n ≤ 0x200a) || n = 0x2028 || n = 0x2029 || n = 0x202f || n = 0x205f || n = 0x3000

def dropEndWhile (p : Char → Bool) (s : List Char) : List Char := (s.reverse.dropWhile p).reverse

def trim (s : List Char) : List Char := dropEndWhile isBlank (s.dropWhile isBlank)

example : trim " a b\u3000\n".toList = "a b".toList := by decide +kernel

end ShardBalance.Text
