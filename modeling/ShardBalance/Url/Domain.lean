import ShardBalance.Url.Domain.Label
import ShardBalance.Url.Percent

/-!
Domain names as they are looked up, in ASCII.
-/

namespace ShardBalance.Url.Domain

def isForbidden (c : Char) : Bool :=
  c.toNat ≤ 0x20 || c.toNat = 0x7f ||
    ['%', '#', '/', ':', '<', '>', '?', '@', '[', '\\', ']', '^', '|'].contains c

/-- The name that a text stands for, percent-encoded bytes decoded. Where one label runs from right to left
all labels have to keep their direction. -/
def ofChars? (s : List Char) : Option (List Char) := do
  let folded ← fold? (← Percent.decode? s)
  guard (!folded.any isForbidden)
  let labels ← (folded.splitOn '.').mapM Label.ofChars?
  guard (!labels.any Label.runsLeft || labels.all Label.keepsDirection)
  return List.intercalate ['.'] (labels.map Label.sent)

end ShardBalance.Url.Domain
