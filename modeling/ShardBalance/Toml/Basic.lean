/-!
TOML values. Of numbers with a point and of dates nothing is kept but that they are such.
-/

namespace ShardBalance

inductive Toml where
  | text (s : String)
  | integer (n : Int)
  | bool (b : Bool)
  | float
  | date
  | array (items : List Toml)
  | table (entries : List (String × Toml))

namespace Toml

/-- What a parser finds at the head of a text, and the rest. -/
abbrev Reader (α : Type) := List Char → Option (α × List Char)

def isBlank (c : Char) : Bool := c = ' ' || c = '\t'

def skipBlank (s : List Char) : List Char := s.dropWhile isBlank

/-- Characters that may stand in comments and, quotes and backslashes aside, in texts. -/
def isPlain (c : Char) : Bool := c = '\t' || (0x20 ≤ c.toNat && c.toNat ≠ 0x7f)

/-- Ends of lines are written in one way. -/
def normalize : List Char → List Char
  | '\r' :: '\n' :: s => '\n' :: normalize s
  | c :: s => c :: normalize s
  | [] => []

end Toml
end ShardBalance
