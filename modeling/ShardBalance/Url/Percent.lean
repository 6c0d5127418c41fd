import ShardBalance.Text.Hex

/-!
Percent-encoding. Each part of a URL has its own characters that are encoded; those beyond ASCII always are.
-/

namespace ShardBalance.Url.Percent

def hexDigit (n : Nat) : Char := n.digitChar.toUpper

def encodeByte (b : UInt8) : List Char := ['%', hexDigit (b.toNat / 16), hexDigit (b.toNat % 16)]

def isControl (c : Char) : Bool := c.toNat < 0x20 || 0x7f ≤ c.toNat

def inFragment (c : Char) : Bool := isControl c || [' ', '"', '<', '>', '\x60'].contains c

def inQuery (special : Bool) (c : Char) : Bool :=
  isControl c || [' ', '"', '#', '<', '>'].contains c || (special && c == '\'')

def inPath (c : Char) : Bool := inFragment c || ['#', '?', '\x7b', '\x7d'].contains c

/-- What is encoded in a path segment that is given by itself, not as part of a path. -/
def inSegment (special : Bool) (c : Char) : Bool :=
  inPath c || c == '/' || c == '%' || (special && c == '\\')

def inUserinfo (c : Char) : Bool :=
  inPath c || ['/', ':', ';', '=', '@', '[', '\\', ']', '^', '|'].contains c

def encodeChar (p : Char → Bool) (c : Char) : List Char :=
  if p c then (String.utf8EncodeChar c).flatMap encodeByte else [c]

def encode (p : Char → Bool) (s : List Char) : List Char := s.flatMap (encodeChar p)

/-- The bytes of a text, where a percent sign and two hexadecimal digits stand for one byte. -/
def decodeBytes : List Char → List UInt8
  | '%' :: a :: b :: rest =>
    match Text.hexNumber? [a, b] with
    | some n => UInt8.ofNat n :: decodeBytes rest
    | none => String.utf8EncodeChar '%' ++ decodeBytes (a :: b :: rest)
  | c :: rest => String.utf8EncodeChar c ++ decodeBytes rest
  | [] => []

/-- The text encoded in another, if its bytes are one. -/
def decode? (s : List Char) : Option (List Char) :=
  (String.fromUTF8? (decodeBytes s).toByteArray).map String.toList

end ShardBalance.Url.Percent
