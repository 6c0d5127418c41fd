/-!
JSON numbers as written. Whole numbers are read exactly, others to a float: the digits that fit into
64 bits are multiplied or divided by one power of ten.
-/

namespace ShardBalance.Json

structure Exponent where
  negative : Bool
  digits : List Char
  deriving DecidableEq, Repr

structure Numeral where
  negative : Bool
  whole : List Char
  /-- Digits after the point; none where there is no point. -/
  fraction : List Char
  exponent : Option Exponent
  deriving DecidableEq, Repr

namespace Numeral

def ofNat (n : Nat) : Numeral := ⟨false, Nat.toDigits 10 n, [], none⟩

/-- The number, if it is written without sign, point and exponent. -/
def nat? (n : Numeral) : Option Nat :=
  if n.negative ∨ n.fraction ≠ [] ∨ n.exponent.isSome then none else some (Nat.ofDigitChars 10 n.whole 0)

@[simp] theorem nat?_ofNat (n : Nat) : (ofNat n).nat? = some n := by
  simp [ofNat, nat?]

def chars (n : Numeral) : List Char :=
  (if n.negative then ['-'] else []) ++ n.whole ++
    (if n.fraction.isEmpty then [] else '.' :: n.fraction) ++
    match n.exponent with
    | none => []
    | some e => 'e' :: (if e.negative then ['-'] else []) ++ e.digits

def spanDigits (s : List Char) : List Char × List Char :=
  (s.takeWhile Char.isDigit, s.dropWhile Char.isDigit)

def readFraction : List Char → Option (List Char × List Char)
  | '.' :: s =>
    match spanDigits s with
    | ([], _) => none
    | found => some found
  | s => some ([], s)

def readSign : List Char → Bool × List Char
  | '-' :: s => (true, s)
  | '+' :: s => (false, s)
  | s => (false, s)

def readExponent : List Char → Option (Option Exponent × List Char)
  | c :: s =>
    if c = 'e' ∨ c = 'E' then
      let (negative, s) := readSign s
      match spanDigits s with
      | ([], _) => none
      | (digits, rest) => some (some ⟨negative, digits⟩, rest)
    else some (none, c :: s)
  | [] => some (none, [])

/-- The number at the head of a text; a leading zero stands alone before the point. -/
def readUnsigned (negative : Bool) (s : List Char) : Option (Numeral × List Char) := do
  let (whole, s) := spanDigits s
  guard (whole ≠ [] ∧ (whole.head? = some '0' → whole = ['0']))
  let (fraction, s) ← readFraction s
  let (exponent, s) ← readExponent s
  return (⟨negative, whole, fraction, exponent⟩, s)

def read? : List Char → Option (Numeral × List Char)
  | '-' :: s => readUnsigned true s
  | s => readUnsigned false s

/-- Digits gathered so far and the power of ten they are to be multiplied with. -/
structure Gathered where
  digits : Nat
  power : Int

/-- Adds digits while the number stays within 64 bits; `dropped` says what a digit beyond adds to the power. -/
def Gathered.add (g : Gathered) (kept dropped : Int) : List Char → Gathered
  | [] => g
  | c :: s =>
    let n := g.digits * 10 + (c.toNat - 48)
    if n < UInt64.size then Gathered.add ⟨n, g.power + kept⟩ kept dropped s
    else ⟨g.digits, g.power + dropped * (s.length + 1)⟩

def gathered (n : Numeral) : Gathered :=
  ((⟨0, 0⟩ : Gathered).add 0 1 n.whole).add (-1) 0 n.fraction

/-- `f` times ten to `power`, in steps of at most 308 places; none where that is too large. -/
def scale (f : Float) (power : Int) : Option Float :=
  if power.natAbs ≤ 308 then
    let ten := Float.ofScientific 1 false power.natAbs
    if power < 0 then some (f / ten)
    else if (f * ten).isInf then none else some (f * ten)
  else if f == 0 then some f
  else if power < 0 then scale (f / Float.ofScientific 1 false 308) (power + 308)
  else none
termination_by power.natAbs

/-- Exponents of at least this size are beyond all numbers. -/
def exponentLimit : Nat := 1 <<< 31

/-- The nearest float of the digits that fit, scaled; none where the number is too large. -/
def float? (n : Numeral) : Option Float := do
  let g := n.gathered
  let size ←
    match n.exponent with
    | none => scale (Float.ofNat g.digits) g.power
    | some e =>
      let shift := Nat.ofDigitChars 10 e.digits 0
      if shift < exponentLimit then
        scale (Float.ofNat g.digits) (if e.negative then g.power - shift else g.power + shift)
      else if e.negative ∨ g.digits = 0 then some 0
      else none
  return if n.negative then -size else size

end Numeral
end ShardBalance.Json
