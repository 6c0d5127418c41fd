import ShardBalance.Text.Hex
import ShardBalance.Toml.Basic

/-!
Numbers and dates in TOML.
-/

namespace ShardBalance.Toml

/-- Digits, with single underscores between them, the underscores left out. -/
def groupedDigits? (isDigit : Char → Bool) (s : List Char) : Option (List Char) :=
  let groups := s.splitOn '_'
  if groups.all fun g => !g.isEmpty && g.all isDigit then some groups.flatten else none

def isOctal (c : Char) : Bool := '0' ≤ c && c ≤ '7'

def isBinary (c : Char) : Bool := c = '0' || c = '1'

def valueIn (base : Nat) (digits : List Char) : Nat :=
  digits.foldl (fun n c => n * base + (Text.hexValue? c).getD 0) 0

def inRange? (n : Int) : Option Int :=
  if Int64.minValue.toInt ≤ n ∧ n ≤ Int64.maxValue.toInt then some n else none

def decimal? (s : List Char) : Option (List Char) := do
  let digits ← groupedDigits? Char.isDigit s
  if digits.head? = some '0' ∧ digits ≠ ['0'] then none else some digits

def splitSign : List Char → Bool × List Char
  | '-' :: s => (true, s)
  | '+' :: s => (false, s)
  | s => (false, s)

def integer? (s : List Char) : Option Int :=
  match s with
  | '0' :: 'x' :: s => (groupedDigits? Text.isHex s).bind fun d => inRange? (valueIn 16 d)
  | '0' :: 'o' :: s => (groupedDigits? isOctal s).bind fun d => inRange? (valueIn 8 d)
  | '0' :: 'b' :: s => (groupedDigits? isBinary s).bind fun d => inRange? (valueIn 2 d)
  | s => do
    let (negative, s) := splitSign s
    let n : Int := valueIn 10 (← decimal? s)
    inRange? (if negative then -n else n)

/-- Whether a text is a number with a point or an exponent, or one of the names `inf` and `nan`. -/
def isFloat (s : List Char) : Bool :=
  let s := (splitSign s).2
  if s = "inf".toList ∨ s = "nan".toList then true
  else
    let isExponent (c : Char) : Bool := c = 'e' || c = 'E'
    let mantissa := s.takeWhile (!isExponent ·)
    let exponent := s.drop mantissa.length
    let whole := mantissa.takeWhile (· != '.')
    let fraction := mantissa.drop whole.length
    let digits (s : List Char) : Bool := (groupedDigits? Char.isDigit s).isSome
    (decimal? whole).isSome && (fraction.isEmpty || digits (fraction.drop 1)) &&
      (exponent.isEmpty || digits (splitSign (exponent.drop 1)).2) &&
      !(fraction.isEmpty && exponent.isEmpty)

/-- Whether a number with a point or an exponent is too large for a float: from half a step above the largest
float on. A negative one never is. -/
def overflows (s : List Char) : Bool :=
  let (negative, s) := splitSign (s.filter (· ≠ '_'))
  let isExponent (c : Char) : Bool := c = 'e' || c = 'E'
  let mantissa := s.takeWhile (!isExponent ·)
  let (lowers, exponent) := splitSign (s.drop (mantissa.length + 1))
  let digits := (mantissa.filter (· ≠ '.')).dropWhile (· = '0')
  let places := (mantissa.dropWhile (· ≠ '.')).length - 1
  let n : Int := valueIn 10 exponent
  let power := (if lowers then -n else n) - places
  let bound : Nat := 1 <<< 1024 - 1 <<< 970
  if negative || digits.isEmpty then false
  else if power + digits.length ≤ 308 then false
  else if 309 < power + digits.length then true
  else bound * Nat.pow 10 (-power).toNat ≤ valueIn 10 digits * Nat.pow 10 power.toNat

/-- A number of exactly `width` digits within bounds, and the rest. -/
def field? (width least most : Nat) (s : List Char) : Option (Nat × List Char) :=
  let digits := s.take width
  let n := valueIn 10 digits
  if digits.length = width ∧ digits.all Char.isDigit ∧ least ≤ n ∧ n ≤ most then some (n, s.drop width)
  else none

/-- The rest after a character that has to be there. -/
def expect? (p : Char → Bool) : List Char → Option (List Char)
  | c :: s => if p c then some s else none
  | [] => none

def daysIn (year month : Nat) : Nat :=
  if month = 2 then if year % 4 = 0 ∧ (year % 100 ≠ 0 ∨ year % 400 = 0) then 29 else 28
  else if month = 4 ∨ month = 6 ∨ month = 9 ∨ month = 11 then 30
  else 31

def dateRest? (s : List Char) : Option (List Char) := do
  let (year, s) ← field? 4 0 9999 s
  let (month, s) ← field? 2 1 12 (← expect? (· == '-') s)
  let (_, s) ← field? 2 1 (daysIn year month) (← expect? (· == '-') s)
  return s

def timeRest? (s : List Char) : Option (List Char) := do
  let (_, s) ← field? 2 0 23 s
  let (_, s) ← field? 2 0 59 (← expect? (· == ':') s)
  let (_, s) ← field? 2 0 60 (← expect? (· == ':') s)
  match s with
  | '.' :: s =>
    let digits := s.takeWhile Char.isDigit
    if digits.isEmpty then none else some (s.drop digits.length)
  | s => some s

/-- The rest after an offset from universal time, if there is one. -/
def offsetRest? : List Char → Option (List Char)
  | [] => some []
  | c :: s =>
    if c = 'Z' ∨ c = 'z' then some s
    else if c = '+' ∨ c = '-' then do
      let (_, s) ← field? 2 0 23 s
      let (_, s) ← field? 2 0 59 (← expect? (· == ':') s)
      return s
    else none

def isDate (s : List Char) : Bool :=
  timeRest? s == some [] ||
    match dateRest? s with
    | some [] => true
    | some (c :: s) =>
      (c = 'T' || c = 't' || c = ' ') && ((timeRest? s).bind offsetRest?) == some []
    | none => false

def isWordChar (c : Char) : Bool := c.isAlphanum || c = '_' || c = '+' || c = '-' || c = '.' || c = ':'

def wordValue? (w : List Char) : Option Toml :=
  if w = "true".toList then some (.bool true)
  else if w = "false".toList then some (.bool false)
  else if isDate w then some .date
  else if isFloat w then (if overflows w then none else some .float)
  else (integer? w).map .integer

/-- A value that is no text and no container. A date and a time of day may be two words. -/
def word? : Reader Toml := fun s =>
  let first := s.takeWhile isWordChar
  let rest := s.drop first.length
  let second := (rest.drop 1).takeWhile isWordChar
  if (dateRest? first) = some [] ∧ rest.head? = some ' ' ∧ isDate (first ++ ' ' :: second) then
    some (.date, rest.drop (1 + second.length))
  else (wordValue? first).map (·, rest)

end ShardBalance.Toml
