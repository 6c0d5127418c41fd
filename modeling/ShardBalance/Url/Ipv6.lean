import ShardBalance.Text.Hex

/-!
Addresses of eight 16-bit pieces, one run of zeros among which may be left out.
-/

namespace ShardBalance.Url.Ipv6

/-- A byte in decimal digits without leading zeros, and what follows. -/
def byte? (s : List Char) : Option (Nat × List Char) :=
  let digits := s.takeWhile Char.isDigit
  let n := Nat.ofDigitChars 10 digits 0
  if digits = [] ∨ (digits.head? = some '0' ∧ digits ≠ ['0']) ∨ 255 < n then none
  else some (n, s.drop digits.length)

/-- Four bytes between dots, up to the end, as two pieces. -/
def bytes? (s : List Char) : Option (List Nat) := do
  let (a, s) ← byte? s
  let (b, s) ← dotByte? s
  let (c, s) ← dotByte? s
  let (d, s) ← dotByte? s
  guard s.isEmpty
  return [a * 256 + b, c * 256 + d]
where
  dotByte? : List Char → Option (Nat × List Char)
    | '.' :: s => byte? s
    | _ => none

/-- The pieces found so far, and where the zeros were left out. A gap counts as one piece. -/
structure Found where
  pieces : List Nat
  gap : Option Nat

def Found.complete? (f : Found) : Option (List Nat) :=
  match f.gap with
  | none => if f.pieces.length = 8 then some f.pieces else none
  | some g => some (f.pieces.take g ++ List.replicate (8 - f.pieces.length) 0 ++ f.pieces.drop g)

/-- Reads pieces up to the end; each step takes at least one character, so `fuel` may be their number. -/
def pieces? (fuel : Nat) (f : Found) (s : List Char) : Option (List Nat) :=
  match fuel with
  | 0 => if s.isEmpty then f.complete? else none
  | fuel + 1 =>
    if s.isEmpty then f.complete?
    else if 8 ≤ f.pieces.length then none
    else
      match s with
      | ':' :: s =>
        if f.gap.isSome then none else pieces? fuel ⟨f.pieces ++ [0], some (f.pieces.length + 1)⟩ s
      | s =>
        let digits := (s.take 4).takeWhile Text.isHex
        match s.drop digits.length, Text.hexNumber? digits with
        | [], some n => Found.complete? ⟨f.pieces ++ [n], f.gap⟩
        | '.' :: _, _ =>
          if digits.isEmpty ∨ 6 < f.pieces.length then none
          else do
            let tail ← bytes? s
            Found.complete? ⟨f.pieces ++ tail, f.gap⟩
        | [':'], _ => none
        | ':' :: s, some n => pieces? fuel ⟨f.pieces ++ [n], f.gap⟩ s
        | _, _ => none

def parse? (s : List Char) : Option (List Nat) :=
  match s with
  | ':' :: ':' :: s => pieces? s.length ⟨[0], some 1⟩ s
  | [] | [_] | ':' :: _ => none
  | s => pieces? s.length ⟨[], none⟩ s

/-- The start and length of the first longest run of zeros. -/
def longestZeros (pieces : List Nat) : Nat × Nat :=
  let runs := (List.range pieces.length).map fun i => (i, ((pieces.drop i).takeWhile (· == 0)).length)
  runs.foldl (fun best r => if best.2 < r.2 then r else best) (0, 0)

def hexText (n : Nat) : String := String.ofList (Nat.toDigits 16 n)

/-- The first longest run of at least two zeros is left out. -/
def text (pieces : List Nat) : String :=
  let (start, length) := longestZeros pieces
  let joined (l : List Nat) : String := String.intercalate ":" (l.map hexText)
  if length < 2 then joined pieces
  else joined (pieces.take start) ++ "::" ++ joined (pieces.drop (start + length))

end ShardBalance.Url.Ipv6
