import ShardBalance.Text.Hex

/-!
Addresses of four bytes, in one to four numbers of which the last fills what the others leave.
-/

namespace ShardBalance.Url.Ipv4

def splitDots (s : List Char) : List (List Char) := s.splitOn '.'

/-- A number in the base that its beginning tells: `0x` for 16, another `0` for 8. -/
def number? (s : List Char) : Option Nat :=
  let inBase (base : Nat) (digits : List Char) : Option Nat :=
    digits.foldlM (fun n c => do
      let d ← Text.hexValue? c
      if d < base then some (n * base + d) else none) 0
  match s with
  | [] => none
  | '0' :: 'x' :: rest | '0' :: 'X' :: rest => inBase 16 rest
  | '0' :: c :: rest => inBase 8 (c :: rest)
  | _ => inBase 10 s

/-- Whether a domain ends in a number, and so has to be an address. -/
def endsInNumber (s : List Char) : Bool :=
  let last? := match (splitDots s).reverse with
    | [] :: last :: _ => some last
    | [] :: [] => none
    | last :: _ => some last
    | [] => none
  match last? with
  | none => false
  | some last => (!last.isEmpty && last.all Char.isDigit) || (number? last).isSome

def parse? (s : List Char) : Option Nat := do
  let parts := splitDots s
  let parts := if parts.getLast? = some [] then parts.dropLast else parts
  guard (parts.length ≤ 4)
  let numbers ← parts.mapM number?
  let last ← numbers.getLast?
  guard (last < 1 <<< (8 * (5 - numbers.length)))
  let leading := numbers.dropLast
  guard (leading.all (· ≤ 255))
  return leading.zipIdx.foldl (fun sum (n, i) => sum + n <<< (8 * (3 - i))) last

def text (n : Nat) : String :=
  s!"{n >>> 24 % 256}.{n >>> 16 % 256}.{n >>> 8 % 256}.{n % 256}"

end ShardBalance.Url.Ipv4
