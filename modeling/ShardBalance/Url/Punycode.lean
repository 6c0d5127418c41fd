/-!
Labels of domain names in ASCII letters and digits. The characters beyond ASCII are added in the order
of their numbers, each as the steps that lie between it and the one before, in digits of base 36.
-/

namespace ShardBalance.Url.Punycode

def digit (n : Nat) : Char := if n < 26 then Char.ofNat (97 + n) else Char.ofNat (22 + n)

def digitValue? (c : Char) : Option Nat :=
  let n := c.toNat
  if 97 ≤ n ∧ n ≤ 122 then some (n - 97)
  else if 65 ≤ n ∧ n ≤ 90 then some (n - 65)
  else if 48 ≤ n ∧ n ≤ 57 then some (n - 22)
  else none

/-- The digit values, at the place `k`, from which on another digit follows. -/
def threshold (k bias : Nat) : Nat := if k ≤ bias then 1 else if bias + 26 ≤ k then 26 else k - bias

theorem one_le_threshold (k bias : Nat) : 1 ≤ threshold k bias := by grind [threshold]

def adaptFrom (delta k : Nat) : Nat :=
  if 455 < delta then adaptFrom (delta / 35) (k + 36) else k + 36 * delta / (delta + 38)
termination_by delta

/-- The bias after `delta` was written as the `count`-th. -/
def adapt (delta count : Nat) (first : Bool) : Nat :=
  let delta := if first then delta / 700 else delta / 2
  adaptFrom (delta + delta / count) 0

/-- A number in digits, the lowest first, of which the last is below its threshold. -/
def digits (bias k q : Nat) : List Char :=
  let t := threshold k bias
  if q < t then [digit q]
  else digit (t + (q - t) % (36 - t)) :: digits bias (k + 36) ((q - t) / (36 - t))
termination_by q
decreasing_by
  have h1 := one_le_threshold k bias
  have := Nat.div_le_self (q - threshold k bias) (36 - threshold k bias)
  omega

structure Progress where
  delta : Nat
  bias : Nat
  count : Nat
  written : List Char

/-- Goes over a label once for the characters of number `n`. -/
def round (n basic : Nat) (p : Progress) : List Char → Progress
  | [] => p
  | c :: rest =>
    if c.toNat < n then round n basic { p with delta := p.delta + 1 } rest
    else if c.toNat = n then
      round n basic
        { delta := 0
          bias := adapt p.delta (p.count + 1) (p.count == basic)
          count := p.count + 1
          written := p.written ++ digits p.bias 36 p.delta } rest
    else round n basic p rest

/-- Goes over a label for each of its characters' numbers, ascending. -/
def rounds (label : List Char) (basic : Nat) : (numbers : List Nat) → (n : Nat) → Progress → Progress
  | [], _, p => p
  | m :: rest, n, p =>
    let p := round m basic { p with delta := p.delta + (m - n) * (p.count + 1) } label
    rounds label basic rest (m + 1) { p with delta := p.delta + 1 }

def encode (label : List Char) : List Char :=
  let ascii := label.filter (·.toNat < 0x80)
  let numbers := ((label.map Char.toNat).filter (0x80 ≤ ·)).eraseDups.mergeSort
  let start : Progress := ⟨0, 72, ascii.length, if ascii.isEmpty then [] else ascii ++ ['-']⟩
  (rounds label ascii.length numbers 0x80 start).written

def bound : Nat := UInt32.size

/-- A number at the head of digits, and what follows it; `place` is what the digit at `k` counts. -/
def readNumber (bias : Nat) : (k place : Nat) → List Char → Option (Nat × List Char)
  | _, _, [] => none
  | k, place, c :: rest =>
    match digitValue? c with
    | none => none
    | some d =>
      if d < threshold k bias then some (d * place, rest)
      else if bound ≤ place * (36 - threshold k bias) then none
      else
        (readNumber bias (k + 36) (place * (36 - threshold k bias)) rest).map fun (n, rest) =>
          (d * place + n, rest)

theorem length_of_readNumber {bias k place n : Nat} {s rest : List Char}
    (h : readNumber bias k place s = some (n, rest)) : rest.length < s.length := by
  induction s generalizing k place n rest with
  | nil => simp [readNumber] at h
  | cons c tail ih =>
    rw [readNumber] at h
    split at h
    · simp at h
    · split at h
      · simp only [Option.some.injEq, Prod.mk.injEq] at h
        simp [h.2]
      split at h
      · simp at h
      · obtain ⟨⟨m, r⟩, hm, hr⟩ := Option.map_eq_some_iff.1 h
        simp only [Prod.mk.injEq] at hr
        have := ih hm
        rw [List.length_cons, ← hr.2]
        omega

/-- Inserts the characters that digits stand for: `number` is the character reached so far and `position`
the place for the next one. -/
def insertAll (number position bias : Nat) (first : Bool) (s label : List Char) : Option (List Char) :=
  match s with
  | [] => some label
  | c :: tail =>
    match _h : readNumber bias 36 1 (c :: tail) with
    | none => none
    | some (delta, rest) =>
      let count := label.length + 1
      let number := number + (position + delta) / count
      if position + delta < bound ∧ number.isValidChar then
        let position := (position + delta) % count
        insertAll number (position + 1) (adapt delta count first) false rest
          (label.take position ++ Char.ofNat number :: label.drop position)
      else none
termination_by s.length
decreasing_by exact length_of_readNumber _h

/-- The label written as `s`, if there is one. A hyphen at the head parts nothing from the digits. -/
def decode? (s : List Char) : Option (List Char) :=
  match s.reverse.dropWhile (· ≠ '-') with
  | [] | [_] => insertAll 0x80 0 72 true s []
  | _ :: ascii => insertAll 0x80 0 72 true (s.drop (ascii.length + 1)) ascii.reverse

end ShardBalance.Url.Punycode
