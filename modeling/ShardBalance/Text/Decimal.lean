/-!
Natural numbers in decimal digits. `digits?` reads what `Nat.repr` writes, and leading zeros besides.
-/

namespace ShardBalance.Text

/-- The number that a non-empty list of ASCII digits stands for. -/
def digits? (s : List Char) : Option Nat :=
  if s ≠ [] ∧ s.all Char.isDigit then some (Nat.ofDigitChars 10 s 0) else none

theorem digits?_repr (n : Nat) : digits? n.repr.toList = some n := by
  rw [Nat.toList_repr]
  have : (Nat.toDigits 10 n).all Char.isDigit = true :=
    List.all_eq_true.2 fun c hc => Nat.isDigit_of_mem_toDigits (by omega) (by omega) hc
  simp [digits?, this, Nat.toDigits_ne_nil]

/-- Digits, after a plus sign or none. -/
def plusDigits? : List Char → Option Nat
  | '+' :: s => digits? s
  | s => digits? s

def word64? (n : Nat) : Option UInt64 :=
  if n < UInt64.size then some (UInt64.ofNat n) else none

def word32? (n : Nat) : Option UInt32 :=
  if n < UInt32.size then some (UInt32.ofNat n) else none

@[simp] theorem word64?_toNat (w : UInt64) : word64? w.toNat = some w := by
  simp [word64?, w.toNat_lt_size]

@[simp] theorem word32?_toNat (w : UInt32) : word32? w.toNat = some w := by
  simp [word32?, w.toNat_lt_size]

end ShardBalance.Text
