/-!
The exact values of floats, and rounding of fractions.
-/

namespace ShardBalance

/-- Stands for `mantissa` times two to `exponent`. -/
structure Dyadic where
  mantissa : Nat
  exponent : Int
  deriving DecidableEq, Repr

namespace Dyadic

/-- The size of a float with the given bits, whatever its sign; none for infinities and what is no number. -/
def ofBits? (bits : UInt64) : Option Dyadic :=
  let fraction := bits.toNat % 1 <<< 52
  let scale : Nat := bits.toNat >>> 52 % 1 <<< 11
  if scale = 2047 then none
  else if scale = 0 then some ⟨fraction, -1074⟩
  else some ⟨1 <<< 52 + fraction, Int.ofNat scale - 1075⟩

/-- Numerator and denominator. -/
def fraction (d : Dyadic) : Nat × Nat :=
  if 0 ≤ d.exponent then (d.mantissa <<< d.exponent.toNat, 1)
  else (d.mantissa, 1 <<< (-d.exponent).toNat)

end Dyadic

/-- The natural number nearest to `n / d`; of two, the even one. -/
def roundHalfEven (n d : Nat) : Nat :=
  let q := n / d
  let r := n % d
  if 2 * r < d then q else if d < 2 * r then q + 1 else q + q % 2

end ShardBalance
