import ShardBalance.Number.Dyadic

/-!
Spans of time in whole nanoseconds.
-/

namespace ShardBalance

def nanosPerSecond : Nat := 1000000000

structure Duration where
  seconds : Nat
  nanos : Nat
  nanos_lt : nanos < nanosPerSecond

namespace Duration

def ofNanos (n : Nat) : Duration :=
  ⟨n / nanosPerSecond, n % nanosPerSecond, Nat.mod_lt _ (by decide)⟩

def ofMillis (n : Nat) : Duration := ofNanos (n * 1000000)

/-- The span nearest to a number of seconds, ties going to the even nanosecond. Negative numbers stand
for no time; there is no span of 2^64 seconds or more. -/
def ofSeconds? (f : Float) : Option Duration :=
  if f ≤ 0 then some (ofNanos 0)
  else do
    let (n, d) := (← Dyadic.ofBits? f.toBits).fraction
    if n / d < UInt64.size then some (ofNanos (roundHalfEven (n * nanosPerSecond) d)) else none

/-- The seconds as a float, whole ones and nanoseconds converted apart. -/
def toSeconds (d : Duration) : Float :=
  Float.ofNat d.seconds + Float.ofNat d.nanos / Float.ofNat nanosPerSecond

/-- `n` with zeros before it, so that it has `places` digits. -/
def padded (places n : Nat) : List Char :=
  let digits := Nat.toDigits 10 n
  List.replicate (places - digits.length) '0' ++ digits

/-- The seconds to two places; of two, the even one. -/
def hundredths (d : Duration) : String :=
  let n := roundHalfEven ((d.seconds * nanosPerSecond + d.nanos) * 100) nanosPerSecond
  String.ofList (Nat.toDigits 10 (n / 100) ++ '.' :: padded 2 (n % 100))

/-- The places after the point, as many as there are but at least one. -/
def places (d : Duration) : List Char :=
  match (padded 9 d.nanos).reverse.dropWhile (· = '0') with
  | [] => ['0']
  | digits => digits.reverse

end Duration
end ShardBalance
