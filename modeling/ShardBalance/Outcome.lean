/-!
What comes of a compound operation.
-/

namespace ShardBalance

structure Outcome where
  success : Bool
  /-- A line for the reader; where the cluster refused something, what it said. -/
  status : String
  planned : Nat
  /-- How many were sent, one that failed included. -/
  issued : Nat
  error : Option String
  deriving DecidableEq, Repr

namespace Outcome

def succeeded (status : String) (planned issued : Nat) : Outcome := ⟨true, status, planned, issued, none⟩

def failed (status error : String) (planned issued : Nat) : Outcome :=
  ⟨false, status, planned, issued, some error⟩

end Outcome
end ShardBalance
