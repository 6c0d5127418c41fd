import ShardBalance.Failure
import ShardBalance.Report.Collection
import ShardBalance.Report.Peers
import ShardBalance.Report.Placement
import ShardBalance.Transfer.Basic

/-!
What a cluster can be asked, and what it answers.
-/

namespace ShardBalance

inductive Call where
  | peers
  | collections
  | collection (name : String)
  | placement (collection : String)
  | update (collection : String) (o : Operation)
  deriving DecidableEq, Repr

abbrev Call.Answer : Call → Type
  | peers => PeerReport
  | collections => List String
  | collection _ => CollectionReport
  | placement _ => PlacementReport
  | update .. => Acknowledgement

/-- What becomes of a call once it is made. -/
inductive Reaction (α : Type) where
  /-- An answer, and whether the operation was cancelled meanwhile. -/
  | answered (r : Except ClientFailure α) (cancels : Bool)
  /-- No answer until the operation was cancelled. -/
  | abandoned

namespace Reaction

variable {α : Type}

def result : Reaction α → Except Failure α
  | answered r _ => r.mapError .client
  | abandoned => .error .cancelled

def cancels : Reaction α → Bool
  | answered _ cancels => cancels
  | abandoned => true

end Reaction

/-- Something with a state that reacts to calls. -/
abbrev Backend (σ : Type) := (c : Call) → σ → Reaction c.Answer × σ

end ShardBalance
