import ShardBalance.Failure
import ShardBalance.Placement
import ShardBalance.Plan
import ShardBalance.Ring.Sweep

/-!
What planning one collection comes to: the steps taken in order, and the shard at which it got stuck.
Transfers and failure are read off the draft.
-/

namespace ShardBalance

structure Topology where
  collection : String
  /-- How many replicas each shard should have; 0 where that is not known. -/
  factor : Nat
  placement : Placement

inductive Step where
  | transfer (t : Transfer)
  /-- The collection is passed over, since its factor is not known. -/
  | unknownFactor
  | satisfied (shard : ShardId) (replicas : Nat) (factor : Nat)
  | present (shard : ShardId) (peer : PeerId)
  | nothingToDrain (peer : PeerId)
  | targetOccupied (peer : PeerId) (shards : Nat)
  | balanced (source target : PeerId)
  deriving DecidableEq, Repr

def Step.transfer? : Step → Option Transfer
  | transfer t => some t
  | _ => none

structure Draft where
  steps : List Step
  /-- The shard for which no peer was found. -/
  stuck : Option ShardId
  /-- How often a peer of the ring was asked. -/
  visits : Nat

namespace Draft

def transfers (d : Draft) : List Transfer := d.steps.filterMap Step.transfer?

def ofSteps (steps : List Step) : Draft := ⟨steps, none, 0⟩

/-- The same with more steps in front, for which peers were asked. -/
def after (steps : List Step) (visits : Nat) (d : Draft) : Draft :=
  ⟨steps ++ d.steps, d.stuck, visits + d.visits⟩

/-- The transfers, if every shard that needs one got one. -/
def result (d : Draft) (collection : String) (candidates : Nat) : Except Failure (List Transfer) :=
  match d.stuck with
  | none => .ok d.transfers
  | some shard => .error (.noQualifyingPeer collection shard candidates)

end Draft
end ShardBalance
