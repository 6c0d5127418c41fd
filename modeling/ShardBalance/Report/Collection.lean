/-!
What a cluster tells about the settings of a collection.
-/

namespace ShardBalance

structure CollectionReport where
  status : Option String
  points : Option UInt64
  shards : Option UInt32
  replicationFactor : Option UInt32
  writeConsistency : Option UInt32
  deriving DecidableEq, Repr

/-- How many replicas each shard should have; 0 where that is not known. -/
def CollectionReport.factor (r : CollectionReport) : Nat :=
  match r.replicationFactor with
  | some n => n.toNat
  | none => 0

/-- Whether a cluster took an operation, and the status it gave. -/
structure Acknowledgement where
  accepted : Bool
  status : String
  deriving DecidableEq, Repr

def Acknowledgement.ok : Acknowledgement := ⟨true, "ok"⟩

end ShardBalance
