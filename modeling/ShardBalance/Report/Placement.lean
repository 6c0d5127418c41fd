import ShardBalance.Replica
import ShardBalance.Transfer.Method

/-!
What a peer tells about the replicas of one collection: its own, and those of all other peers.
-/

namespace ShardBalance

structure LocalReplica where
  shard : ShardId
  points : UInt64
  state : ReplicaState
  deriving DecidableEq, Repr

structure OngoingTransfer where
  shard : ShardId
  source : PeerId
  target : PeerId
  /-- Whether the source keeps its replica. -/
  sync : Bool
  method : Option TransferMethod
  deriving DecidableEq, Repr

structure PlacementReport where
  reporter : PeerId
  shardCount : UInt32
  own : List LocalReplica
  others : List Replica
  ongoing : List OngoingTransfer
  deriving DecidableEq, Repr

namespace PlacementReport

def ownReplicas (r : PlacementReport) : List Replica :=
  r.own.map fun l => ⟨r.reporter, l.shard, l.state⟩

/-- All replicas told of, the reporter's own first. -/
def replicas (r : PlacementReport) : List Replica := r.ownReplicas ++ r.others

/-- Whether `r` shows no replica of `p`, where the reporter's own are looked for among its own only. -/
def showsNone (r : PlacementReport) (p : PeerId) : Bool :=
  if r.reporter = p then r.own.isEmpty else !r.others.any (·.peer = p)

end PlacementReport
end ShardBalance
