import ShardBalance.Identity
import ShardBalance.Transfer.Method

/-!
Planned transfers of shards, and the operations that ask a cluster for them.
-/

namespace ShardBalance

/-- Whether the source keeps its replica. -/
inductive TransferKind where
  | copy | move
  deriving DecidableEq, Repr

def TransferKind.name : TransferKind → String
  | copy => "replicate"
  | move => "move"

structure Transfer where
  collection : String
  shard : ShardId
  source : PeerId
  target : PeerId
  method : TransferMethod
  kind : TransferKind
  deriving DecidableEq, Repr

structure Operation where
  kind : TransferKind
  shard : ShardId
  source : PeerId
  target : PeerId
  /-- The cluster chooses where none is given. -/
  method : Option TransferMethod
  deriving DecidableEq, Repr

namespace Transfer

def operation (t : Transfer) : Operation := ⟨t.kind, t.shard, t.source, t.target, some t.method⟩

def text (t : Transfer) : String :=
  s!"{t.kind.name} shard {t.shard} of '{t.collection}' from peer {t.source} to peer {t.target} ({t.method.name})"

end Transfer
end ShardBalance
