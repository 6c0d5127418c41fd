import ShardBalance.Ordered.Set

/-!
Numbers that name peers and shards.
-/

namespace ShardBalance

abbrev PeerId := UInt64

/-- Names a shard within its collection. -/
abbrev ShardId := UInt32

end ShardBalance
