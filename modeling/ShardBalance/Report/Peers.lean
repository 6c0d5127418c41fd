import ShardBalance.Identity
import ShardBalance.Ordered.Map

/-!
The peers of a cluster and their addresses, as one of them tells.
-/

namespace ShardBalance

abbrev PeerTable := Ordered.Map PeerId String

structure PeerReport where
  status : String
  reporter : Option PeerId
  peers : PeerTable
  deriving DecidableEq

end ShardBalance
