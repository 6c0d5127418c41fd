import ShardBalance.Peer.Resolved
import ShardBalance.Wire.Peers

/-!
The JSON form of resolved peers.
-/

namespace ShardBalance

def Resolved.json (r : Resolved) : Json :=
  .record [("peer_id", .word64 r.peer), ("address", .text r.address),
    ("other_peer_ids", .list Json.word64 r.others),
    ("address_by_peer_id", PeerReport.peersJson Json.text r.table)]

end ShardBalance
