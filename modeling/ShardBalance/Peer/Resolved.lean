import ShardBalance.Failure
import ShardBalance.Peer.Selector
import ShardBalance.Report.Peers
import ShardBalance.Text.Search

/-!
The one peer of a peer table that a selector means.
-/

namespace ShardBalance

structure Resolved where
  peer : PeerId
  address : String
  table : PeerTable
  deriving DecidableEq

namespace PeerTable

def matching (t : PeerTable) (part : String) : List (PeerId × String) :=
  t.entries.filter fun e => Text.occursIn part.toList e.2.toList

def resolve (t : PeerTable) : Selector → Except Failure Resolved
  | .id peer =>
    match t.get? peer with
    | some address => .ok ⟨peer, address, t⟩
    | none => .error (.noPeer (toString peer) t.values)
  | .address part =>
    match t.matching part with
    | [] => .error (.noPeer part t.values)
    | [(peer, address)] => .ok ⟨peer, address, t⟩
    | several => .error (.ambiguous part (several.map (·.2)))

/-- A peer with its address, where it has one. -/
def label (t : PeerTable) (peer : PeerId) : String :=
  match t.get? peer with
  | some address => s!"{peer} ({address})"
  | none => toString peer

end PeerTable

namespace Resolved

def others (r : Resolved) : List PeerId := r.table.keys.filter (· ≠ r.peer)

def label (r : Resolved) : String := r.table.label r.peer

end Resolved
end ShardBalance
