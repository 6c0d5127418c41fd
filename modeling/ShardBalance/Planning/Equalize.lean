import ShardBalance.Planning.Draft

/-!
Copies from one peer to another until both hold equally many shards.
-/

namespace ShardBalance.Planning

structure EqualizeRequest where
  source : PeerId
  target : PeerId
  method : TransferMethod

namespace EqualizeRequest

def transfer (r : EqualizeRequest) (t : Topology) (shard : ShardId) : Transfer :=
  ⟨t.collection, shard, r.source, r.target, r.method, .copy⟩

/-- One pass over some shards, which takes those that are lacking until `goal` are held. -/
def catchUp (lacks : ShardId → Bool) (goal : Nat) : Nat → List ShardId → List ShardId
  | _, [] => []
  | held, s :: rest =>
    if goal ≤ held then []
    else if lacks s then s :: catchUp lacks goal (held + 1) rest
    else catchUp lacks goal held rest

/-- The shards to copy. -/
def wanted (r : EqualizeRequest) (t : Topology) : List ShardId :=
  let shards := t.placement.shardsOn r.source
  catchUp (!t.placement.holds r.target ·) shards.size (t.placement.shardsOn r.target).size shards.toList

def draft (r : EqualizeRequest) (t : Topology) : Draft :=
  let held := (t.placement.shardsOn r.target).size
  let warning := if held = 0 then [] else [.targetOccupied r.target held]
  match r.wanted t with
  | [] => .ofSteps (warning ++ [.balanced r.source r.target])
  | shards => .ofSteps (warning ++ shards.map (.transfer ∘ r.transfer t))

end EqualizeRequest
end ShardBalance.Planning
