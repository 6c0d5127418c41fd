import ShardBalance.Planning.Draft

/-!
Copies of the shards that a peer lacks. The sources take turns: each shard comes from the next peer of
the ring that holds it.
-/

namespace ShardBalance.Planning

/-- What a peer is to be given. -/
structure ReplicateRequest where
  target : PeerId
  /-- Whether shards with enough replicas are copied as well. -/
  ignoreFactor : Bool
  method : TransferMethod

namespace ReplicateRequest

def transfer (r : ReplicateRequest) (t : Topology) (shard : ShardId) (source : PeerId) : Transfer :=
  ⟨t.collection, shard, source, r.target, r.method, .copy⟩

/-- Why a shard needs no copy. -/
def skip? (r : ReplicateRequest) (t : Topology) (shard : ShardId) : Option Step :=
  if !r.ignoreFactor && t.factor ≤ t.placement.replication shard then
    some (.satisfied shard (t.placement.replication shard) t.factor)
  else if t.placement.holds r.target shard then some (.present shard r.target)
  else none

def copies (r : ReplicateRequest) (t : Topology) (s : Sweep) : List ShardId → Draft × Sweep
  | [] => (.ofSteps [], s)
  | shard :: rest =>
    match r.skip? t shard with
    | some step =>
      let (d, s) := copies r t s rest
      (d.after [step] 0, s)
    | none =>
      let found := s.find (t.placement.holds · shard)
      match found.peer with
      | none => (⟨[], some shard, found.asked.length⟩, found.sweep)
      | some source =>
        let (d, s) := copies r t found.sweep rest
        (d.after [.transfer (r.transfer t shard source)] found.asked.length, s)

/-- The draft and the ring after it. A ring is searched from its first peer on. -/
def draft (r : ReplicateRequest) (t : Topology) (ring : Ring) : Draft × Ring :=
  if !r.ignoreFactor && t.factor == 0 then (.ofSteps [.unknownFactor], ring)
  else
    let (d, s) := r.copies t ring.reset.sweep t.placement.shards.toList
    (d, s.ring)

end ReplicateRequest
end ShardBalance.Planning
