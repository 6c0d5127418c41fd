import ShardBalance.Call

/-!
Clusters kept in memory. An accepted move takes the source's replicas of the shard away; every accepted
operation adds an active replica at the target.
-/

namespace ShardBalance.Scripted

structure Collection where
  name : String
  factor : Option UInt32
  replicas : List Replica
  /-- Told in place of what the replicas say. -/
  report : Option PlacementReport
  deriving DecidableEq

namespace Collection

/-- What `reporter` tells: its own replicas, and those of all others. -/
def placementReport (c : Collection) (reporter : PeerId) : PlacementReport :=
  match c.report with
  | some r => r
  | none =>
    { reporter := reporter
      shardCount := 0
      own := (c.replicas.filter (·.peer = reporter)).map fun r => ⟨r.shard, 0, r.state⟩
      others := c.replicas.filter (·.peer ≠ reporter)
      ongoing := [] }

def settings (c : Collection) : CollectionReport := ⟨none, none, none, c.factor, none⟩

def apply (o : Operation) (c : Collection) : Collection :=
  let kept := match o.kind with
    | .copy => c.replicas
    | .move => c.replicas.filter fun r => !(r.peer = o.source ∧ r.shard = o.shard)
  { c with replicas := kept ++ [⟨o.target, o.shard, .active⟩] }

end Collection

structure Cluster where
  peers : PeerTable
  serving : PeerId
  collections : List Collection
  deriving DecidableEq

namespace Cluster

/-- The first collection of a name. -/
def find? (k : Cluster) (name : String) : Option Collection := k.collections.find? (·.name = name)

def modify (k : Cluster) (name : String) (f : Collection → Collection) : Cluster :=
  { k with collections := go k.collections }
where
  go : List Collection → List Collection
    | [] => []
    | c :: l => if c.name = name then f c :: l else c :: go l

def missing (name : String) : ClientFailure :=
  .refused 404 s!"Not found: Collection \x60{name}\x60 doesn't exist!"

/-- What the first collection of a name says. -/
def lookUp {α : Type} (k : Cluster) (name : String) (f : Collection → α) : Except ClientFailure α :=
  match k.find? name with
  | some c => .ok (f c)
  | none => .error (missing name)

def answer : (c : Call) → Cluster → Except ClientFailure c.Answer × Cluster
  | .peers, k => (.ok ⟨"enabled", some k.serving, k.peers⟩, k)
  | .collections, k => (.ok (k.collections.map Collection.name), k)
  | .collection name, k => (k.lookUp name Collection.settings, k)
  | .placement name, k => (k.lookUp name (·.placementReport k.serving), k)
  | .update name o, k => (k.lookUp name fun _ => Acknowledgement.ok, k.modify name (Collection.apply o))

end Cluster
end ShardBalance.Scripted
