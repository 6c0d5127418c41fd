import ShardBalance.Ordered.Map
import ShardBalance.Report.Placement

/-!
Which peer holds which shard of a collection. A placement is a set of holdings, so how often and in
which order replicas were told of makes no difference to it. A tally keeps the same as two listings, holding by holding.
-/

namespace ShardBalance

structure Placement where
  /-- The peer that told of the holdings; it is listed even where it holds nothing. -/
  reporter : PeerId
  holdings : Ordered.Set Holding
  deriving DecidableEq

namespace Placement

def ofHoldings (reporter : PeerId) (l : List Holding) : Placement := ⟨reporter, .ofList l⟩

def insert (a : Placement) (h : Holding) : Placement := { a with holdings := a.holdings.insert h }

/-- Whether a replica counts when only active ones may. -/
def counts (activeOnly : Bool) (r : Replica) : Bool := !activeOnly || r.state.isActive

def ofReport (activeOnly : Bool) (r : PlacementReport) : Placement :=
  ofHoldings r.reporter ((r.replicas.filter (counts activeOnly)).map Replica.holding)

def holds (a : Placement) (p : PeerId) (s : ShardId) : Bool := a.holdings.contains ⟨p, s⟩

/-- The shards on `p`, ascending. -/
def shardsOn (a : Placement) (p : PeerId) : Ordered.Set ShardId :=
  .ofList ((a.holdings.toList.filter (·.peer = p)).map Holding.shard)

/-- The peers that hold `s`, ascending. -/
def holders (a : Placement) (s : ShardId) : Ordered.Set PeerId :=
  .ofList ((a.holdings.toList.filter (·.shard = s)).map Holding.peer)

def replication (a : Placement) (s : ShardId) : Nat := (a.holders s).size

def shards (a : Placement) : Ordered.Set ShardId := .ofList (a.holdings.toList.map Holding.shard)

/-- The reporter and every peer that holds a shard. -/
def peers (a : Placement) : Ordered.Set PeerId :=
  (Ordered.Set.ofList (a.holdings.toList.map Holding.peer)).insert a.reporter

def shardsPerPeer (a : Placement) : List (PeerId × Ordered.Set ShardId) :=
  a.peers.toList.map fun p => (p, a.shardsOn p)

def replicationPerShard (a : Placement) : List (ShardId × Nat) :=
  a.shards.toList.map fun s => (s, a.replication s)

end Placement

/-- The shards of each peer, and how many peers each shard is on. -/
structure Tally where
  reporter : PeerId
  shardsPerPeer : Ordered.Map PeerId (Ordered.Set ShardId)
  replicationPerShard : Ordered.Map ShardId Nat

namespace Tally

def new (reporter : PeerId) : Tally := ⟨reporter, Ordered.Map.empty.insert reporter .empty, .empty⟩

/-- A shard counts once more only where it is new on the peer. -/
def insert (t : Tally) (h : Holding) : Tally :=
  let shards := (t.shardsPerPeer.get? h.peer).getD .empty
  let count := (t.replicationPerShard.get? h.shard).getD 0
  { t with
    shardsPerPeer := t.shardsPerPeer.insert h.peer (shards.insert h.shard)
    replicationPerShard :=
      if shards.contains h.shard then t.replicationPerShard
      else t.replicationPerShard.insert h.shard (count + 1) }

end Tally

namespace Placement

theorem holds_iff {a : Placement} {p : PeerId} {s : ShardId} :
    a.holds p s = true ↔ ⟨p, s⟩ ∈ a.holdings := by simp [holds]

theorem mem_ofReport {r : PlacementReport} {p : PeerId} {s : ShardId} :
    ⟨p, s⟩ ∈ (ofReport true r).holdings ↔ ⟨p, s, .active⟩ ∈ r.replicas := by
  simp only [ofReport, ofHoldings, Ordered.Set.mem_ofList, List.mem_map, List.mem_filter]
  constructor
  · rintro ⟨⟨q, t, state⟩, ⟨told, counted⟩, place⟩
    obtain ⟨rfl, rfl⟩ := Holding.mk.inj place
    obtain rfl : state = .active := by simpa [counts, ReplicaState.isActive] using counted
    exact told
  · exact fun told => ⟨_, ⟨told, rfl⟩, rfl⟩

theorem mem_shardsOn {a : Placement} {p : PeerId} {s : ShardId} :
    s ∈ a.shardsOn p ↔ ⟨p, s⟩ ∈ a.holdings := by
  rw [shardsOn, Ordered.Set.mem_ofList, List.mem_map]
  constructor
  · rintro ⟨⟨q, t⟩, h, rfl⟩
    obtain ⟨h, hq⟩ := List.mem_filter.1 h
    exact (of_decide_eq_true hq : q = p) ▸ h
  · exact fun h => ⟨⟨p, s⟩, List.mem_filter.2 ⟨h, by simp⟩, rfl⟩

theorem mem_holders {a : Placement} {p : PeerId} {s : ShardId} :
    p ∈ a.holders s ↔ ⟨p, s⟩ ∈ a.holdings := by
  rw [holders, Ordered.Set.mem_ofList, List.mem_map]
  constructor
  · rintro ⟨⟨q, t⟩, h, rfl⟩
    obtain ⟨h, ht⟩ := List.mem_filter.1 h
    exact (of_decide_eq_true ht : t = s) ▸ h
  · exact fun h => ⟨⟨p, s⟩, List.mem_filter.2 ⟨h, by simp⟩, rfl⟩

theorem mem_shards {a : Placement} {s : ShardId} : s ∈ a.shards ↔ ∃ p, ⟨p, s⟩ ∈ a.holdings := by
  rw [shards, Ordered.Set.mem_ofList, List.mem_map]
  exact ⟨fun ⟨⟨p, t⟩, h, ht⟩ => ⟨p, (show t = s from ht) ▸ h⟩, fun ⟨p, h⟩ => ⟨⟨p, s⟩, h, rfl⟩⟩

end Placement
end ShardBalance
