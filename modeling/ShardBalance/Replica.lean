import ShardBalance.Identity

/-!
Replicas of shards on peers, and the pairs of peer and shard that they occupy.
-/

namespace ShardBalance

inductive ReplicaState where
  | active | dead | incomplete | initializing | listener | snapshotting | recovery | resharding
  /-- Any state with another name. -/
  | unknown
  deriving DecidableEq, Repr

namespace ReplicaState

def name : ReplicaState → String
  | active => "Active"
  | dead => "Dead"
  | incomplete => "Partial"
  | initializing => "Initializing"
  | listener => "Listener"
  | snapshotting => "PartialSnapshot"
  | recovery => "Recovery"
  | resharding => "Resharding"
  | unknown => "Unknown"

def ofName (s : String) : ReplicaState :=
  match s with
  | "Active" => active
  | "Dead" => dead
  | "Partial" => incomplete
  | "Initializing" => initializing
  | "Listener" => listener
  | "PartialSnapshot" => snapshotting
  | "Recovery" => recovery
  | "Resharding" => resharding
  | _ => unknown

@[simp] theorem ofName_name (s : ReplicaState) : ofName s.name = s := by cases s <;> rfl

def isActive (s : ReplicaState) : Bool := s = active

end ReplicaState

structure Holding where
  peer : PeerId
  shard : ShardId
  deriving DecidableEq, Repr

/-- Holdings are ordered by peer, then by shard. -/
instance : Ranked Holding where
  rank h := h.peer.toNat <<< 32 + h.shard.toNat
  rank_inj := by
    rintro ⟨p, s⟩ ⟨q, t⟩ h
    have hs := s.toNat_lt
    have ht := t.toNat_lt
    simp only at h
    have hp : p.toNat = q.toNat := by omega
    have hst : s.toNat = t.toNat := by omega
    rw [UInt64.toNat_inj.1 hp, UInt32.toNat_inj.1 hst]

structure Replica where
  peer : PeerId
  shard : ShardId
  state : ReplicaState
  deriving DecidableEq, Repr

def Replica.holding (r : Replica) : Holding := ⟨r.peer, r.shard⟩

end ShardBalance
