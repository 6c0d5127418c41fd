import ShardBalance.Identity

/-!
Peers in a circle, asked one after the other.
-/

namespace ShardBalance

/-- A non-empty list of peers and the position of the one to be asked next. -/
structure Ring where
  peers : List PeerId
  position : Nat
  inside : position < peers.length

namespace Ring

def ofPeers? : List PeerId → Option Ring
  | [] => none
  | p :: l => some ⟨p :: l, 0, Nat.zero_lt_succ _⟩

def size (r : Ring) : Nat := r.peers.length

theorem size_pos (r : Ring) : 0 < r.size := Nat.zero_lt_of_lt r.inside

def current (r : Ring) : PeerId := r.peers.get ⟨r.position, r.inside⟩

def advance (r : Ring) : Ring :=
  ⟨r.peers, (r.position + 1) % r.peers.length, Nat.mod_lt _ r.size_pos⟩

@[simp] theorem size_advance (r : Ring) : r.advance.size = r.size := rfl

def reset (r : Ring) : Ring := ⟨r.peers, 0, r.size_pos⟩

end Ring
end ShardBalance
