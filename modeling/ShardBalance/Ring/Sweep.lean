import ShardBalance.Ring.Basic

/-!
Searches on a ring that end after one full turn without success.
-/

namespace ShardBalance

structure Sweep where
  ring : Ring
  /-- How many peers were asked since the last one that was taken. -/
  untaken : Nat

/-- The search with no peer asked yet. -/
def Ring.sweep (r : Ring) : Sweep := ⟨r, 0⟩

namespace Sweep

def size (s : Sweep) : Nat := s.ring.size

/-- The next peer, unless every peer was asked since one was taken. -/
def next? (s : Sweep) : Option (PeerId × Sweep) :=
  if s.untaken < s.size then some (s.ring.current, ⟨s.ring.advance, s.untaken + 1⟩) else none

def take (s : Sweep) : Sweep := { s with untaken := 0 }

theorem next?_eq_some {s t : Sweep} {p : PeerId} (h : s.next? = some (p, t)) :
    s.untaken < s.size ∧ p = s.ring.current ∧ t = ⟨s.ring.advance, s.untaken + 1⟩ := by
  unfold next? at h
  split at h <;> simp_all

structure Found where
  /-- The peers asked, the one found included. -/
  asked : List PeerId
  peer : Option PeerId
  sweep : Sweep

/-- Asks one peer after the other until `p` holds of one, which is taken. -/
def find (p : PeerId → Bool) (s : Sweep) : Found :=
  match _h : s.next? with
  | none => ⟨[], none, s⟩
  | some (peer, t) =>
    if p peer then ⟨[peer], some peer, t.take⟩
    else
      let rest := find p t
      { rest with asked := peer :: rest.asked }
termination_by s.size - s.untaken
decreasing_by
  obtain ⟨hlt, rfl, rfl⟩ := next?_eq_some _h
  simp only [size, Ring.size_advance] at hlt ⊢
  omega

end Sweep
end ShardBalance
