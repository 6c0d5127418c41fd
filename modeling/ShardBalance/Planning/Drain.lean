import ShardBalance.Planning.Draft

/-!
Moves of all shards off a peer. The other peers take turns, each taking up to an equal share of the
shards still waiting, until none waits or every peer in turn could take none.
-/

namespace ShardBalance.Planning

/-- Splits off the first shards that satisfy `p`, at most `quota` of them. -/
def share (quota : Nat) (p : ShardId → Bool) : List ShardId → List ShardId × List ShardId
  | [] => ([], [])
  | s :: rest =>
    if 0 < quota ∧ p s then
      let (taken, left) := share (quota - 1) p rest
      (s :: taken, left)
    else
      let (taken, left) := share quota p rest
      (taken, s :: left)

theorem length_share (quota : Nat) (p : ShardId → Bool) (l : List ShardId) :
    (share quota p l).1.length + (share quota p l).2.length = l.length := by
  induction l generalizing quota with
  | nil => rfl
  | cons s rest ih =>
    unfold share
    split
    · have := ih (quota - 1)
      simp only [List.length_cons]
      omega
    · have := ih quota
      simp only [List.length_cons]
      omega

structure Round where
  peer : PeerId
  shards : List ShardId
  deriving DecidableEq, Repr

/-- The turns taken, and the first shard that waits after the last one. -/
structure Rounds where
  rounds : List Round
  stuck : Option ShardId
  sweep : Sweep

/-- Turns until no shard waits; `lacks p s` says whether `p` can take `s`. -/
def rounds (quota : Nat) (lacks : PeerId → ShardId → Bool) (s : Sweep) : List ShardId → Rounds
  | [] => ⟨[], none, s⟩
  | head :: rest =>
    match _h : s.next? with
    | none => ⟨[], some head, s⟩
    | some (peer, t) =>
      let parts := share quota (lacks peer) (head :: rest)
      let more := rounds quota lacks (if parts.1.isEmpty then t else t.take) parts.2
      { more with rounds := ⟨peer, parts.1⟩ :: more.rounds }
termination_by l => (l.length, s.size - s.untaken)
decreasing_by
  have hl := length_share quota (lacks peer) (head :: rest)
  obtain ⟨hlt, -, ht⟩ := Sweep.next?_eq_some _h
  by_cases he : (share quota (lacks peer) (head :: rest)).1 = []
  · rw [he, List.length_nil, Nat.zero_add] at hl
    simp only [he, List.isEmpty_nil, hl, ht, ↓reduceDIte]
    refine Prod.Lex.right _ ?_
    simp only [Sweep.size, Ring.size_advance] at hlt ⊢
    omega
  · have : 0 < (share quota (lacks peer) (head :: rest)).1.length := List.length_pos_iff.2 he
    refine Prod.Lex.left _ _ ?_
    show (share quota (lacks peer) (head :: rest)).2.length < (head :: rest).length
    omega

/-- The equal share of `shards` among `peers`, at least one. -/
def quota (shards peers : Nat) : Nat := max 1 ((shards + peers - 1) / peers)

structure DrainRequest where
  source : PeerId
  method : TransferMethod

namespace DrainRequest

def transfer (r : DrainRequest) (t : Topology) (target : PeerId) (shard : ShardId) : Transfer :=
  ⟨t.collection, shard, r.source, target, r.method, .move⟩

def roundTransfers (r : DrainRequest) (t : Topology) (round : Round) : List Transfer :=
  round.shards.map (r.transfer t round.peer)

/-- The draft and the ring after it. A ring is gone round from its first peer on. -/
def draft (r : DrainRequest) (t : Topology) (ring : Ring) : Draft × Ring :=
  match (t.placement.shardsOn r.source).toList with
  | [] => (.ofSteps [.nothingToDrain r.source], ring)
  | shards =>
    let found := rounds (quota shards.length ring.size) (fun p s => !t.placement.holds p s)
      ring.reset.sweep shards
    (⟨(found.rounds.flatMap (r.roundTransfers t)).map .transfer, found.stuck, found.rounds.length⟩,
      found.sweep.ring)

end DrainRequest
end ShardBalance.Planning
