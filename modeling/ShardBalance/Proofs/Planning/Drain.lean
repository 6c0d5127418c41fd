import ShardBalance.Planning.Drain
import ShardBalance.Proofs.Planning.Draft
import ShardBalance.Proofs.Ring

/-!
Drafts of drains. Each shard of the source goes to one peer that lacks it, and a draft gets stuck only
where every peer of the ring holds a shard.
-/

namespace ShardBalance.Planning

theorem perm_share (quota : Nat) (p : ShardId → Bool) (l : List ShardId) :
    ((share quota p l).1 ++ (share quota p l).2).Perm l := by
  induction l generalizing quota with
  | nil => exact .refl _
  | cons s rest ih =>
    unfold share
    split
    · exact (ih (quota - 1)).cons s
    · exact List.perm_middle.trans ((ih quota).cons s)

theorem of_mem_share {quota : Nat} {p : ShardId → Bool} {l : List ShardId} {s : ShardId}
    (h : s ∈ (share quota p l).1) : p s = true := by
  induction l generalizing quota with
  | nil => cases h
  | cons a rest ih =>
    unfold share at h
    split at h
    next hp =>
      rcases List.mem_cons.1 h with rfl | h
      · exact hp.2
      · exact ih h
    next => exact ih h

theorem not_of_share_eq_nil {quota : Nat} {p : ShardId → Bool} {l : List ShardId} (hq : 0 < quota)
    (h : (share quota p l).1 = []) : ∀ s ∈ l, p s = false := by
  induction l with
  | nil => simp
  | cons a rest ih =>
    unfold share at h
    split at h
    next => cases h
    next hp =>
      intro s hs
      rcases List.mem_cons.1 hs with rfl | hs
      · simpa [hq] using hp
      · exact ih h s hs

section Rounds

variable {quota : Nat} {lacks : PeerId → ShardId → Bool}

/-- The shards that the turns of some rounds take. -/
def Rounds.taken (r : Rounds) : List ShardId := r.rounds.flatMap Round.shards

theorem perm_rounds (quota : Nat) (lacks : PeerId → ShardId → Bool) (s : Sweep) (l : List ShardId) :
    ∃ waiting, ((rounds quota lacks s l).taken ++ waiting).Perm l ∧
      (rounds quota lacks s l).stuck = waiting.head? := by
  fun_induction rounds quota lacks s l with
  | case1 s => exact ⟨[], .refl _, rfl⟩
  | case2 s head rest h => exact ⟨head :: rest, .refl _, rfl⟩
  | case3 s head rest peer t h parts more ih =>
    obtain ⟨waiting, perm, stuck⟩ := ih
    refine ⟨waiting, ?_, stuck⟩
    have whole : (parts.1 ++ (more.taken ++ waiting)).Perm (parts.1 ++ parts.2) := perm.append_left _
    rw [← List.append_assoc] at whole
    exact whole.trans (perm_share quota (lacks peer) (head :: rest))

theorem lacks_of_mem_rounds {s : Sweep} {l : List ShardId} {r : Round}
    (h : r ∈ (rounds quota lacks s l).rounds) :
    r.peer ∈ s.ring.peers ∧ ∀ x ∈ r.shards, lacks r.peer x = true := by
  fun_induction rounds quota lacks s l with
  | case1 s => cases h
  | case2 s head rest _ => cases h
  | case3 s head rest peer t ht parts more ih =>
    have same : (if parts.1.isEmpty then t else t.take).ring.peers = s.ring.peers := by
      split <;> exact (Sweep.peers_of_next? ht).2
    rcases List.mem_cons.1 h with rfl | h
    · exact ⟨(Sweep.peers_of_next? ht).1, fun x hx => of_mem_share hx⟩
    · exact same ▸ ih h

@[simp] theorem peers_rounds (s : Sweep) (l : List ShardId) :
    (rounds quota lacks s l).sweep.ring.peers = s.ring.peers := by
  fun_induction rounds quota lacks s l with
  | case1 s => rfl
  | case2 s head rest _ => rfl
  | case3 s head rest peer t ht parts more ih =>
    refine ih.trans ?_
    split <;> exact (Sweep.peers_of_next? ht).2

theorem held_of_stuck (hq : 0 < quota) {s : Sweep} {l : List ShardId}
    (passed : ∀ p ∈ s.passed, ∀ x ∈ l, lacks p x = false) {x : ShardId}
    (h : (rounds quota lacks s l).stuck = some x) :
    x ∈ l ∧ ∀ p ∈ s.ring.peers, lacks p x = false := by
  -- the peers passed over since the last turn that took something lack no shard that waits; in the end these are all peers
  fun_induction rounds quota lacks s l with
  | case1 s => cases h
  | case2 s head rest ht =>
    cases h
    exact ⟨List.mem_cons_self, fun p hp =>
      passed p (Sweep.mem_passed_of_next?_eq_none ht hp) _ List.mem_cons_self⟩
  | case3 s head rest peer t ht parts more ih =>
    have perm : (parts.1 ++ parts.2).Perm (head :: rest) := perm_share ..
    have within : ∀ y ∈ parts.2, y ∈ head :: rest := fun y hy =>
      perm.mem_iff.1 (List.mem_append_right _ hy)
    have same : (if parts.1.isEmpty then t else t.take).ring.peers = s.ring.peers := by
      split <;> exact (Sweep.peers_of_next? ht).2
    have held : ∀ p ∈ (if parts.1.isEmpty then t else t.take).passed, ∀ y ∈ parts.2,
        lacks p y = false := by
      intro p hp y hy
      split at hp
      next he =>
        -- the turn took nothing, so its peer holds all that waits
        rw [Sweep.passed_of_next? ht, List.mem_append, List.mem_singleton] at hp
        rcases hp with hp | rfl
        · exact passed p hp y (within y hy)
        · exact not_of_share_eq_nil hq (List.isEmpty_iff.1 he) y (within y hy)
      next => simp at hp
    obtain ⟨hx, all⟩ := ih held h
    exact ⟨within x hx, same ▸ all⟩

end Rounds

theorem quota_pos (shards peers : Nat) : 0 < quota shards peers := by
  unfold quota
  omega

namespace DrainRequest

variable {r : DrainRequest} {t : Topology} {ring : Ring}

/-- The rounds of a draft of which some shard is the source's. -/
def rounds (r : DrainRequest) (t : Topology) (ring : Ring) : Rounds :=
  Planning.rounds (quota (t.placement.shardsOn r.source).size ring.size)
    (fun p s => !t.placement.holds p s) ring.reset.sweep (t.placement.shardsOn r.source).toList

theorem draft_stuck : (r.draft t ring).1.stuck = (r.rounds t ring).stuck := by
  unfold draft rounds Ordered.Set.size
  cases (t.placement.shardsOn r.source).toList with
  | nil => rw [Planning.rounds]; rfl
  | cons s l => rfl

theorem draft_transfers :
    (r.draft t ring).1.transfers = (r.rounds t ring).rounds.flatMap (r.roundTransfers t) := by
  unfold draft rounds Ordered.Set.size
  cases (t.placement.shardsOn r.source).toList with
  | nil => rw [Planning.rounds]; rfl
  | cons s l => exact Draft.filterMap_transfer _

theorem draft_of_peers {q : Ring} (h : q.peers = ring.peers) :
    (r.draft t q).1 = (r.draft t ring).1 := by
  unfold draft Ring.size
  rw [Ring.reset_eq_of_peers h, h]
  cases (t.placement.shardsOn r.source).toList <;> rfl

@[simp] theorem peers_draft : (r.draft t ring).2.peers = ring.peers := by
  unfold draft
  cases (t.placement.shardsOn r.source).toList with
  | nil => rfl
  | cons s l => exact peers_rounds _ _

theorem shards_draft : (r.draft t ring).1.transfers.map Transfer.shard = (r.rounds t ring).taken := by
  rw [draft_transfers, Rounds.taken, List.map_flatMap]
  congr
  funext round
  simp [roundTransfers, transfer, Function.comp_def]

theorem shards_draft_perm (h : (r.draft t ring).1.stuck = none) :
    ((r.draft t ring).1.transfers.map Transfer.shard).Perm (t.placement.shardsOn r.source).toList := by
  obtain ⟨waiting, perm, stuck⟩ := perm_rounds (quota (t.placement.shardsOn r.source).size ring.size)
    (fun p s => !t.placement.holds p s) ring.reset.sweep (t.placement.shardsOn r.source).toList
  have empty : waiting = [] := by
    rw [draft_stuck] at h
    exact List.head?_eq_none_iff.1 (stuck.symm.trans h)
  rw [empty, List.append_nil] at perm
  exact shards_draft ▸ perm

theorem of_mem_draft {x : Transfer} (h : x ∈ (r.draft t ring).1.transfers) :
    x = r.transfer t x.target x.shard ∧ x.target ∈ ring.peers ∧
      t.placement.holds x.target x.shard = false := by
  rw [draft_transfers, List.mem_flatMap] at h
  obtain ⟨round, hr, hx⟩ := h
  obtain ⟨s, hs, rfl⟩ := List.mem_map.1 hx
  obtain ⟨hp, lacks⟩ := lacks_of_mem_rounds hr
  have free : t.placement.holds round.peer s = false := by simpa using lacks s hs
  exact ⟨rfl, hp, free⟩

theorem held_of_mem_draft {x : Transfer} (free : (r.draft t ring).1.stuck = none)
    (h : x ∈ (r.draft t ring).1.transfers) : t.placement.holds r.source x.shard = true := by
  have moved := (shards_draft_perm free).mem_iff.1 (List.mem_map_of_mem h)
  exact Placement.holds_iff.2 (Placement.mem_shardsOn.1 moved)

theorem admits_draft (h : (r.draft t ring).1.stuck = none) : t.Admits (r.draft t ring).1.transfers where
  collection x hx := by rw [(of_mem_draft hx).1]; rfl
  lacking x hx := (of_mem_draft hx).2.2
  nodup := (shards_draft_perm h).nodup_iff.2 (t.placement.shardsOn r.source).ascending.nodup

theorem of_draft_stuck {x : ShardId} (h : (r.draft t ring).1.stuck = some x) :
    t.placement.holds r.source x = true ∧ ∀ p ∈ ring.peers, t.placement.holds p x = true := by
  obtain ⟨hx, held⟩ := held_of_stuck (quota_pos _ _) (by simp) (draft_stuck ▸ h)
  exact ⟨Placement.holds_iff.2 (Placement.mem_shardsOn.1 hx), fun p hp => by simpa using held p hp⟩

theorem draft_stuck_eq_none_iff :
    (r.draft t ring).1.stuck = none ↔
      ∀ s ∈ t.placement.shardsOn r.source, ∃ p ∈ ring.peers, t.placement.holds p s = false := by
  constructor
  · intro h s hs
    obtain ⟨x, hx, rfl⟩ := List.mem_map.1 ((shards_draft_perm h).mem_iff.2 hs)
    obtain ⟨-, hp, lacks⟩ := of_mem_draft hx
    exact ⟨x.target, hp, lacks⟩
  · intro free
    cases h : (r.draft t ring).1.stuck with
    | none => rfl
    | some s =>
      obtain ⟨held, all⟩ := of_draft_stuck h
      obtain ⟨p, hp, lacks⟩ := free s (Placement.mem_shardsOn.2 (Placement.holds_iff.1 held))
      rw [all p hp] at lacks
      cases lacks

end DrainRequest
end ShardBalance.Planning
