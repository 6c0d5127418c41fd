import ShardBalance.Planning.Replicate
import ShardBalance.Proofs.Planning.Draft
import ShardBalance.Proofs.Ring

/-!
Drafts of replications. Each shard is copied at most once, and only where the target lacks it. A draft gets
stuck only where no peer of the ring holds a shard that needs a copy; else all that need one get one.
-/

namespace ShardBalance.Planning.ReplicateRequest

variable {r : ReplicateRequest} {t : Topology} {ring : Ring}

theorem skip?_eq_none_iff {shard : ShardId} :
    r.skip? t shard = none ↔
      (r.ignoreFactor = false → t.placement.replication shard < t.factor) ∧
        t.placement.holds r.target shard = false := by
  unfold skip?
  cases r.ignoreFactor with
  | true => cases t.placement.holds r.target shard <;> simp
  | false =>
    rcases Nat.lt_or_ge (t.placement.replication shard) t.factor with fewer | enough
    · cases t.placement.holds r.target shard <;> simp [fewer, Nat.not_le.2 fewer]
    · simp [enough, Nat.not_lt.2 enough]

theorem transfer?_of_skip? {shard : ShardId} {step : Step} (h : r.skip? t shard = some step) :
    step.transfer? = none := by
  unfold skip? at h
  split at h
  · cases h; rfl
  · split at h
    · cases h; rfl
    · cases h

theorem of_mem_copies {s : Sweep} {l : List ShardId} {x : Transfer}
    (h : x ∈ (r.copies t s l).1.transfers) :
    x = r.transfer t x.shard x.source ∧ t.placement.holds r.target x.shard = false := by
  fun_induction copies r t s l with
  | case1 s => simp at h
  | case2 s shard rest step skipped d q more ih =>
    rw [more] at ih
    rw [Draft.transfers_after_of_eq_none (transfer?_of_skip? skipped)] at h
    exact ih h
  | case3 s shard rest needed search missing => cases h
  | case4 s shard rest needed search source found d q more ih =>
    rw [more] at ih
    rw [Draft.transfers_after_transfer] at h
    rcases List.mem_cons.1 h with rfl | h
    · exact ⟨rfl, (skip?_eq_none_iff.1 needed).2⟩
    · exact ih h

theorem shards_copies_sublist (s : Sweep) (l : List ShardId) :
    ((r.copies t s l).1.transfers.map Transfer.shard).Sublist l := by
  fun_induction copies r t s l with
  | case1 s => exact .refl _
  | case2 s shard rest step skipped d q more ih =>
    rw [more] at ih
    rw [Draft.transfers_after_of_eq_none (transfer?_of_skip? skipped)]
    exact ih.cons shard
  | case3 s shard rest needed search missing => exact List.nil_sublist _
  | case4 s shard rest needed search source found d q more ih =>
    rw [more] at ih
    rw [Draft.transfers_after_transfer]
    exact ih.cons_cons shard

theorem source_of_mem_copies {s : Sweep} {l : List ShardId} {x : Transfer}
    (h : x ∈ (r.copies t s l).1.transfers) :
    x.source ∈ s.ring.peers ∧ t.placement.holds x.source x.shard = true := by
  fun_induction copies r t s l with
  | case1 s => simp at h
  | case2 s shard rest step skipped d q more ih =>
    rw [more] at ih
    rw [Draft.transfers_after_of_eq_none (transfer?_of_skip? skipped)] at h
    exact ih h
  | case3 s shard rest needed search missing => cases h
  | case4 s shard rest needed search source found d q more ih =>
    rw [more, Sweep.peers_find] at ih
    rw [Draft.transfers_after_transfer] at h
    rcases List.mem_cons.1 h with rfl | h
    · obtain ⟨member, holds, -⟩ := Sweep.of_find_eq_some found
      exact ⟨member, holds⟩
    · exact ih h

theorem of_copies_stuck {s : Sweep} (fresh : s.passed = []) {l : List ShardId} {x : ShardId}
    (h : (r.copies t s l).1.stuck = some x) :
    x ∈ l ∧ r.skip? t x = none ∧ ∀ p ∈ s.ring.peers, t.placement.holds p x = false := by
  -- each search starts with a full turn ahead, so one that fails has asked every peer
  fun_induction copies r t s l with
  | case1 s => cases h
  | case2 s shard rest step skipped d q more ih =>
    rw [more] at ih
    obtain ⟨hx, rest⟩ := ih fresh h
    exact ⟨List.mem_cons_of_mem _ hx, rest⟩
  | case3 s shard rest needed search missing =>
    cases h
    exact ⟨List.mem_cons_self, needed, Sweep.not_of_find_eq_none (by simp [fresh]) missing⟩
  | case4 s shard rest needed search source found d q more ih =>
    rw [more, Sweep.peers_find] at ih
    obtain ⟨-, -, turned⟩ := Sweep.of_find_eq_some found
    obtain ⟨hx, rest⟩ := ih turned h
    exact ⟨List.mem_cons_of_mem _ hx, rest⟩

theorem shards_copies {s : Sweep} {l : List ShardId} (h : (r.copies t s l).1.stuck = none) :
    (r.copies t s l).1.transfers.map Transfer.shard = l.filter fun shard => (r.skip? t shard).isNone := by
  fun_induction copies r t s l with
  | case1 s => rfl
  | case2 s shard rest step skipped d q more ih =>
    rw [more] at ih
    rw [Draft.transfers_after_of_eq_none (transfer?_of_skip? skipped)]
    simpa [skipped] using ih h
  | case3 s shard rest needed search missing => cases h
  | case4 s shard rest needed search source found d q more ih =>
    rw [more] at ih
    rw [Draft.transfers_after_transfer]
    simpa [needed, transfer] using ih h

@[simp] theorem peers_copies (s : Sweep) (l : List ShardId) :
    (r.copies t s l).2.ring.peers = s.ring.peers := by
  fun_induction copies r t s l with
  | case1 s => rfl
  | case2 s shard rest step skipped d q more ih =>
    rw [more] at ih
    exact ih
  | case3 s shard rest needed search missing => exact Sweep.peers_find ..
  | case4 s shard rest needed search source found d q more ih =>
    rw [more] at ih
    exact ih.trans (Sweep.peers_find ..)

theorem draft_of_peers {q : Ring} (h : q.peers = ring.peers) :
    (r.draft t q).1 = (r.draft t ring).1 := by
  unfold draft
  rw [Ring.reset_eq_of_peers h]
  split <;> rfl

@[simp] theorem peers_draft : (r.draft t ring).2.peers = ring.peers := by
  unfold draft
  split
  · rfl
  · exact peers_copies ..

theorem of_mem_draft {x : Transfer} (h : x ∈ (r.draft t ring).1.transfers) :
    x = r.transfer t x.shard x.source ∧ t.placement.holds r.target x.shard = false := by
  unfold draft at h
  split at h
  · cases h
  · exact of_mem_copies h

theorem source_of_mem_draft {x : Transfer} (h : x ∈ (r.draft t ring).1.transfers) :
    x.source ∈ ring.peers ∧ t.placement.holds x.source x.shard = true := by
  unfold draft at h
  split at h
  · cases h
  · exact source_of_mem_copies h

theorem skip?_ne_none (h : (!r.ignoreFactor && t.factor == 0) = true) (shard : ShardId) :
    r.skip? t shard ≠ none := by
  obtain ⟨respected, unknown⟩ : r.ignoreFactor = false ∧ t.factor = 0 := by simpa using h
  intro needed
  have fewer := (skip?_eq_none_iff.1 needed).1 respected
  omega

theorem shards_draft (h : (r.draft t ring).1.stuck = none) :
    (r.draft t ring).1.transfers.map Transfer.shard =
      t.placement.shards.toList.filter fun s => (r.skip? t s).isNone := by
  unfold draft at h ⊢
  by_cases unknown : (!r.ignoreFactor && t.factor == 0) = true
  · rw [if_pos unknown]
    symm
    refine List.filter_eq_nil_iff.2 fun s _ => ?_
    simpa using skip?_ne_none unknown s
  · rw [if_neg unknown] at h ⊢
    exact shards_copies h

theorem of_draft_stuck {x : ShardId} (h : (r.draft t ring).1.stuck = some x) :
    x ∈ t.placement.shards ∧ r.skip? t x = none ∧ ∀ p ∈ ring.peers, t.placement.holds p x = false := by
  unfold draft at h
  split at h
  · cases h
  · exact of_copies_stuck (Sweep.passed_sweep ring.reset) h

theorem draft_stuck_eq_none_iff :
    (r.draft t ring).1.stuck = none ↔
      ∀ s ∈ t.placement.shards, r.skip? t s = none → ∃ p ∈ ring.peers, t.placement.holds p s = true := by
  constructor
  · intro h s hs needed
    have copied : s ∈ (r.draft t ring).1.transfers.map Transfer.shard := by
      rw [shards_draft h]
      exact List.mem_filter.2 ⟨hs, by simp [needed]⟩
    obtain ⟨x, hx, rfl⟩ := List.mem_map.1 copied
    exact ⟨x.source, source_of_mem_draft hx⟩
  · intro free
    cases h : (r.draft t ring).1.stuck with
    | none => rfl
    | some s =>
      obtain ⟨hs, needed, none⟩ := of_draft_stuck h
      obtain ⟨p, hp, holds⟩ := free s hs needed
      rw [none p hp] at holds
      cases holds

theorem shards_draft_sublist :
    ((r.draft t ring).1.transfers.map Transfer.shard).Sublist t.placement.shards.toList := by
  unfold draft
  split
  · exact List.nil_sublist _
  · exact shards_copies_sublist ..

theorem admits_draft : t.Admits (r.draft t ring).1.transfers where
  collection x hx := by rw [(of_mem_draft hx).1]; rfl
  lacking x hx := by
    obtain ⟨hx, lacks⟩ := of_mem_draft hx
    rw [hx]
    exact lacks
  nodup := shards_draft_sublist.nodup t.placement.shards.ascending.nodup

end ShardBalance.Planning.ReplicateRequest
