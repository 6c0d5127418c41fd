import ShardBalance.Planning.Equalize
import ShardBalance.Proofs.Planning.Draft

/-!
Drafts of equalizations. Each shard is copied at most once, and only where the target lacks it.
-/

namespace ShardBalance.Planning.EqualizeRequest

variable {r : EqualizeRequest} {t : Topology}

theorem catchUp_eq_take (lacks : ShardId → Bool) (goal held : Nat) (l : List ShardId) :
    catchUp lacks goal held l = (l.filter lacks).take (goal - held) := by
  induction l generalizing held with
  | nil => simp [catchUp]
  | cons s rest ih =>
    unfold catchUp
    split
    next level => simp [Nat.sub_eq_zero_of_le level]
    next behind =>
      have more : goal - held = (goal - (held + 1)) + 1 := by omega
      cases lacking : lacks s with
      | true => simp [ih, lacking, more]
      | false => simp [ih, lacking]

/-- The shards of the source that the target lacks. -/
def lacked (r : EqualizeRequest) (t : Topology) : List ShardId :=
  (t.placement.shardsOn r.source).toList.filter (!t.placement.holds r.target ·)

/-- How far the target is behind. -/
def gap (r : EqualizeRequest) (t : Topology) : Nat :=
  (t.placement.shardsOn r.source).size - (t.placement.shardsOn r.target).size

theorem wanted_eq (r : EqualizeRequest) (t : Topology) : r.wanted t = (r.lacked t).take (r.gap t) :=
  catchUp_eq_take ..

@[simp] theorem draft_stuck : (r.draft t).stuck = none := by
  unfold draft
  cases r.wanted t <;> rfl

theorem draft_transfers : (r.draft t).transfers = (r.wanted t).map (r.transfer t) := by
  have quiet : (if (t.placement.shardsOn r.target).size = 0 then []
      else [Step.targetOccupied r.target (t.placement.shardsOn r.target).size]).filterMap
        Step.transfer? = [] := by
    split <;> rfl
  unfold draft
  split
  next h =>
    rw [h, Draft.transfers_ofSteps, List.filterMap_append, quiet]
    rfl
  next h =>
    rw [Draft.transfers_ofSteps, List.filterMap_append, quiet, ← List.map_map,
      Draft.filterMap_transfer, List.nil_append]

theorem shards_draft : (r.draft t).transfers.map Transfer.shard = r.wanted t := by
  rw [draft_transfers, List.map_map]
  exact List.map_id _

theorem wanted_sublist : (r.wanted t).Sublist (t.placement.shardsOn r.source).toList := by
  rw [wanted_eq]
  exact (List.take_sublist ..).trans List.filter_sublist

theorem lacks_of_mem_wanted {s : ShardId} (h : s ∈ r.wanted t) :
    t.placement.holds r.target s = false := by
  rw [wanted_eq] at h
  have hs := (List.mem_filter.1 (List.mem_of_mem_take h)).2
  simpa using hs

theorem of_mem_draft {x : Transfer} (h : x ∈ (r.draft t).transfers) :
    x = r.transfer t x.shard ∧ t.placement.holds r.source x.shard = true := by
  rw [draft_transfers] at h
  obtain ⟨s, hs, rfl⟩ := List.mem_map.1 h
  exact ⟨rfl, Placement.holds_iff.2 (Placement.mem_shardsOn.1 (wanted_sublist.mem hs))⟩

theorem admits_draft : t.Admits (r.draft t).transfers where
  collection x hx := by
    rw [draft_transfers] at hx
    obtain ⟨s, -, rfl⟩ := List.mem_map.1 hx
    rfl
  lacking x hx := by
    rw [draft_transfers] at hx
    obtain ⟨s, hs, rfl⟩ := List.mem_map.1 hx
    exact lacks_of_mem_wanted hs
  nodup := by
    rw [shards_draft]
    exact wanted_sublist.nodup (t.placement.shardsOn r.source).ascending.nodup

end ShardBalance.Planning.EqualizeRequest
