import Mathlib.Data.List.Perm.Subperm
import ShardBalance.Proofs.Planning.Gains

/-!
Equalizations by their counts. Of the shards that only the source holds there are at least as many as the target is
behind, so the smallest of them bring the target level, and one pass over the shards of the source is enough.
-/

namespace ShardBalance.Planning.EqualizeRequest

variable {r : EqualizeRequest} {t : Topology} {s : ShardId}

theorem mem_lacked : s ∈ r.lacked t ↔ s ∈ t.placement.shardsOn r.source ∧ s ∉ t.placement.shardsOn r.target := by
  rw [lacked, List.mem_filter, Ordered.Set.mem_toList, Placement.mem_shardsOn (p := r.target), ← Placement.holds_iff]
  simp

theorem gap_le_length_lacked : r.gap t ≤ (r.lacked t).length := by
  -- the shards that both hold are no more than the target holds
  let source := (t.placement.shardsOn r.source).toList
  have split : source.length = (source.filter (t.placement.holds r.target ·)).length + (r.lacked t).length :=
    List.length_eq_length_filter_add _
  have common : (source.filter (t.placement.holds r.target ·)).length ≤ (t.placement.shardsOn r.target).size := by
    have once : (source.filter (t.placement.holds r.target ·)).Nodup :=
      List.filter_sublist.nodup (t.placement.shardsOn r.source).ascending.nodup
    refine (once.subperm fun s hs => ?_).length_le
    exact Placement.mem_shardsOn.2 (Placement.holds_iff.1 (List.mem_filter.1 hs).2)
  have whole : (t.placement.shardsOn r.source).size = source.length := rfl
  rw [gap]
  omega

theorem length_wanted : (r.wanted t).length = r.gap t := by
  rw [wanted_eq, List.length_take, Nat.min_eq_left gap_le_length_lacked]

theorem ascending_lacked : Ordered.Ascending (r.lacked t) :=
  (t.placement.shardsOn r.source).ascending.sublist List.filter_sublist

theorem ascending_wanted : Ordered.Ascending (r.wanted t) :=
  wanted_eq r t ▸ ascending_lacked.sublist (List.take_sublist ..)

theorem lt_of_not_mem_wanted {x : ShardId} (hx : x ∈ r.wanted t) (hs : s ∈ r.lacked t) (left : s ∉ r.wanted t) :
    x < s := by
  rw [wanted_eq] at hx left
  have parts : r.lacked t = (r.lacked t).take (r.gap t) ++ (r.lacked t).drop (r.gap t) :=
    (List.take_append_drop ..).symm
  have behind : s ∈ (r.lacked t).drop (r.gap t) := (List.mem_append.1 (parts ▸ hs)).resolve_left left
  have ascending : Ordered.Ascending (r.lacked t) := ascending_lacked
  rw [parts] at ascending
  exact UInt32.lt_iff_toNat_lt.2 ((List.pairwise_append.1 ascending).2.2 x hx s behind)

theorem transfers_eq_nil_iff :
    (r.draft t).transfers = [] ↔ (t.placement.shardsOn r.source).size ≤ (t.placement.shardsOn r.target).size := by
  rw [draft_transfers, List.map_eq_nil_iff, ← List.length_eq_zero_iff, length_wanted, gap]
  exact Nat.sub_eq_zero_iff_le

/-- An equalization never fails. It copies as many shards as the target is behind, the smallest of those that only the
source holds, in ascending order and in one pass. With them the target holds as many shards as the source, unless it held
more before, and just the same ones if it held none. -/
theorem equalization_levels (r : EqualizeRequest) (t : Topology) :
    let source := t.placement.shardsOn r.source
    let target := t.placement.shardsOn r.target
    let plan := (r.draft t).transfers
    let planned := plan.map Transfer.shard
    let filled := planned.foldl Ordered.Set.insert target
    (∀ n, (r.draft t).result t.collection n = .ok plan) ∧
      planned.length = source.size - target.size ∧ planned.Pairwise (· < ·) ∧
      (∀ s ∈ planned, s ∈ source ∧ s ∉ target) ∧
      (∀ s ∈ source, s ∉ target → s ∉ planned → ∀ x ∈ planned, x < s) ∧
      (∀ x ∈ plan, x.collection = t.collection ∧ x.kind = .copy ∧ x.method = r.method ∧ x.source = r.source ∧
        x.target = r.target) ∧
      planned = catchUp (fun s => !t.placement.holds r.target s) source.size target.size source.toList ∧
      filled.size = max source.size target.size ∧ (target = .empty → filled = source) ∧
      (plan = [] ↔ source.size ≤ target.size) := by
  intro source target plan planned filled
  have shards : planned = r.wanted t := shards_draft
  have only : ∀ s ∈ planned, s ∈ source ∧ s ∉ target := fun s hs =>
    mem_lacked.1 (List.mem_of_mem_take (wanted_eq r t ▸ shards ▸ hs))
  have length : planned.length = source.size - target.size := shards ▸ length_wanted
  have ascending : Ordered.Ascending planned := shards ▸ ascending_wanted
  have size : filled.size = max source.size target.size := by
    have sum := Ordered.Set.size_foldl_insert ascending.nodup fun s hs => (only s hs).2
    rw [length] at sum
    exact sum.trans (by omega)
  refine ⟨fun _ => Draft.result_eq_ok_iff.2 ⟨draft_stuck, rfl⟩, length, ascending.imp UInt32.lt_iff_toNat_lt.2, only,
    fun s held lacking left x hx => ?_, fun x hx => ?_, shards, size, fun bare => ?_,
    transfers_eq_nil_iff⟩
  · rw [shards] at hx left
    exact lt_of_not_mem_wanted hx (mem_lacked.2 ⟨held, lacking⟩) left
  · rw [(of_mem_draft hx).1]
    exact ⟨rfl, rfl, rfl, rfl, rfl⟩
  · have none : target.size = 0 := by rw [bare]; rfl
    have sub : planned.Sublist source.toList := shards ▸ wanted_sublist
    have all : planned = source.toList := sub.eq_of_length (by rw [length, none]; rfl)
    ext s
    show s ∈ planned.foldl Ordered.Set.insert target ↔ s ∈ source
    rw [Ordered.Set.mem_foldl_insert, bare, all, Ordered.Set.mem_toList]
    simp

end ShardBalance.Planning.EqualizeRequest
