import ShardBalance.Proofs.Planning.Equalize
import ShardBalance.Proofs.Planning.Replicate

/-!
Drafts of copies of which the first were made. The target holds the shards of these then, and no peer has lost any;
what is drafted anew are the shards that were left, in the order in which they were left.
-/

namespace ShardBalance

/-- In `a'` the peer `p` holds some more shards than in `a`, and all else is held as in `a`. -/
def Placement.Gains (a : Placement) (p : PeerId) (shards : List ShardId) (a' : Placement) : Prop :=
  ∀ q s, a'.holds q s = true ↔ a.holds q s = true ∨ q = p ∧ s ∈ shards

/-- The same transfer, except perhaps for its source. -/
def Transfer.SameButSource (t u : Transfer) : Prop := u = { t with source := u.source }

theorem filter_not_mem_left {made left : List ShardId} (once : (made ++ left).Nodup) :
    ((made ++ left).filter fun s => decide (s ∉ made)) = left := by
  have apart := List.disjoint_of_nodup_append once
  have gone : (made.filter fun s => decide (s ∉ made)) = [] :=
    List.filter_eq_nil_iff.2 fun s hs => by simpa using hs
  have kept : (left.filter fun s => decide (s ∉ made)) = left :=
    List.filter_eq_self.2 fun s hs => by simpa using fun hm => apart hm hs
  rw [List.filter_append, gone, kept, List.nil_append]

namespace Placement.Gains

variable {a a' : Placement} {p q : PeerId} {shards : List ShardId} {s : ShardId}

theorem holds_eq_false (h : a.Gains p shards a') :
    a'.holds p s = false ↔ a.holds p s = false ∧ s ∉ shards := by
  have more := h p s
  simp only [← Bool.not_eq_true, more, true_and, not_or]

theorem shardsOn_of_ne (h : a.Gains p shards a') (other : q ≠ p) : a'.shardsOn q = a.shardsOn q := by
  ext s
  rw [mem_shardsOn, mem_shardsOn, ← holds_iff, ← holds_iff, h q s]
  simp [other]

theorem size_shardsOn (h : a.Gains p shards a') (once : shards.Nodup)
    (lacking : ∀ s ∈ shards, a.holds p s = false) :
    (a'.shardsOn p).size = (a.shardsOn p).size + shards.length := by
  have grown : a'.shardsOn p = shards.foldl Ordered.Set.insert (a.shardsOn p) := by
    ext s
    rw [Ordered.Set.mem_foldl_insert, mem_shardsOn, mem_shardsOn, ← holds_iff, ← holds_iff, h p s]
    simp
  rw [grown]
  refine Ordered.Set.size_foldl_insert once fun s new held => ?_
  rw [mem_shardsOn, ← holds_iff, lacking s new] at held
  cases held

theorem shards_eq (h : a.Gains p shards a') (known : ∀ s ∈ shards, s ∈ a.shards) : a'.shards = a.shards := by
  ext s
  simp only [mem_shards, ← holds_iff, h _ s]
  constructor
  · rintro ⟨q, held | ⟨-, new⟩⟩
    · exact ⟨q, held⟩
    · obtain ⟨o, held⟩ := mem_shards.1 (known s new)
      exact ⟨o, holds_iff.2 held⟩
  · rintro ⟨q, held⟩
    exact ⟨q, .inl held⟩

theorem replication_of_not_mem (h : a.Gains p shards a') (other : s ∉ shards) :
    a'.replication s = a.replication s := by
  have same : a'.holders s = a.holders s := by
    ext q
    rw [mem_holders, mem_holders, ← holds_iff, ← holds_iff, h q s]
    simp [other]
  rw [replication, same, replication]

end Placement.Gains

namespace Planning

variable {t t' : Topology} {made left : List ShardId}

namespace EqualizeRequest

variable {r : EqualizeRequest}

theorem nodup_lacked : (r.lacked t).Nodup :=
  List.filter_sublist.nodup (t.placement.shardsOn r.source).ascending.nodup

theorem lacked_of_gains (apart : r.source ≠ r.target) (gains : t.placement.Gains r.target made t'.placement)
    (split : r.lacked t = made ++ left) : r.lacked t' = left := by
  have once : (made ++ left).Nodup := split ▸ nodup_lacked
  rw [← filter_not_mem_left once, ← split, lacked, lacked, gains.shardsOn_of_ne apart, List.filter_filter]
  refine List.filter_congr fun s _ => ?_
  rw [Bool.eq_iff_iff]
  simp [gains.holds_eq_false, and_comm]

theorem gap_of_gains (apart : r.source ≠ r.target) (gains : t.placement.Gains r.target made t'.placement)
    (once : made.Nodup) (lacking : ∀ s ∈ made, t.placement.holds r.target s = false) :
    r.gap t' = r.gap t - made.length := by
  rw [gap, gap, gains.shardsOn_of_ne apart, gains.size_shardsOn once lacking, Nat.sub_add_eq]

theorem wanted_of_gains (gains : t.placement.Gains r.target made t'.placement)
    (split : r.wanted t = made ++ left) : r.wanted t' = left := by
  by_cases loop : r.source = r.target
  · -- a peer is never behind itself
    have level : ∀ u, r.wanted u = [] := fun u => by simp [wanted_eq, gap, loop]
    have none := level t
    rw [split] at none
    rw [level t', (List.append_eq_nil_iff.1 none).2]
  have once : (made ++ left).Nodup := split ▸ wanted_sublist.nodup (t.placement.shardsOn r.source).ascending.nodup
  have lacking : ∀ s ∈ made, t.placement.holds r.target s = false := fun s hs =>
    lacks_of_mem_wanted (split ▸ List.mem_append_left left hs)
  have first : r.wanted t <+: r.lacked t := wanted_eq r t ▸ List.take_prefix ..
  obtain ⟨later, whole⟩ : made <+: r.lacked t := (split ▸ List.prefix_append made left).trans first
  calc r.wanted t'
      = later.take (r.gap t - made.length) := by
        rw [wanted_eq, lacked_of_gains loop gains whole.symm,
          gap_of_gains loop gains (List.nodup_append'.1 once).1 lacking]
    _ = ((r.lacked t).drop made.length).take (r.gap t - made.length) := by rw [← whole, List.drop_left]
    _ = (r.wanted t).drop made.length := by rw [wanted_eq, List.drop_take]
    _ = left := by rw [split, List.drop_left]

end EqualizeRequest

theorem ReplicateRequest.shards_of_gains {r : ReplicateRequest} {ring : Ring} (factor : t'.factor = t.factor)
    (gains : t.placement.Gains r.target made t'.placement) (free : (r.draft t ring).1.stuck = none)
    (split : (r.draft t ring).1.transfers.map Transfer.shard = made ++ left) :
    (r.draft t' ring).1.stuck = none ∧ (r.draft t' ring).1.transfers.map Transfer.shard = left := by
  have drafted := (shards_draft free).symm.trans split
  have once : (made ++ left).Nodup := split ▸ admits_draft.nodup
  have known : ∀ s ∈ made, s ∈ t.placement.shards := fun s hs =>
    (List.mem_filter.1 (drafted ▸ List.mem_append_left left hs)).1
  have shards := gains.shards_eq known
  have skip : ∀ s, r.skip? t' s = none ↔ r.skip? t s = none ∧ s ∉ made := by
    intro s
    rw [skip?_eq_none_iff, skip?_eq_none_iff, gains.holds_eq_false, factor, and_assoc]
    refine and_congr_left fun ⟨_, other⟩ => ?_
    rw [gains.replication_of_not_mem other]
  have free' : (r.draft t' ring).1.stuck = none := by
    rw [draft_stuck_eq_none_iff, shards]
    intro s hs needed
    obtain ⟨p, hp, held⟩ := draft_stuck_eq_none_iff.1 free s hs ((skip s).1 needed).1
    exact ⟨p, hp, (gains p s).2 (.inl held)⟩
  refine ⟨free', ?_⟩
  calc (r.draft t' ring).1.transfers.map Transfer.shard
      = t.placement.shards.toList.filter fun s => (r.skip? t' s).isNone := by rw [shards_draft free', shards]
    _ = (t.placement.shards.toList.filter fun s => (r.skip? t s).isNone).filter fun s => decide (s ∉ made) := by
        rw [List.filter_filter]
        refine List.filter_congr fun s _ => ?_
        rw [Bool.eq_iff_iff]
        simp [skip s, and_comm]
    _ = left := by rw [drafted, filter_not_mem_left once]

variable {a b : List Transfer}

theorem EqualizeRequest.draft_of_gains {r : EqualizeRequest} (collection : t'.collection = t.collection)
    (gains : t.placement.Gains r.target (a.map Transfer.shard) t'.placement)
    (split : (r.draft t).transfers = a ++ b) : (r.draft t').transfers = b := by
  have form : ∀ x ∈ b, r.transfer t x.shard = x := fun x hx =>
    (of_mem_draft (split ▸ List.mem_append_right a hx)).1.symm
  have shards : r.wanted t = a.map Transfer.shard ++ b.map Transfer.shard := by
    rw [← List.map_append, ← split, shards_draft]
  have same : r.transfer t' = r.transfer t := by
    funext s
    simp [transfer, collection]
  rw [draft_transfers, wanted_of_gains gains shards, same, List.map_map]
  exact (List.map_congr_left form).trans (List.map_id _)

theorem ReplicateRequest.draft_of_gains {r : ReplicateRequest} {ring : Ring}
    (collection : t'.collection = t.collection) (factor : t'.factor = t.factor)
    (gains : t.placement.Gains r.target (a.map Transfer.shard) t'.placement)
    (free : (r.draft t ring).1.stuck = none) (split : (r.draft t ring).1.transfers = a ++ b) :
    (r.draft t' ring).1.stuck = none ∧ List.Forall₂ Transfer.SameButSource b (r.draft t' ring).1.transfers := by
  obtain ⟨free', left⟩ := shards_of_gains factor gains free (by rw [split, List.map_append])
  refine ⟨free', ?_⟩
  have aligned : List.Forall₂ (fun x y => x.shard = y.shard) b (r.draft t' ring).1.transfers := by
    rw [← List.forall₂_map_right_iff (f := Transfer.shard) (R := fun x s => Transfer.shard x = s), left,
      List.forall₂_map_right_iff, List.forall₂_same]
    exact fun x _ => rfl
  obtain ⟨length, same⟩ := List.forall₂_iff_zip.1 aligned
  refine List.forall₂_iff_zip.2 ⟨length, fun {x y} both => ?_⟩
  obtain ⟨hx, hy⟩ := List.of_mem_zip both
  have shard : y.shard = x.shard := (same both).symm
  have old : x = r.transfer t x.shard x.source := (of_mem_draft (split ▸ List.mem_append_right a hx)).1
  calc y = r.transfer t' y.shard y.source := (of_mem_draft hy).1
    _ = { r.transfer t x.shard x.source with source := y.source } := by simp [transfer, collection, shard]
    _ = { x with source := y.source } := by rw [← old]

end Planning
end ShardBalance
