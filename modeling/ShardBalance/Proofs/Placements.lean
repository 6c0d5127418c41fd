import Mathlib.Data.List.Sort
import Mathlib.Data.Set.Card
import ShardBalance.Placement

/-!
Placements by their two listings, that of the peers with their shards and that of the shards with the number of their
replicas. Both tell of the same holdings, whatever the placement was built from. A holding that is added goes into the
one under its peer, and counts in the other only if it is new.
-/

namespace ShardBalance

theorem Ordered.AscendingKeys.eq_of_mem_iff {κ ν : Type} [Ranked κ] {l m : List (κ × ν)}
    (hl : Ordered.AscendingKeys l) (hm : Ordered.AscendingKeys m) (same : ∀ x, x ∈ l ↔ x ∈ m) : l = m := by
  have irrefl : Std.Irrefl fun a b : κ × ν => rank a.1 < rank b.1 := ⟨fun a => Nat.lt_irrefl _⟩
  have antisymm : Std.Antisymm fun a b : κ × ν => rank a.1 < rank b.1 := ⟨fun a b h h' => absurd h (Nat.lt_asymm h')⟩
  exact List.Pairwise.eq_of_mem_iff hl hm same

/-- Whether a report tells of a shard on a peer, among the reporter's own replicas or among the others, in a state that
counts. -/
def PlacementReport.Tells (r : PlacementReport) (activeOnly : Bool) (p : PeerId) (s : ShardId) : Prop :=
  (p = r.reporter ∧ ∃ x ∈ r.own, x.shard = s ∧ (activeOnly = true → x.state = .active)) ∨
    ∃ x ∈ r.others, x.peer = p ∧ x.shard = s ∧ (activeOnly = true → x.state = .active)

namespace Placement

variable {a : Placement} {p q : PeerId} {s u : ShardId} {l : Ordered.Set ShardId} {n : Nat}

theorem counts_iff {activeOnly : Bool} {x : Replica} :
    counts activeOnly x = true ↔ (activeOnly = true → x.state = .active) := by
  cases activeOnly <;> simp [counts, ReplicaState.isActive]

theorem mem_shardsOn_ofHoldings {h : List Holding} : s ∈ (ofHoldings q h).shardsOn p ↔ ⟨p, s⟩ ∈ h := by
  rw [mem_shardsOn, ofHoldings, Ordered.Set.mem_ofList]

theorem mem_shardsOn_ofReport {activeOnly : Bool} {r : PlacementReport} :
    s ∈ (ofReport activeOnly r).shardsOn p ↔ r.Tells activeOnly p s := by
  rw [ofReport, mem_shardsOn_ofHoldings, PlacementReport.Tells]
  simp only [List.mem_map, List.mem_filter, counts_iff, PlacementReport.replicas, PlacementReport.ownReplicas,
    List.mem_append, Replica.holding, Holding.mk.injEq]
  constructor
  · rintro ⟨x, ⟨⟨y, hy, rfl⟩ | hx, counted⟩, rfl, rfl⟩
    · exact .inl ⟨rfl, y, hy, rfl, counted⟩
    · exact .inr ⟨x, hx, rfl, rfl, counted⟩
  · rintro (⟨rfl, y, hy, rfl, counted⟩ | ⟨x, hx, rfl, rfl, counted⟩)
    · exact ⟨_, ⟨.inl ⟨y, hy, rfl⟩, counted⟩, rfl, rfl⟩
    · exact ⟨x, ⟨.inr hx, counted⟩, rfl, rfl⟩

theorem ofHoldings_eq_foldl (q : PeerId) (h : List Holding) : ofHoldings q h = h.foldl insert (ofHoldings q []) := by
  have build (s : Ordered.Set Holding) : (⟨q, h.foldl Ordered.Set.insert s⟩ : Placement) = h.foldl insert ⟨q, s⟩ := by
    induction h generalizing s with
    | nil => rfl
    | cons x rest ih => exact ih (s.insert x)
  exact build .empty

theorem ofHoldings_congr {h h' : List Holding} (same : ∀ x, x ∈ h ↔ x ∈ h') : ofHoldings q h = ofHoldings q h' :=
  congrArg (Placement.mk q) (Ordered.Set.ofList_eq_ofList_iff.2 same)

theorem ofReport_congr {activeOnly : Bool} {r r' : PlacementReport} (reporter : r.reporter = r'.reporter)
    (same : ∀ x, x ∈ r.replicas ↔ x ∈ r'.replicas) : ofReport activeOnly r = ofReport activeOnly r' := by
  unfold ofReport
  rw [reporter]
  refine ofHoldings_congr fun h => ?_
  simp only [List.mem_map, List.mem_filter, same]

theorem mem_peers : p ∈ a.peers ↔ p = a.reporter ∨ ∃ s, s ∈ a.shardsOn p := by
  rw [peers, Ordered.Set.mem_insert, Ordered.Set.mem_ofList, List.mem_map]
  simp only [mem_shardsOn]
  exact or_congr_right ⟨fun ⟨⟨_, s⟩, held, same⟩ => ⟨s, same ▸ held⟩, fun ⟨s, held⟩ => ⟨⟨p, s⟩, held, rfl⟩⟩

theorem mem_shardsPerPeer :
    (p, l) ∈ a.shardsPerPeer ↔ l = a.shardsOn p ∧ (p = a.reporter ∨ ∃ s, s ∈ a.shardsOn p) := by
  simp only [shardsPerPeer, List.mem_map, Prod.mk.injEq, Ordered.Set.mem_toList, mem_peers]
  exact ⟨fun ⟨_, listed, same, shards⟩ => ⟨by rw [← shards, same], same ▸ listed⟩,
    fun ⟨shards, listed⟩ => ⟨p, listed, rfl, shards.symm⟩⟩

theorem one_le_replication_iff : 1 ≤ a.replication s ↔ ∃ p, s ∈ a.shardsOn p := by
  rw [replication, Ordered.Set.size, Nat.one_le_iff_ne_zero, Nat.ne_zero_iff_zero_lt, List.length_pos_iff_exists_mem]
  simp only [Ordered.Set.mem_toList, mem_holders, mem_shardsOn]

theorem mem_replicationPerShard : (s, n) ∈ a.replicationPerShard ↔ n = a.replication s ∧ 1 ≤ a.replication s := by
  simp only [replicationPerShard, List.mem_map, Prod.mk.injEq, Ordered.Set.mem_toList, mem_shards, ← mem_shardsOn,
    ← one_le_replication_iff]
  exact ⟨fun ⟨_, held, same, count⟩ => ⟨by rw [← count, same], same ▸ held⟩,
    fun ⟨count, held⟩ => ⟨s, held, rfl, count.symm⟩⟩

theorem ascendingKeys_shardsPerPeer (a : Placement) : Ordered.AscendingKeys a.shardsPerPeer :=
  List.pairwise_map.2 a.peers.ascending

theorem ascendingKeys_replicationPerShard (a : Placement) : Ordered.AscendingKeys a.replicationPerShard :=
  List.pairwise_map.2 a.shards.ascending

theorem replication_eq_ncard (a : Placement) (s : ShardId) : a.replication s = {p | s ∈ a.shardsOn p}.ncard := by
  have same : {p | s ∈ a.shardsOn p} = ↑(a.holders s).toList.toFinset := by
    ext p
    simp [Ordered.Set.mem_toList, mem_holders, mem_shardsOn]
  rw [same, Set.ncard_coe_finset, List.toFinset_card_of_nodup (a.holders s).ascending.nodup]
  rfl

theorem lookup_shardsPerPeer (a : Placement) (p : PeerId) : (a.shardsPerPeer.lookup p).getD .empty = a.shardsOn p := by
  have found (l : Ordered.Set ShardId) : a.shardsPerPeer.lookup p = some l ↔ (p, l) ∈ a.shardsPerPeer :=
    Ordered.Map.get?_eq_some_iff (m := ⟨a.shardsPerPeer, a.ascendingKeys_shardsPerPeer⟩)
  cases looked : a.shardsPerPeer.lookup p with
  | some l => exact (mem_shardsPerPeer.1 ((found l).1 looked)).1
  | none =>
    ext s
    have bare : s ∉ a.shardsOn p := fun held => by
      have listed := (found (a.shardsOn p)).2 (mem_shardsPerPeer.2 ⟨rfl, .inr ⟨s, held⟩⟩)
      simp [looked] at listed
    simp [bare]

theorem lookup_replicationPerShard (a : Placement) (s : ShardId) :
    (a.replicationPerShard.lookup s).getD 0 = a.replication s := by
  have found (n : Nat) : a.replicationPerShard.lookup s = some n ↔ (s, n) ∈ a.replicationPerShard :=
    Ordered.Map.get?_eq_some_iff (m := ⟨a.replicationPerShard, a.ascendingKeys_replicationPerShard⟩)
  cases looked : a.replicationPerShard.lookup s with
  | some n => exact (mem_replicationPerShard.1 ((found n).1 looked)).1
  | none =>
    have bare : ¬ 1 ≤ a.replication s := fun held => by
      have listed := (found (a.replication s)).2 (mem_replicationPerShard.2 ⟨rfl, held⟩)
      simp [looked] at listed
    exact (Nat.lt_one_iff.1 (Nat.lt_of_not_le bare)).symm

theorem holders_eq_filter (a : Placement) (s : ShardId) :
    (a.holders s).toList = (a.shardsPerPeer.filter (·.2.contains s)).map Prod.fst := by
  refine (a.holders s).ascending.eq_of_mem_iff (List.pairwise_map.2 (a.ascendingKeys_shardsPerPeer.filter _)) fun p => ?_
  rw [Ordered.Set.mem_toList, mem_holders, ← mem_shardsOn, List.mem_map]
  constructor
  · intro held
    exact ⟨(p, a.shardsOn p), List.mem_filter.2 ⟨mem_shardsPerPeer.2 ⟨rfl, .inr ⟨s, held⟩⟩, by simpa using held⟩, rfl⟩
  · rintro ⟨⟨q, l⟩, listed, rfl⟩
    obtain ⟨listed, held⟩ := List.mem_filter.1 listed
    rw [← (mem_shardsPerPeer.1 listed).1]
    simpa using held

/-- The two listings of a placement, that of peers with their shards and that of shards with the number of their replicas,
tell of the same holdings, and all that is asked of the placement can be read off them. -/
structure Consistent (a : Placement) : Prop where
  /-- Listed are the reporter and all peers with a shard. -/
  peers : Ordered.AscendingKeys a.shardsPerPeer ∧
    ∀ p l, (p, l) ∈ a.shardsPerPeer ↔ l = a.shardsOn p ∧ (p = a.reporter ∨ ∃ s, s ∈ a.shardsOn p)
  /-- Listed are the shards with a replica. -/
  shards : Ordered.AscendingKeys a.replicationPerShard ∧
    ∀ s n, (s, n) ∈ a.replicationPerShard ↔ n = a.replication s ∧ 1 ≤ a.replication s
  shardsOn : ∀ p, a.shardsOn p = (a.shardsPerPeer.lookup p).getD .empty
  replication : ∀ s, a.replication s = (a.replicationPerShard.lookup s).getD 0
  holders : ∀ s, (a.holders s).toList = (a.shardsPerPeer.filter (·.2.contains s)).map Prod.fst ∧
    (a.holders s).toList.Pairwise (· < ·)
  count : ∀ s, a.replication s = (a.holders s).toList.length ∧ a.replication s = {p | s ∈ a.shardsOn p}.ncard

theorem consistent (a : Placement) : a.Consistent where
  peers := ⟨a.ascendingKeys_shardsPerPeer, fun _ _ => mem_shardsPerPeer⟩
  shards := ⟨a.ascendingKeys_replicationPerShard, fun _ _ => mem_replicationPerShard⟩
  shardsOn p := (a.lookup_shardsPerPeer p).symm
  replication s := (a.lookup_replicationPerShard s).symm
  holders s := ⟨a.holders_eq_filter s, (a.holders s).ascending.imp UInt64.lt_iff_toNat_lt.2⟩
  count s := ⟨rfl, a.replication_eq_ncard s⟩

@[simp] theorem reporter_insert (a : Placement) (h : Holding) : (a.insert h).reporter = a.reporter := rfl

theorem insert_of_holds (h : a.holds p s = true) : a.insert ⟨p, s⟩ = a :=
  congrArg (Placement.mk a.reporter) (Ordered.Set.insert_eq_self (holds_iff.1 h))

theorem shardsOn_insert :
    (a.insert ⟨p, s⟩).shardsOn q = if q = p then (a.shardsOn p).insert s else a.shardsOn q := by
  ext u
  rw [mem_shardsOn, insert, Ordered.Set.mem_insert, Holding.mk.injEq]
  split
  next same => rw [Ordered.Set.mem_insert, mem_shardsOn, same]; simp
  next other => rw [mem_shardsOn]; simp [other]

theorem holders_insert :
    (a.insert ⟨p, s⟩).holders u = if u = s then (a.holders s).insert p else a.holders u := by
  ext q
  rw [mem_holders, insert, Ordered.Set.mem_insert, Holding.mk.injEq]
  split
  next same => rw [Ordered.Set.mem_insert, mem_holders, same]; simp
  next other => rw [mem_holders]; simp [other]

theorem replication_insert (new : a.holds p s = false) :
    (a.insert ⟨p, s⟩).replication u = if u = s then a.replication s + 1 else a.replication u := by
  have fresh : ∀ q ∈ [p], q ∉ a.holders s := by simp [mem_holders, ← holds_iff, new]
  have more : ((a.holders s).insert p).size = (a.holders s).size + 1 :=
    Ordered.Set.size_foldl_insert (List.nodup_singleton p) fresh
  rw [replication, holders_insert]
  split
  · exact more
  · rfl

theorem shardsPerPeer_insert : (a.insert ⟨p, s⟩).shardsPerPeer =
    Ordered.bindInto p ((a.shardsOn p).insert s) a.shardsPerPeer := by
  refine (ascendingKeys_shardsPerPeer _).eq_of_mem_iff (a.ascendingKeys_shardsPerPeer.bindInto ..) fun ⟨q, l⟩ => ?_
  rw [Ordered.mem_bindInto a.ascendingKeys_shardsPerPeer, mem_shardsPerPeer, mem_shardsPerPeer, shardsOn_insert]
  split
  next same =>
    subst same
    simp
  next other => simp [other]

theorem replicationPerShard_insert : (a.insert ⟨p, s⟩).replicationPerShard =
    if a.holds p s then a.replicationPerShard
    else Ordered.bindInto s (a.replication s + 1) a.replicationPerShard := by
  split
  next held => rw [insert_of_holds held]
  next new =>
    refine (ascendingKeys_replicationPerShard _).eq_of_mem_iff (a.ascendingKeys_replicationPerShard.bindInto ..)
      fun ⟨u, n⟩ => ?_
    rw [Ordered.mem_bindInto a.ascendingKeys_replicationPerShard, mem_replicationPerShard, mem_replicationPerShard,
      replication_insert (by simpa using new)]
    split
    next same => simp [same]
    next other => simp [other]

/-- What has been tallied once the holdings of a placement are. -/
def tally (a : Placement) : Tally :=
  ⟨a.reporter, ⟨a.shardsPerPeer, a.ascendingKeys_shardsPerPeer⟩,
    ⟨a.replicationPerShard, a.ascendingKeys_replicationPerShard⟩⟩

theorem tally_insert (a : Placement) (h : Holding) : (a.insert h).tally = a.tally.insert h := by
  obtain ⟨p, s⟩ := h
  have shards : (a.tally.shardsPerPeer.get? p).getD .empty = a.shardsOn p := a.lookup_shardsPerPeer p
  have count : (a.tally.replicationPerShard.get? s).getD 0 = a.replication s := a.lookup_replicationPerShard s
  have held : (a.shardsOn p).contains s = a.holds p s := by
    rw [Bool.eq_iff_iff, Ordered.Set.contains_iff, mem_shardsOn, holds_iff]
  rw [Tally.insert, shards, count, held]
  simp only [tally, Ordered.Map.insert, reporter_insert, shardsPerPeer_insert, replicationPerShard_insert]
  split <;> rfl

theorem tally_foldl (a : Placement) (h : List Holding) : (h.foldl insert a).tally = h.foldl Tally.insert a.tally := by
  induction h generalizing a with
  | nil => rfl
  | cons x rest ih => rw [List.foldl_cons, List.foldl_cons, ih, tally_insert]

theorem tally_ofHoldings (q : PeerId) (h : List Holding) : (ofHoldings q h).tally = h.foldl Tally.insert (.new q) := by
  rw [ofHoldings_eq_foldl, tally_foldl]
  rfl

/-- However a placement is built, its listings stay consistent. A report puts on a peer just the shards that it tells of in
a state that counts, the reporter's own among its own. The listings begin with the reporter alone. A holding that is added
binds its peer to the shards with the new one, and counts its shard once more unless that peer held it, so the listings are
what a tally of the holdings comes to. The order of what is told, and how often it is told, make no difference. -/
theorem placements_keep_count :
    (∀ (activeOnly : Bool) (r : PlacementReport),
        let a := ofReport activeOnly r
        a.reporter = r.reporter ∧ a.Consistent ∧ ∀ p s, s ∈ a.shardsOn p ↔ r.Tells activeOnly p s) ∧
      (∀ (q : PeerId) (h : List Holding),
        let a := ofHoldings q h
        a.reporter = q ∧ a.Consistent ∧ ∀ p s, s ∈ a.shardsOn p ↔ ⟨p, s⟩ ∈ h) ∧
      (∀ (q : PeerId) (h : List Holding),
        let bare := ofHoldings q []
        bare.shardsPerPeer = [(q, .empty)] ∧ bare.replicationPerShard = [] ∧ ofHoldings q h = h.foldl insert bare ∧
          (ofHoldings q h).tally = h.foldl Tally.insert (.new q)) ∧
      (∀ (a : Placement) (p : PeerId) (s : ShardId),
        let more := a.insert ⟨p, s⟩
        more.reporter = a.reporter ∧ more.Consistent ∧
          more.shardsPerPeer = Ordered.bindInto p ((a.shardsOn p).insert s) a.shardsPerPeer ∧
          more.replicationPerShard =
            if a.holds p s then a.replicationPerShard
            else Ordered.bindInto s (a.replication s + 1) a.replicationPerShard) ∧
      (∀ (activeOnly : Bool) (r r' : PlacementReport), r.reporter = r'.reporter →
        (∀ x, x ∈ r.replicas ↔ x ∈ r'.replicas) → ofReport activeOnly r = ofReport activeOnly r') ∧
      ∀ (q : PeerId) (h h' : List Holding), (∀ x, x ∈ h ↔ x ∈ h') → ofHoldings q h = ofHoldings q h' :=
  ⟨fun _ _ => ⟨rfl, consistent _, fun _ _ => mem_shardsOn_ofReport⟩,
    fun _ _ => ⟨rfl, consistent _, fun _ _ => mem_shardsOn_ofHoldings⟩,
    fun q h => ⟨rfl, rfl, ofHoldings_eq_foldl q h, tally_ofHoldings q h⟩,
    fun _ _ _ => ⟨rfl, consistent _, shardsPerPeer_insert, replicationPerShard_insert⟩,
    fun _ _ _ => ofReport_congr, fun _ _ _ => ofHoldings_congr⟩

end Placement
end ShardBalance
