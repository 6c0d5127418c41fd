import ShardBalance.Proofs.Replications

/-!
Replications onto one peer after the other, where factors count. At each turn a shard with too few holders
gets the next peer as a holder if it is not one already. None is ever lost, so in the end the shard has as many
holders as it should have or is on every peer.
-/

namespace ShardBalance.Scripted

open Cluster Planning Rebalance

/-- Requests made one after the other, none of them cancelled: what each comes to, and the world after all. -/
def inTurn (settings : TransferSettings) : List Request → World → List (Except Failure Outcome) × World
  | [], w => ([], w)
  | r :: rest, w =>
    let run := (r.run settings false).run World.react ⟨w, false⟩
    let (values, last) := inTurn settings rest run.session.world
    (run.value :: values, last)

namespace Collection

variable {c d c' : Collection} {p q : PeerId} {ignoreFactor : Bool} {targets : List PeerId} {s : ShardId}

namespace Supplied

theorem factor (h : c.Supplied p ignoreFactor c') : c'.settings.factor = c.settings.factor := by
  obtain ⟨shards, -, -, rfl⟩ := h.gains
  rfl

theorem holders_cases (h : c.Supplied p ignoreFactor c') (s : ShardId) :
    c.Wants p ignoreFactor s ∧ c'.holders s = insert p (c.holders s) ∨
      ¬c.Wants p ignoreFactor s ∧ c'.holders s = c.holders s := by
  by_cases wanted : c.Wants p ignoreFactor s
  · obtain ⟨shards, -, wants, rfl⟩ := h.gains
    refine .inl ⟨wanted, ?_⟩
    rw [holders_gaining, if_pos ((wants s).2 wanted)]
  · exact .inr ⟨wanted, h.same s wanted⟩

theorem kept (h : c.Supplied p ignoreFactor c') (s : ShardId) : c.holders s ⊆ c'.holders s := by
  rcases h.holders_cases s with ⟨-, gained⟩ | ⟨-, same⟩
  · rw [gained]
    exact Finset.subset_insert ..
  · rw [same]

theorem within (h : c.Supplied p ignoreFactor c') (hq : q ∈ c'.holders s) : q = p ∨ q ∈ c.holders s := by
  rcases h.holders_cases s with ⟨-, gained⟩ | ⟨-, same⟩
  · rwa [gained, Finset.mem_insert] at hq
  · exact .inr (same ▸ hq)

theorem eq_of_unknown (h : c.Supplied p false c') (unknown : c.settings.factor = 0) : c' = c := by
  obtain ⟨shards, -, wants, rfl⟩ := h.gains
  have none : shards = [] := by
    refine List.eq_nil_iff_forall_not_mem.2 fun s hs => ?_
    have few := ((wants s).1 hs).2.2 rfl
    omega
  rw [none, gaining_nil]

theorem met (h : c.Supplied p false c') (some : (c.holders s).Nonempty) :
    p ∈ c'.holders s ∨ c.settings.factor ≤ (c.holders s).card := by
  by_cases enough : c.settings.factor ≤ (c.holders s).card
  · exact .inr enough
  · refine .inl ((h.held s).2 ?_)
    by_cases held : p ∈ c.holders s
    · exact .inl held
    · exact .inr ⟨some, held, fun _ => Nat.lt_of_not_le enough⟩

theorem card_le (h : c.Supplied p false c') (s : ShardId) :
    (c'.holders s).card ≤ max (c.holders s).card c.settings.factor := by
  rcases Nat.lt_or_ge (c.holders s).card (c'.holders s).card with grown | same
  · exact (h.bounded rfl s grown).trans (Nat.le_max_right ..)
  · exact same.trans (Nat.le_max_left ..)

end Supplied

/-- What turns of `targets` make of the collection `c`. -/
structure Filled (targets : List PeerId) (c c' : Collection) : Prop where
  unknown : c.settings.factor = 0 → c' = c
  kept : ∀ s, c.holders s ⊆ c'.holders s
  within : ∀ s, ∀ q ∈ c'.holders s, q ∈ c.holders s ∨ q ∈ targets
  bounded : ∀ s, (c'.holders s).card ≤ max (c.holders s).card c.settings.factor
  met : ∀ s, (c.holders s).Nonempty → ∀ p ∈ targets,
    p ∈ c'.holders s ∨ c.settings.factor ≤ (c'.holders s).card

namespace Filled

theorem nil (c : Collection) : c.Filled [] c where
  unknown _ := rfl
  kept _ := Finset.Subset.refl _
  within _ _ held := .inl held
  bounded _ := Nat.le_max_left ..
  met _ _ := List.forall_mem_nil _

theorem cons (first : c.Supplied p false d) (rest : d.Filled targets c') : c.Filled (p :: targets) c' where
  unknown none := by
    obtain rfl := first.eq_of_unknown none
    exact rest.unknown none
  kept s := (first.kept s).trans (rest.kept s)
  within s q hq := by
    rcases rest.within s q hq with held | later
    · rcases first.within held with rfl | before
      · exact .inr List.mem_cons_self
      · exact .inl before
    · exact .inr (List.mem_cons_of_mem _ later)
  bounded s := by
    have before := first.card_le s
    have after := rest.bounded s
    rw [first.factor] at after
    omega
  met s some := by
    have grown := Finset.card_le_card (rest.kept s)
    refine List.forall_mem_cons.2 ⟨?_, ?_⟩
    · rcases first.met some with held | enough
      · exact .inl (rest.kept s held)
      · have before := Finset.card_le_card (first.kept s)
        exact .inr (enough.trans (before.trans grown))
    · rw [← first.factor]
      exact rest.met s (some.mono (first.kept s))

theorem card_holders {keys : List PeerId} (h : c.Filled targets c') (each : targets.Perm keys)
    (nodup : keys.Nodup) (listed : ∀ q ∈ c.holders s, q ∈ keys) (some : (c.holders s).Nonempty) :
    (c'.holders s).card = max (c.holders s).card (min c.settings.factor keys.length) := by
  have size : keys.toFinset.card = keys.length := List.toFinset_card_of_nodup nodup
  have before : (c.holders s).card ≤ keys.length := by
    rw [← size]
    exact Finset.card_le_card fun q hq => List.mem_toFinset.2 (listed q hq)
  have after : (c'.holders s).card ≤ keys.length := by
    rw [← size]
    refine Finset.card_le_card fun q hq => List.mem_toFinset.2 ?_
    rcases h.within s q hq with held | target
    · exact listed q held
    · exact each.mem_iff.1 target
  have grown := Finset.card_le_card (h.kept s)
  have bounded := h.bounded s
  have enough : min c.settings.factor keys.length ≤ (c'.holders s).card := by
    by_cases met : c.settings.factor ≤ (c'.holders s).card
    · exact (Nat.min_le_left ..).trans met
    · have all : keys.toFinset ⊆ c'.holders s := fun q hq =>
        (h.met s some q (each.mem_iff.2 (List.mem_toFinset.1 hq))).resolve_right met
      rw [← size]
      exact (Nat.min_le_right ..).trans (Finset.card_le_card all)
  omega

end Filled
end Collection

/-- A world in which nothing goes wrong, and whose peers, of which there are several, are all listed. -/
structure World.Healthy (w : World) : Prop where
  truthful : w.cluster.Truthful
  distinct : w.cluster.names.Nodup
  faultless : w.faults = []
  several : 2 ≤ w.cluster.peers.keys.length
  listed : ∀ c ∈ w.cluster.collections, ∀ s, ∀ q ∈ c.holders s, q ∈ w.cluster.peers.keys

variable {w : World} {settings : TransferSettings}

theorem others_ne_nil {table : PeerTable} (several : 2 ≤ table.keys.length) {target : Selector} {p : Resolved}
    (resolved : table.resolve target = .ok p) : p.others ≠ [] := by
  have inside := (PeerTable.of_resolve resolved).2
  have many : table.keys ≠ [p.peer] := by
    intro alone
    rw [alone] at several
    exact Nat.not_succ_le_self 1 several
  rcases (table.keys_ascending.nodup.ne_singleton_iff p.peer).1 many with none | ⟨q, hq, other⟩
  · rw [none] at inside
    cases inside
  · exact List.ne_nil_of_mem ((PeerTable.mem_others_iff resolved).2 ⟨hq, other⟩)

namespace World.Healthy

theorem replicate (h : w.Healthy) (settings : TransferSettings) {target : Selector} {p : Resolved}
    (resolved : w.cluster.peers.resolve target = .ok p) :
    let run := ((Request.replicate target none false).run settings false).run World.react ⟨w, false⟩
    (∃ o, run.value = .ok o ∧ o.success = true) ∧ run.session.world.Healthy ∧
      run.session.world.cluster.peers = w.cluster.peers ∧
      List.Forall₂ (Collection.Supplied p.peer false) w.cluster.collections
        run.session.world.cluster.collections := by
  intro run
  have chosen : Collections.select none w.cluster.names = .ok w.cluster.names := rfl
  have feasible : ∃ plan, (planReplicate settings target none false).eval w.cluster.answers = .ok plan := by
    refine (exists_plan_iff h.truthful h.distinct resolved chosen (others_ne_nil h.several resolved)).2 ?_
    exact fun c hc _ s wanted => wanted.1.imp fun q held => ⟨held, h.listed c hc s q held⟩
  obtain ⟨plan, planned⟩ := feasible
  obtain ⟨succeeds, faultless, cluster⟩ := run_of_eval_plan (r := .replicate target none false) h.truthful
    h.faultless planned
  have ends : List.Forall₂ (Collection.Supplied p.peer false) w.cluster.collections
      run.session.world.cluster.collections := by
    have ends := supplied_of_plan h.truthful h.distinct planned resolved chosen
    rw [← cluster] at ends
    have named : ∀ c ∈ w.cluster.collections, c.name ∈ w.cluster.names := fun c => List.mem_map_of_mem
    exact ((List.forall₂_and_left _ _).2 ⟨named, ends⟩).imp fun c c' ⟨inside, supplied, _⟩ => supplied inside
  have peers : run.session.world.cluster.peers = w.cluster.peers := by rw [cluster, peers_foldl_apply]
  refine ⟨succeeds, ⟨?_, ?_, faultless, ?_, ?_⟩, peers, ends⟩
  · rw [cluster]
    exact h.truthful.foldl_apply plan.transfers
  · rw [cluster, names_foldl_apply]
    exact h.distinct
  · rw [peers]
    exact h.several
  · refine forall_of_forall₂ (fun {c c'} ⟨listed, supplied⟩ => ?_)
      ((List.forall₂_and_left _ _).2 ⟨h.listed, ends⟩)
    intro s q hq
    rw [peers]
    rcases supplied.within hq with rfl | held
    · exact (PeerTable.of_resolve resolved).2
    · exact listed s q held

theorem replicate_inTurn (settings : TransferSettings) {table : PeerTable} {targets : List Selector}
    {order : List PeerId}
    (reach : List.Forall₂ (fun target p => ∃ r, table.resolve target = .ok r ∧ r.peer = p) targets order)
    (h : w.Healthy) (same : w.cluster.peers = table) :
    let result := inTurn settings (targets.map fun target => .replicate target none false) w
    result.1.length = targets.length ∧ (∀ value ∈ result.1, ∃ o, value = .ok o ∧ o.success = true) ∧
      List.Forall₂ (Collection.Filled order) w.cluster.collections result.2.cluster.collections := by
  induction reach generalizing w with
  | nil => exact ⟨rfl, List.forall_mem_nil _, List.forall₂_same.2 fun c _ => .nil c⟩
  | cons first _ ih =>
    obtain ⟨p, resolved, rfl⟩ := first
    rw [← same] at resolved
    obtain ⟨succeeds, healthy, peers, supplied⟩ := h.replicate settings resolved
    obtain ⟨count, succeed, filled⟩ := ih healthy (peers.trans same)
    exact ⟨congrArg (· + 1) count, List.forall_mem_cons.2 ⟨succeeds, succeed⟩,
      forall₂_comp .cons supplied filled⟩

end World.Healthy

/-- Replications onto each peer, in any order, that respect the factors all succeed. In the end a shard that
some peer held is on as many as its factor says, on all if these are fewer, and on no fewer than before. -/
theorem turns_meet_factor (settings : TransferSettings) (w : World) (targets : List Selector)
    (order : List PeerId) (truthful : w.cluster.Truthful) (distinct : w.cluster.names.Nodup)
    (faultless : w.faults = []) (several : 2 ≤ w.cluster.peers.keys.length)
    (listed : ∀ c ∈ w.cluster.collections, ∀ s, ∀ q ∈ c.holders s, q ∈ w.cluster.peers.keys)
    (reach : List.Forall₂ (fun target p => ∃ r, w.cluster.peers.resolve target = .ok r ∧ r.peer = p)
      targets order)
    (each : order.Perm w.cluster.peers.keys) :
    let result := inTurn settings (targets.map fun target => .replicate target none false) w
    result.1.length = targets.length ∧ (∀ value ∈ result.1, ∃ o, value = .ok o ∧ o.success = true) ∧
      List.Forall₂ (fun c c' => (c.settings.factor = 0 → c' = c) ∧
          ∀ s, 1 ≤ c.settings.factor → 1 ≤ (c.holders s).card → (c'.holders s).card =
            max (c.holders s).card (min c.settings.factor w.cluster.peers.keys.length))
        w.cluster.collections result.2.cluster.collections := by
  intro result
  obtain ⟨count, succeed, filled⟩ := World.Healthy.replicate_inTurn settings reach
    ⟨truthful, distinct, faultless, several, listed⟩ rfl
  refine ⟨count, succeed, ((List.forall₂_and_left _ _).2 ⟨listed, filled⟩).imp fun c c' ⟨listed, filled⟩ => ?_⟩
  refine ⟨filled.unknown, fun s _ some => ?_⟩
  exact filled.card_holders each w.cluster.peers.keys_ascending.nodup (listed s) (Finset.card_pos.1 some)

theorem three_turns_meet_factor :
    let docs : Collection :=
      ⟨"docs", some 2, [⟨1, 0, .active⟩, ⟨1, 1, .active⟩, ⟨2, 1, .active⟩, ⟨3, 1, .active⟩], none⟩
    let logs : Collection := ⟨"logs", some 5, [⟨2, 0, .active⟩, ⟨1, 0, .dead⟩], none⟩
    let w : World :=
      ⟨⟨.ofList [(1, "http://a"), (2, "http://b"), (3, "http://c")], 1, [docs, logs]⟩, [], []⟩
    let result := inTurn .default
      (([.id 3, .address "//a", .id 2] : List Selector).map fun target => .replicate target none false) w
    result.1.length = 3 ∧ (∀ value ∈ result.1, ∃ o, value = .ok o ∧ o.success = true) ∧
      ∃ c c', result.2.cluster.collections = [c, c'] ∧ (c.holders 0).card = 2 ∧ (c.holders 1).card = 3 ∧
        (c'.holders 0).card = 3 := by
  -- turns of three peers: a shard of one collection gets the second holder it should have, and one of a collection that
  -- should have more replicas than there are peers gets on all of them
  intro docs logs w
  have listed : ∀ c ∈ w.cluster.collections, ∀ s, ∀ q ∈ c.holders s, q ∈ w.cluster.peers.keys := by
    have active : ∀ c ∈ w.cluster.collections, ∀ r ∈ c.replicas, r.peer ∈ w.cluster.peers.keys := by decide
    intro c hc s q hq
    exact active c hc _ (Collection.mem_holders.1 hq)
  obtain ⟨count, succeed, ends⟩ := turns_meet_factor .default w [.id 3, .address "//a", .id 2] [3, 1, 2]
    (by simp [Cluster.Truthful, w, docs, logs]) (by decide) rfl (by decide) listed
    (.cons ⟨_, rfl, rfl⟩ (.cons ⟨⟨1, "http://a", w.cluster.peers⟩, by rfl, rfl⟩ (.cons ⟨_, rfl, rfl⟩ .nil)))
    (by decide)
  refine ⟨count, succeed, ?_⟩
  obtain ⟨c, rest, first, ends, after⟩ := List.forall₂_cons_left_iff.1 ends
  obtain ⟨c', rest', second, none, rfl⟩ := List.forall₂_cons_left_iff.1 ends
  obtain rfl := List.forall₂_nil_left_iff.1 none
  refine ⟨c, c', after, ?_, ?_, ?_⟩
  · exact (first.2 0 (by decide) (by decide)).trans (by decide)
  · exact (first.2 1 (by decide) (by decide)).trans (by decide)
  · exact (second.2 0 (by decide) (by decide)).trans (by decide)

end ShardBalance.Scripted
