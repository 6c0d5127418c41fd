import ShardBalance.Proofs.Safety

/-!
Transfers when their turn comes. No two transfers of a plan are about one shard, so each finds the holders of
its own shard as they were when it was planned.
-/

namespace ShardBalance

/-- What the transfers of a plan are. -/
def Goal.kind : Goal → TransferKind
  | drain => .move
  | replicate | equalize => .copy

namespace Scripted

open Cluster Planning Rebalance

variable {k : Cluster} {settings : TransferSettings} {r : Request} {plan : Plan} {t : Transfer}

/-- What a transfer needs of the cluster that makes it. -/
structure Cluster.Ready (k : Cluster) (t : Transfer) : Prop where
  source : t.source ∈ k.peers.keys
  target : t.target ∈ k.peers.keys
  held : t.source ∈ k.holders t.collection t.shard
  lacking : t.target ∉ k.holders t.collection t.shard

namespace Cluster.Ready

theorem apart (h : k.Ready t) : t.source ≠ t.target := fun same => h.lacking (same ▸ h.held)

theorem foldl_apply (h : k.Ready t) {l : List Transfer} (other : t.pair ∉ l.map Transfer.pair) :
    (l.foldl Cluster.apply k).Ready t where
  source := by
    rw [peers_foldl_apply]
    exact h.source
  target := by
    rw [peers_foldl_apply]
    exact h.target
  held := by
    rw [holders_foldl_apply_of_not_mem other]
    exact h.held
  lacking := by
    rw [holders_foldl_apply_of_not_mem other]
    exact h.lacking

theorem card_apply_move (h : k.Ready t) (move : t.kind = .move) :
    ((k.apply t).holders t.collection t.shard).card = (k.holders t.collection t.shard).card := by
  rw [holders_apply_move move (mem_names_of_mem_holders h.held), card_insert_erase h.held h.lacking]

theorem card_apply_copy (h : k.Ready t) (copy : t.kind = .copy) :
    ((k.apply t).holders t.collection t.shard).card = (k.holders t.collection t.shard).card + 1 := by
  rw [holders_apply_copy copy (mem_names_of_mem_holders h.held), Finset.card_insert_of_notMem h.lacking]

end Cluster.Ready

theorem Cluster.replicas_apply_copy (k : Cluster) (copy : t.kind = .copy) :
    List.Forall₂ (fun c c' => c'.name = c.name ∧ c.replicas <+: c'.replicas) k.collections
      (k.apply t).collections := by
  refine forall₂_modify (fun c => ⟨rfl, List.prefix_rfl⟩) fun c _ => ⟨rfl, ?_⟩
  have kind : t.operation.kind = .copy := copy
  simp only [Collection.apply, kind]
  exact List.prefix_append ..

theorem ends_of_plan (truthful : k.Truthful) (planned : (r.plan settings).eval k.answers = .ok plan) :
    ∀ t ∈ plan.transfers, t.kind = r.goal.kind ∧ t.source ∈ k.peers.keys ∧ t.target ∈ k.peers.keys ∧
      t.source ∈ k.holders t.collection t.shard := by
  have told : ∀ {factored c p s}, (k.topology factored c).placement.holds p s = true →
      p ∈ k.holders c s := (holds_placement truthful).1
  cases r with
  | replicate target asked ignoreFactor =>
    obtain ⟨p, names, ring, resolved, -, around, -, rfl⟩ := eval_planReplicate_eq_ok_iff.1 planned
    intro t ht
    obtain ⟨c, -, ht⟩ := List.mem_flatMap.1 ht
    obtain ⟨inside, holds⟩ := ReplicateRequest.source_of_mem_draft ht
    rw [Ring.peers_of_ofPeers? around, PeerTable.mem_others_iff resolved] at inside
    rw [(ReplicateRequest.of_mem_draft ht).1]
    exact ⟨rfl, inside.1, (PeerTable.of_resolve resolved).2, told holds⟩
  | drain source asked =>
    obtain ⟨p, names, ring, resolved, -, around, free, rfl⟩ := eval_planDrain_eq_ok_iff.1 planned
    intro t ht
    obtain ⟨c, hc, ht⟩ := List.mem_flatMap.1 ht
    obtain ⟨form, inside, -⟩ := DrainRequest.of_mem_draft ht
    have holds := DrainRequest.held_of_mem_draft (free c hc) ht
    rw [Ring.peers_of_ofPeers? around, PeerTable.mem_others_iff resolved] at inside
    rw [form]
    exact ⟨rfl, (PeerTable.of_resolve resolved).2, inside.1, told holds⟩
  | equalize source target asked =>
    obtain ⟨p, q, names, first, second, -, rfl⟩ := eval_planEqualize_eq_ok_iff.1 planned
    intro t ht
    obtain ⟨c, -, ht⟩ := List.mem_flatMap.1 ht
    obtain ⟨form, holds⟩ := EqualizeRequest.of_mem_draft ht
    rw [form]
    exact ⟨rfl, (PeerTable.of_resolve first).2, (PeerTable.of_resolve second).2, told holds⟩

theorem ready_of_plan (truthful : k.Truthful) (distinct : k.names.Nodup)
    (planned : (r.plan settings).eval k.answers = .ok plan) : ∀ t ∈ plan.transfers, k.Ready t := by
  intro t ht
  obtain ⟨-, source, target, held⟩ := ends_of_plan truthful planned t ht
  exact ⟨source, target, held, ((safe_of_plan truthful planned).fresh distinct).2 t ht⟩

theorem pair_not_mem_take {l : List Transfer} (once : (l.map Transfer.pair).Nodup) {i : Nat}
    (inside : i < l.length) : l[i].pair ∉ (l.take i).map Transfer.pair := by
  rw [← List.take_append_drop i l, List.drop_eq_getElem_cons inside, List.map_append, List.map_cons] at once
  exact fun earlier => List.disjoint_of_nodup_append once earlier List.mem_cons_self

/-- Each transfer of a plan, once all before it are made, goes between two listed peers of which only the first
holds its shard. A move then leaves the number of holders as it is, a copy adds one and takes nothing away. -/
theorem transfers_ready_in_turn (settings : TransferSettings) (r : Request) (s : Session World) (plan : Plan)
    (i : Nat) (t : Transfer) (truthful : s.world.cluster.Truthful) (distinct : s.world.cluster.names.Nodup)
    (planned : ((r.plan settings).run.run World.react s).value = .ok plan)
    (turn : plan.transfers[i]? = some t) :
    let k := (plan.transfers.take i).foldl Cluster.apply s.world.cluster
    let holders := k.holders t.collection t.shard
    let after := (k.apply t).holders t.collection t.shard
    k.peers = s.world.cluster.peers ∧ t.source ∈ k.peers.keys ∧ t.target ∈ k.peers.keys ∧
      t.source ≠ t.target ∧ t.source ∈ holders ∧ t.target ∉ holders ∧
      (∀ u ∈ plan.transfers.take i, ¬(u.collection = t.collection ∧ u.shard = t.shard)) ∧
      (r.goal = .drain → after.card = holders.card) ∧
      (r.goal ≠ .drain → after.card = holders.card + 1 ∧
        List.Forall₂ (fun c c' => c'.name = c.name ∧ c.replicas <+: c'.replicas) k.collections
          (k.apply t).collections) := by
  intro k holders after
  have evaluated := (reads_plan settings r).eval_of_run planned
  have ht : t ∈ plan.transfers := List.mem_of_getElem? turn
  obtain ⟨inside, rfl⟩ := List.getElem?_eq_some_iff.1 turn
  have other := pair_not_mem_take ((safe_of_plan truthful evaluated).fresh distinct).1 inside
  have kind := (ends_of_plan truthful evaluated _ ht).1
  have ready : k.Ready plan.transfers[i] := (ready_of_plan truthful distinct evaluated _ ht).foldl_apply other
  refine ⟨peers_foldl_apply .., ready.source, ready.target, ready.apart, ready.held, ready.lacking, ?_, ?_, ?_⟩
  · rintro u hu ⟨collection, shard⟩
    exact other (List.mem_map.2 ⟨u, hu, Prod.ext collection shard⟩)
  · intro drain
    rw [drain] at kind
    exact ready.card_apply_move kind
  · intro copies
    have copy : plan.transfers[i].kind = .copy := by
      rw [kind]
      cases goal : r.goal with
      | drain => exact absurd goal copies
      | replicate => rfl
      | equalize => rfl
    exact ⟨ready.card_apply_copy copy, k.replicas_apply_copy copy⟩

theorem second_copy_ready :
    let docs : Collection :=
      ⟨"docs", some 2, [⟨1, 0, .active⟩, ⟨1, 1, .active⟩, ⟨1, 2, .active⟩, ⟨2, 1, .active⟩], none⟩
    let k : Cluster := ⟨.ofList [(1, "http://a"), (2, "http://b")], 1, [docs]⟩
    let first : Transfer := ⟨"docs", 0, 1, 2, .streamRecords, .copy⟩
    let second : Transfer := ⟨"docs", 2, 1, 2, .streamRecords, .copy⟩
    1 ∈ (k.apply first).holders "docs" 2 ∧ 2 ∉ (k.apply first).holders "docs" 2 ∧
      (((k.apply first).apply second).holders "docs" 2).card =
        ((k.apply first).holders "docs" 2).card + 1 := by
  -- the second of two copies, which the target is still to get once the first is made
  intro docs k first second
  have drafted : ((Request.equalize (.id 1) (.id 2) ["docs"]).plan .default).eval k.answers =
      .ok ⟨.equalize, [first, second]⟩ :=
    eval_planEqualize_eq_ok_iff.2 ⟨⟨1, "http://a", k.peers⟩, ⟨2, "http://b", k.peers⟩, ["docs"], rfl, rfl, rfl,
      by decide⟩
  have planned := ((reads_plan .default (.equalize (.id 1) (.id 2) ["docs"])).run_of_faultless
    (s := ⟨⟨k, [], []⟩, false⟩) rfl rfl).1.trans drafted
  obtain ⟨-, -, -, -, held, lacking, -, -, copies⟩ :=
    transfers_ready_in_turn .default (.equalize (.id 1) (.id 2) ["docs"]) ⟨⟨k, [], []⟩, false⟩ _ 1 second
      (by simp [Cluster.Truthful, k, docs]) (by decide) planned rfl
  exact ⟨held, lacking, (copies nofun).1⟩

end Scripted
end ShardBalance
