import Mathlib.Computability.Primrec.List
import Mathlib.Data.List.Permutation
import ShardBalance.Proofs.Deliveries
import ShardBalance.Proofs.Emptiness
import ShardBalance.Proofs.Safety

/-!
Drains of a cluster in memory. The plan of a drain moves each shard that the source holds once, collection
by collection; made to its end it leaves on the source only what never counted.
-/

namespace ShardBalance.Scripted

/-- Moves of all that `p` holds of a collection. -/
structure Collection.Clears (p : PeerId) (l : List Transfer) (c : Collection) : Prop
    extends c.Sheds p l where
  all : ∀ s, p ∈ c.holders s → s ∈ l.map Transfer.shard

/-- What the moves `l` off `p` make of the collection `c`. -/
structure Collection.Cleared (p : PeerId) (l : List Transfer) (c c' : Collection) : Prop where
  /-- Only replicas change. -/
  rest : c' = { c with replicas := c'.replicas }
  gone : ∀ s, p ∉ c'.holders s
  /-- What stays on `p` are the replicas of shards it did not hold. -/
  left : c'.replicas.filter (·.peer = p) = c.replicas.filter fun r => r.peer = p ∧ p ∉ c.holders r.shard
  kept : ∀ s, (c'.holders s).card = (c.holders s).card
  /-- Every other peer keeps what it has and gets what is moved to it. -/
  others : ∀ q ≠ p, c'.replicas.filter (·.peer = q) =
    c.replicas.filter (·.peer = q) ++ (l.filter (·.target = q)).map Transfer.landed
  off : ∀ t ∈ l, t.kind = .move ∧ t.source = p ∧ t.target ≠ p
  lacked : ∀ t ∈ l, t.target ∉ c.holders t.shard
  once : ∀ s, (l.map Transfer.shard).count s = if p ∈ c.holders s then 1 else 0

namespace Collection.Clears

variable {c : Collection} {p : PeerId} {l : List Transfer} {s : ShardId}

theorem mem_shards (h : c.Clears p l) : s ∈ l.map Transfer.shard ↔ p ∈ c.holders s := by
  constructor
  · intro moved
    obtain ⟨t, ht, rfl⟩ := List.mem_map.1 moved
    exact h.held t ht
  · exact h.all s

theorem count_shards (h : c.Clears p l) (s : ShardId) :
    (l.map Transfer.shard).count s = if p ∈ c.holders s then 1 else 0 := by
  rw [List.Nodup.count h.once]
  by_cases held : p ∈ c.holders s
  · rw [if_pos held, if_pos (h.mem_shards.2 held)]
  · rw [if_neg held, if_neg (mt h.mem_shards.1 held)]

theorem cleared (h : c.Clears p l) : Cleared p l c (c.after l) where
  rest := after_eq l c
  gone s held := by
    obtain ⟨before, stays⟩ := h.source_mem_holders.1 held
    exact stays (h.all s before)
  left := by
    have landed : (l.map Transfer.landed).filter (·.peer = p) = [] := by
      rw [List.filter_eq_nil_iff]
      intro r hr
      obtain ⟨t, ht, rfl⟩ := List.mem_map.1 hr
      have off : t.target ≠ p := (h.off t ht).2.2
      simp [Transfer.landed, off]
    rw [replicas_after h.off, List.filter_append, landed, List.append_nil, List.filter_filter]
    refine List.filter_congr fun r _ => ?_
    by_cases peer : r.peer = p
    · simp only [peer, h.mem_shards]
      simp
    · simp [peer]
  kept := h.card_holders
  others q other := by
    have before : (c.replicas.filter fun r => !(r.peer = p ∧ r.shard ∈ l.map Transfer.shard)).filter
        (·.peer = q) = c.replicas.filter (·.peer = q) := by
      rw [List.filter_filter]
      refine List.filter_congr fun r _ => ?_
      by_cases peer : r.peer = q
      · simp [peer, other]
      · simp [peer]
    have landed : (l.map Transfer.landed).filter (·.peer = q) =
        (l.filter (·.target = q)).map Transfer.landed := by
      rw [List.filter_map]
      rfl
    rw [replicas_after h.off, List.filter_append, before, landed]
  off := h.off
  lacked := h.lacking
  once := h.count_shards

end Collection.Clears

open Planning Rebalance

variable {k : Cluster} {settings : TransferSettings} {source : Selector} {asked : Option (List String)}
  {plan : Plan}

/-- Transfers within some collections, of each of which they move all that `p` holds. -/
structure Cluster.Evacuates (p : PeerId) (names : List String) (l : List Transfer) (k : Cluster) :
    Prop where
  off : MovesOff p l
  within : ∀ t ∈ l, t.collection ∈ names
  clears : ∀ c ∈ k.collections, c.name ∈ names → c.Clears p (l.filter (·.collection = c.name))

theorem mem_holders_iff_shardsOn (truthful : k.Truthful) {c : Collection} (hc : k.find? c.name = some c)
    {p : PeerId} {s : ShardId} : s ∈ (k.placement c.name).shardsOn p ↔ p ∈ c.holders s := by
  rw [Placement.mem_shardsOn, ← Placement.holds_iff, Cluster.holds_placement truthful,
    Cluster.holders_of_find? hc]

theorem clears_draft (truthful : k.Truthful) {c : Collection} (hc : k.find? c.name = some c)
    {r : DrainRequest} {ring : Ring} (others : r.source ∉ ring.peers)
    (free : (r.draft (k.topology false c.name) ring).1.stuck = none) :
    c.Clears r.source (r.draft (k.topology false c.name) ring).1.transfers := by
  have perm := DrainRequest.shards_draft_perm free
  have moved : ∀ s, s ∈ (r.draft (k.topology false c.name) ring).1.transfers.map Transfer.shard ↔
      r.source ∈ c.holders s := fun s => perm.mem_iff.trans (mem_holders_iff_shardsOn truthful hc)
  refine ⟨⟨?_, (DrainRequest.admits_draft free).nodup, ?_, ?_⟩, fun s => (moved s).2⟩
  · intro t ht
    obtain ⟨form, target, -⟩ := DrainRequest.of_mem_draft ht
    refine ⟨by rw [form]; rfl, by rw [form]; rfl, ?_⟩
    intro back
    exact others (back ▸ target)
  · intro t ht
    exact (moved t.shard).1 (List.mem_map_of_mem ht)
  · intro t ht
    have lacks : (k.placement c.name).holds t.target t.shard = false := (DrainRequest.of_mem_draft ht).2.2
    rw [← Cluster.holders_of_find? hc, ← Cluster.holds_placement truthful, lacks]
    exact Bool.false_ne_true

theorem source_not_mem_ring {r : Resolved} {ring : Ring} (around : Ring.ofPeers? r.others = some ring) :
    r.peer ∉ ring.peers := by
  rw [Ring.peers_of_ofPeers? around]
  simp [Resolved.others]

theorem evacuates_of_plan (truthful : k.Truthful) (distinct : k.names.Nodup)
    (planned : (planDrain settings source asked).eval k.answers = .ok plan) :
    ∃ r names ring, k.peers.resolve source = .ok r ∧ Collections.select asked k.names = .ok names ∧
      Ring.ofPeers? r.others = some ring ∧ (∀ t ∈ plan.transfers, t.target ∈ ring.peers) ∧
        k.Evacuates r.peer names plan.transfers := by
  obtain ⟨r, names, ring, hr, hn, around, free, rfl⟩ := eval_planDrain_eq_ok_iff.1 planned
  have unique := Collections.nodup_of_select hn distinct
  have named : ∀ c ∈ names, ∀ x ∈ (DrainRequest.draft ⟨r.peer, settings.moveMethod⟩
      (k.topology false c) ring).1.transfers, x.collection = c := fun c hc =>
    (DrainRequest.admits_draft (free c hc)).collection
  refine ⟨r, names, ring, hr, hn, around, ?_, movesOff_drain around,
    collection_mem_of_mem_flatMap named, ?_⟩
  · intro t ht
    obtain ⟨c, -, ht⟩ := List.mem_flatMap.1 ht
    exact (DrainRequest.of_mem_draft ht).2.1
  · intro c hc hname
    rw [filter_flatMap_collection unique named hname]
    exact clears_draft truthful (Cluster.find?_of_mem distinct hc) (source_not_mem_ring around)
      (free c.name hname)

section Ends

variable {p : PeerId} {names : List String} {l : List Transfer}

theorem Collection.Cleared.lacks_iff {c c' : Collection} (h : c.Cleared p l c') :
    (∀ x ∈ c'.replicas, x.peer ≠ p) ↔ ∀ x ∈ c.replicas, x.peer = p → p ∈ c.holders x.shard := by
  have stays : (∀ x ∈ c'.replicas, x.peer ≠ p) ↔ c'.replicas.filter (·.peer = p) = [] := by
    simp [List.filter_eq_nil_iff]
  rw [stays, h.left, List.filter_eq_nil_iff]
  simp

theorem Cluster.Evacuates.cleared (h : k.Evacuates p names l) (distinct : k.names.Nodup) :
    List.Forall₂ (fun c c' =>
        if c.name ∈ names then c.Cleared p (l.filter (·.collection = c.name)) c' else c' = c)
      k.collections (l.foldl Cluster.apply k).collections := by
  rw [collections_foldl_apply distinct, List.forall₂_map_right_iff, List.forall₂_same]
  intro c hc
  split
  next inside => exact (h.clears c hc inside).cleared
  next outside =>
    rw [filter_collection_eq_nil h.within outside]
    rfl

theorem Cluster.Evacuates.isEmpty_iff (h : k.Evacuates p k.names l) (distinct : k.names.Nodup) :
    (∀ c ∈ (l.foldl Cluster.apply k).collections, ∀ x ∈ c.replicas, x.peer ≠ p) ↔
      ∀ c ∈ k.collections, ∀ x ∈ c.replicas, x.peer = p → p ∈ c.holders x.shard := by
  rw [collections_foldl_apply distinct, List.forall_mem_map]
  refine forall₂_congr fun c hc => ?_
  exact (h.clears c hc (List.mem_map_of_mem hc)).cleared.lacks_iff

end Ends

/-- A drain that succeeds moves every shard that its source holds in the selected collections once, and
each to a peer that lacks it; all else stays as it was. -/
theorem drain_clears_source (settings : TransferSettings) (source : Selector)
    (asked : Option (List String)) (w : World) (o : Outcome) (truthful : w.cluster.Truthful)
    (distinct : w.cluster.names.Nodup) (faultless : w.faults = [])
    (ended : (((Request.drain source asked).run settings false).run World.react ⟨w, false⟩).value = .ok o)
    (success : o.success = true) :
    let after :=
      (((Request.drain source asked).run settings false).run World.react ⟨w, false⟩).session.world
    ∃ (r : Resolved) (names : List String) (moves : List Transfer),
      w.cluster.peers.resolve source = .ok r ∧
      Collections.select asked w.cluster.names = .ok names ∧
      after.updates = w.updates ++ moves.map (fun t => (t.collection, t.operation)) ∧
      (∀ t ∈ moves, t.collection ∈ names) ∧
      List.Forall₂ (fun c c' =>
          if c.name ∈ names then c.Cleared r.peer (moves.filter (·.collection = c.name)) c' else c' = c)
        w.cluster.collections after.cluster.collections ∧
      (asked = none → ∀ s q, w.cluster.peers.resolve s = .ok q → q.peer = r.peer →
        ((isEmpty s).run.run World.react ⟨after, false⟩).value =
          .ok (decide (∀ c ∈ w.cluster.collections, ∀ x ∈ c.replicas,
            x.peer = r.peer → r.peer ∈ c.holders x.shard))) := by
  intro after
  obtain ⟨plan, planned⟩ := planned_of_success ended success
  have evaluated := (reads_plan settings (.drain source asked)).eval_of_run planned
  obtain ⟨r, names, ring, hr, hn, -, -, evacuates⟩ := evacuates_of_plan truthful distinct evaluated
  obtain ⟨made, i, value, delivered⟩ := request_delivers (World.honest_of_faultless faultless) planned
  have done : i.stop = none := by
    rw [← success_outcome, ← Except.ok.inj (ended.symm.trans value)]
    exact success
  obtain ⟨rfl, count⟩ := delivered.all done
  have cluster : after.cluster = plan.transfers.foldl Cluster.apply w.cluster := by
    rw [delivered.cluster, List.take_length]
  refine ⟨r, names, plan.transfers, hr, hn, ?_, evacuates.within, ?_, ?_⟩
  · rw [delivered.updates, count, List.take_length]
  · rw [cluster]
    exact evacuates.cleared distinct
  · rintro rfl s q hq same
    cases hn
    have resolved : after.cluster.peers.resolve s = .ok q := by
      rw [cluster, Cluster.peers_foldl_apply]
      exact hq
    have truthful : after.cluster.Truthful := cluster ▸ truthful.foldl_apply plan.transfers
    have unique : after.cluster.names.Nodup := by
      rw [cluster, Cluster.names_foldl_apply]
      exact distinct
    have quiet : after.faults = [] := delivered.faults.trans faultless
    rw [((reads_isEmpty s).run_of_faultless (s := ⟨after, false⟩) quiet rfl).1]
    refine (eval_isEmpty truthful unique resolved).trans ?_
    rw [same, cluster]
    simp only [evacuates.isEmpty_iff distinct]

theorem drain_leaves_dead_replica :
    let docs : Collection :=
      ⟨"docs", some 2, [⟨1, 0, .active⟩, ⟨2, 0, .active⟩, ⟨1, 1, .active⟩, ⟨1, 2, .dead⟩], none⟩
    let w : World := ⟨⟨.ofList [(1, "http://a"), (2, "http://b"), (3, "http://c")], 2, [docs]⟩, [], []⟩
    let after :=
      (((Request.drain (.id 1) none).run .default false).run World.react ⟨w, false⟩).session.world
    (∀ c ∈ after.cluster.collections, ∀ shard, 1 ∉ c.holders shard) ∧
      ((isEmpty (.id 1)).run.run World.react ⟨after, false⟩).value = .ok false := by
  -- two shards go, and the peer stays in use for a replica that is dead
  intro docs w after
  obtain ⟨r, names, moves, hr, hn, updates, within, collections, empty⟩ :=
    drain_clears_source .default (.id 1) none w ⟨true, "Executed 2 transfers", 2, 2, none⟩
      (by simp [Cluster.Truthful, w, docs]) (by decide) rfl (by cbv) rfl
  have resolved : w.cluster.peers.resolve (.id 1) = .ok ⟨1, "http://a", w.cluster.peers⟩ := by rfl
  obtain rfl := Except.ok.inj (hr.symm.trans resolved)
  cases hn
  constructor
  · generalize after.cluster.collections = l at collections
    cases collections with
    | cons same rest =>
      cases rest
      simpa [Cluster.names, w, docs] using same.gone
  · rw [empty rfl _ _ resolved rfl]
    decide

end ShardBalance.Scripted
