import ShardBalance.Proofs.Drains

/-!
Drains that stop on the way and are run again. The moves that were made leave the holders of all other
shards alone, so each shard that waits still has a peer to go to, and the second drain plans just these.
-/

namespace ShardBalance.Scripted

open Planning Rebalance

/-- The world as it is, with no more faults to come. -/
def World.repaired (w : World) : World := { w with faults := [] }

namespace Collection

variable {c : Collection} {p : PeerId} {a b : List Transfer} {s : ShardId}

theorem Clears.sheds_made (h : c.Clears p (a ++ b)) : c.Sheds p a :=
  h.toSheds.sublist (List.sublist_append_left a b)

theorem Clears.not_mem_made (h : c.Clears p (a ++ b)) (hs : s ∈ b.map Transfer.shard) :
    s ∉ a.map Transfer.shard := by
  have once := h.once
  rw [List.map_append] at once
  exact fun moved => List.disjoint_of_nodup_append once moved hs

theorem Clears.source_waiting (h : c.Clears p (a ++ b)) :
    p ∈ (c.after a).holders s ↔ s ∈ b.map Transfer.shard := by
  rw [h.sheds_made.source_mem_holders]
  constructor
  · rintro ⟨held, stays⟩
    have moved := h.all s held
    rw [List.map_append, List.mem_append] at moved
    exact moved.resolve_left stays
  · intro waits
    obtain ⟨t, ht, rfl⟩ := List.mem_map.1 waits
    exact ⟨h.held t (List.mem_append_right a ht), h.not_mem_made waits⟩

theorem Clears.holders_waiting (h : c.Clears p (a ++ b)) (hs : s ∈ b.map Transfer.shard) :
    (c.after a).holders s = c.holders s :=
  h.sheds_made.holders_of_not_mem (h.not_mem_made hs)

end Collection

section Pairs

variable {k : Cluster} {p : PeerId} {names : List String} {l : List Transfer}

theorem count_pair (l : List Transfer) (name : String) (s : ShardId) :
    (l.map Transfer.pair).count (name, s) =
      ((l.filter (·.collection = name)).map Transfer.shard).count s := by
  induction l with
  | nil => rfl
  | cons t rest ih =>
    by_cases here : t.collection = name
    · simp [Transfer.pair, List.count_cons, here, ← ih]
    · simp [Transfer.pair, here, ← ih]

theorem Cluster.Evacuates.count_pairs (h : k.Evacuates p names l) {c : Collection}
    (hc : c ∈ k.collections) (s : ShardId) :
    (l.map Transfer.pair).count (c.name, s) = if c.name ∈ names ∧ p ∈ c.holders s then 1 else 0 := by
  rw [count_pair]
  by_cases inside : c.name ∈ names
  · rw [(h.clears c hc inside).count_shards]
    simp [inside]
  · rw [filter_collection_eq_nil h.within inside]
    simp [inside]

end Pairs

section Again

variable {k : Cluster} {settings : TransferSettings} {source : Selector} {asked : Option (List String)}
  {names : List String} {r : Resolved} {ring : Ring} {p : PeerId} {a b again : List Transfer}

theorem Cluster.Evacuates.clears_split (h : k.Evacuates p names (a ++ b)) {c : Collection}
    (hc : c ∈ k.collections) (inside : c.name ∈ names) :
    c.Clears p (a.filter (·.collection = c.name) ++ b.filter (·.collection = c.name)) := by
  rw [← List.filter_append]
  exact h.clears c hc inside

theorem planDrain_of_free (truthful : k.Truthful) (distinct : k.names.Nodup)
    (hr : k.peers.resolve source = .ok r) (hn : Collections.select asked k.names = .ok names)
    (around : Ring.ofPeers? r.others = some ring)
    (free : ∀ c ∈ k.collections, c.name ∈ names → ∀ s, r.peer ∈ c.holders s →
      ∃ q ∈ ring.peers, q ∉ c.holders s) :
    ∃ plan, (planDrain settings source asked).eval k.answers = .ok plan := by
  refine ⟨_, eval_planDrain_eq_ok_iff.2 ⟨r, names, ring, hr, hn, around, fun name inside => ?_, rfl⟩⟩
  obtain ⟨c, hc, rfl⟩ := List.mem_map.1 (Collections.mem_of_select hn inside)
  have found := Cluster.find?_of_mem distinct hc
  rw [DrainRequest.draft_stuck_eq_none_iff]
  intro s hs
  obtain ⟨q, hq, lacks⟩ := free c hc inside s ((mem_holders_iff_shardsOn truthful found).1 hs)
  refine ⟨q, hq, ?_⟩
  rw [← Cluster.holders_of_find? found, ← Cluster.holds_placement truthful, Bool.not_eq_true] at lacks
  exact lacks

theorem planDrain_of_rest (settings : TransferSettings) (truthful : k.Truthful) (distinct : k.names.Nodup)
    (hr : k.peers.resolve source = .ok r) (hn : Collections.select asked k.names = .ok names)
    (around : Ring.ofPeers? r.others = some ring) (targets : ∀ t ∈ a ++ b, t.target ∈ ring.peers)
    (evacuates : k.Evacuates r.peer names (a ++ b)) :
    ∃ plan, (planDrain settings source asked).eval (a.foldl Cluster.apply k).answers = .ok plan := by
  -- what is left of the first plan names a peer for each shard that still waits
  have unique : (a.foldl Cluster.apply k).names.Nodup := by rwa [Cluster.names_foldl_apply]
  have resolved : (a.foldl Cluster.apply k).peers.resolve source = .ok r := by
    rwa [Cluster.peers_foldl_apply]
  have chosen : Collections.select asked (a.foldl Cluster.apply k).names = .ok names := by
    rwa [Cluster.names_foldl_apply]
  refine planDrain_of_free (truthful.foldl_apply a) unique resolved chosen around ?_
  rw [Cluster.collections_foldl_apply distinct, List.forall_mem_map]
  intro c hc inside s held
  rw [Collection.name_after] at inside
  have clears := evacuates.clears_split hc inside
  have waits := clears.source_waiting.1 held
  obtain ⟨t, ht, rfl⟩ := List.mem_map.1 waits
  have planned : t ∈ a ++ b := List.mem_append_right a (List.mem_filter.1 ht).1
  refine ⟨t.target, targets t planned, ?_⟩
  rw [clears.holders_waiting waits]
  exact clears.lacking t (List.mem_append_right _ ht)

/-- How the moves `again` complete the moves `a` of a plan of which `b` were left. -/
structure Resumed (p : PeerId) (names : List String) (a b again : List Transfer) (k k' : Cluster) :
    Prop where
  off : MovesOff p (a ++ again)
  pairs : (again.map Transfer.pair).Perm (b.map Transfer.pair)
  once : ∀ c ∈ k.collections, ∀ s, ((a ++ again).map Transfer.pair).count (c.name, s) =
    if c.name ∈ names ∧ p ∈ c.holders s then 1 else 0
  ends : List.Forall₂ (fun c c' => c'.name = c.name ∧ (c.name ∈ names → ∀ s, p ∉ c'.holders s) ∧
    ∀ s, (c'.holders s).card = (c.holders s).card) k.collections k'.collections

theorem Cluster.Evacuates.clears_after (distinct : k.names.Nodup)
    (h : (a.foldl Cluster.apply k).Evacuates p names again) {c : Collection} (hc : c ∈ k.collections)
    (inside : c.name ∈ names) :
    (c.after (a.filter (·.collection = c.name))).Clears p (again.filter (·.collection = c.name)) := by
  have moved : c.after (a.filter (·.collection = c.name)) ∈ (a.foldl Cluster.apply k).collections := by
    rw [Cluster.collections_foldl_apply distinct]
    exact List.mem_map_of_mem (f := fun c => c.after (a.filter (·.collection = c.name))) hc
  have clears := h.clears _ moved
  rw [Collection.name_after] at clears
  exact clears inside

theorem perm_pairs_again (distinct : k.names.Nodup) (existing : ∀ name ∈ names, name ∈ k.names)
    (first : k.Evacuates p names (a ++ b))
    (second : (a.foldl Cluster.apply k).Evacuates p names again) :
    (again.map Transfer.pair).Perm (b.map Transfer.pair) := by
  have left : ∀ t ∈ b, t.collection ∈ names := fun t ht => first.within t (List.mem_append_right a ht)
  rw [List.perm_iff_count]
  rintro ⟨name, s⟩
  rw [count_pair, count_pair]
  by_cases inside : name ∈ names
  · obtain ⟨c, hc, rfl⟩ := List.mem_map.1 (existing name inside)
    have split := first.clears_split hc inside
    have once := split.once
    rw [List.map_append, List.nodup_append] at once
    rw [(second.clears_after distinct hc inside).count_shards, List.Nodup.count once.2.1]
    simp only [split.source_waiting]
  · rw [filter_collection_eq_nil second.within inside, filter_collection_eq_nil left inside]

theorem resumed_of_evacuates (distinct : k.names.Nodup) (existing : ∀ name ∈ names, name ∈ k.names)
    (first : k.Evacuates p names (a ++ b))
    (second : (a.foldl Cluster.apply k).Evacuates p names again) :
    Resumed p names a b again k (again.foldl Cluster.apply (a.foldl Cluster.apply k)) where
  off t ht := by
    rcases List.mem_append.1 ht with made | ht
    · exact first.off t (List.mem_append_left b made)
    · exact second.off t ht
  pairs := perm_pairs_again distinct existing first second
  once c hc s := by
    have pairs := perm_pairs_again distinct existing first second
    calc ((a ++ again).map Transfer.pair).count (c.name, s)
        = ((a ++ b).map Transfer.pair).count (c.name, s) := by
          rw [List.map_append, List.map_append, List.count_append, List.count_append, pairs.count_eq]
      _ = if c.name ∈ names ∧ p ∈ c.holders s then 1 else 0 := first.count_pairs hc s
  ends := by
    have unique : (a.foldl Cluster.apply k).names.Nodup := by rwa [Cluster.names_foldl_apply]
    have within : ∀ t ∈ a, t.collection ∈ names := fun t ht => first.within t (List.mem_append_left b ht)
    rw [Cluster.collections_foldl_apply unique, Cluster.collections_foldl_apply distinct, List.map_map,
      List.forall₂_map_right_iff, List.forall₂_same]
    intro c hc
    simp only [Function.comp_apply, Collection.name_after, true_and]
    by_cases inside : c.name ∈ names
    · have clears := second.clears_after distinct hc inside
      have made := (first.clears_split hc inside).sheds_made
      exact ⟨fun _ => clears.cleared.gone, fun s => (clears.card_holders s).trans (made.card_holders s)⟩
    · rw [filter_collection_eq_nil second.within inside, filter_collection_eq_nil within inside]
      exact ⟨fun h => absurd h inside, fun s => rfl⟩

end Again

/-- A drain that stopped after any of its moves, none of them having been taken for made that was not,
is finished by the same drain run once more. -/
theorem interrupted_drain_resumes (settings : TransferSettings) (source : Selector)
    (asked : Option (List String)) (s : Session World) (plan : Plan)
    (truthful : s.world.cluster.Truthful) (distinct : s.world.cluster.names.Nodup)
    (honest : s.world.Honest)
    (planned : (((Request.drain source asked).plan settings).run.run World.react s).value = .ok plan) :
    let drain := (Request.drain source asked).run settings false
    let first := drain.run World.react s
    let fresh : Session World := ⟨first.session.world.repaired, false⟩
    let second := drain.run World.react fresh
    ∃ (r : Resolved) (names : List String) (made : Nat) (o o' : Outcome) (plan' : Plan),
      s.world.cluster.peers.resolve source = .ok r ∧
      Collections.select asked s.world.cluster.names = .ok names ∧
      first.value = .ok o ∧ made ≤ plan.size ∧ (o.success = true ↔ made = plan.size) ∧
      (o.issued = made ∨ o.issued = made + 1) ∧
      first.session.world.cluster = (plan.transfers.take made).foldl Cluster.apply s.world.cluster ∧
      (((Request.drain source asked).plan settings).run.run World.react fresh).value = .ok plan' ∧
      second.value = .ok o' ∧ o'.success = true ∧ o'.issued = plan'.size ∧
      second.session.world.cluster =
        plan'.transfers.foldl Cluster.apply first.session.world.cluster ∧
      Resumed r.peer names (plan.transfers.take made) (plan.transfers.drop made) plan'.transfers
        s.world.cluster second.session.world.cluster := by
  intro drain first fresh second
  have evaluated := (reads_plan settings (.drain source asked)).eval_of_run planned
  obtain ⟨r, names, ring, hr, hn, around, targets, evacuates⟩ :=
    evacuates_of_plan truthful distinct evaluated
  obtain ⟨made, i, value, delivered⟩ := request_delivers honest planned
  have progress := delivered.progress
  have whole : plan.transfers.take made ++ plan.transfers.drop made = plan.transfers :=
    List.take_append_drop ..
  rw [← whole] at targets evacuates
  have after : fresh.world.cluster = (plan.transfers.take made).foldl Cluster.apply s.world.cluster :=
    delivered.cluster
  have truthful' : fresh.world.cluster.Truthful := after ▸ truthful.foldl_apply _
  have distinct' : fresh.world.cluster.names.Nodup := by
    rwa [after, Cluster.names_foldl_apply]
  obtain ⟨plan', again⟩ := planDrain_of_rest settings truthful distinct hr hn around targets
    evacuates
  rw [← after] at again
  obtain ⟨r', names', -, hr', hn', -, -, rest⟩ := evacuates_of_plan truthful' distinct' again
  rw [after, Cluster.peers_foldl_apply, hr] at hr'
  rw [after, Cluster.names_foldl_apply, hn] at hn'
  cases hr'
  cases hn'
  have existing : ∀ t ∈ plan'.transfers, t.collection ∈ fresh.world.cluster.names := by
    intro t ht
    rw [after, Cluster.names_foldl_apply]
    exact Collections.mem_of_select hn (rest.within t ht)
  obtain ⟨told, j, value', done, delivered'⟩ := request_of_faultless (w := fresh.world)
    (r := .drain source asked) rfl again existing
  have cluster : second.session.world.cluster =
      plan'.transfers.foldl Cluster.apply first.session.world.cluster := by
    have made := delivered'.cluster
    rw [Plan.size, List.take_length] at made
    exact made
  refine ⟨r, names, made, _, _, plan', hr, hn, value, progress.1, ?_, ?_, delivered.cluster, told, value', ?_,
    ?_, cluster, ?_⟩
  · rw [success_outcome]
    exact progress.2.1
  · rw [issued_outcome]
    exact progress.2.2
  · exact success_outcome.2 done
  · rw [issued_outcome]
    exact (delivered'.all done).2
  · rw [cluster, delivered.cluster]
    rw [after] at rest
    exact resumed_of_evacuates distinct (fun _ => Collections.mem_of_select hn) evacuates rest

theorem drain_resumes_after_refusal :
    let docs : Collection :=
      ⟨"docs", some 2, [⟨1, 0, .active⟩, ⟨2, 0, .active⟩, ⟨1, 1, .active⟩, ⟨1, 2, .active⟩], none⟩
    let w : World := ⟨⟨.ofList [(1, "http://a"), (2, "http://b"), (3, "http://c")], 2, [docs]⟩,
      [⟨.update, 1, .fail (.refused 400 "Bad request")⟩], []⟩
    let drain := (Request.drain (.id 1) none).run .default false
    let first := drain.run World.react ⟨w, false⟩
    let second := drain.run World.react ⟨first.session.world.repaired, false⟩
    (∃ o, second.value = .ok o ∧ o.success = true) ∧
      ∀ c ∈ second.session.world.cluster.collections, ∀ shard,
        1 ∉ c.holders shard ∧ (c.holders shard).card = (docs.holders shard).card := by
  -- the second of three moves is refused; the drain is run again
  intro docs w drain first second
  have planned : (((Request.drain (.id 1) none).plan .default).run.run World.react ⟨w, false⟩).value =
      .ok ⟨.drain, [⟨"docs", 1, 1, 2, .streamRecords, .move⟩, ⟨"docs", 2, 1, 2, .streamRecords, .move⟩,
        ⟨"docs", 0, 1, 3, .streamRecords, .move⟩]⟩ := by cbv
  obtain ⟨r, names, made, o, o', plan', hr, hn, -, -, -, -, -, -, value, success, -, -, resumed⟩ :=
    interrupted_drain_resumes .default (.id 1) none ⟨w, false⟩ _ (by simp [Cluster.Truthful, w, docs])
      (by decide) (by simp [World.Honest, Action.tellsTruth, w]) planned
  have resolved : w.cluster.peers.resolve (.id 1) = .ok ⟨1, "http://a", w.cluster.peers⟩ := by rfl
  obtain rfl := Except.ok.inj (hr.symm.trans resolved)
  cases hn
  have ends := resumed.ends
  refine ⟨⟨o', value, success⟩, ?_⟩
  generalize second.session.world.cluster.collections = l at ends
  cases ends with
  | cons same rest =>
    cases rest
    have gone := same.2.1 (by simp [Cluster.names, w])
    simpa using fun shard => And.intro (gone shard) (same.2.2 shard)

end ShardBalance.Scripted
