import ShardBalance.Proofs.Copies
import ShardBalance.Proofs.Deliveries
import ShardBalance.Proofs.Obstacles
import ShardBalance.Proofs.Safety

/-!
Replications of a cluster in memory. The plan of a replication copies each shard that its target is to get
once. It comes about unless one of these shards is only on peers that are not listed; made to its end it adds
the copies and nothing else.
-/

namespace ShardBalance.Scripted

namespace Collection

variable {c : Collection} {p : PeerId} {ignoreFactor : Bool} {s : ShardId} {shards : List ShardId}

/-- Whether `p` is to get a shard: some peer holds it and `p` does not, and where factors count it has fewer
holders than it should. A factor that is not known is 0, and no shard has fewer holders than that. -/
def Wants (p : PeerId) (ignoreFactor : Bool) (c : Collection) (s : ShardId) : Prop :=
  (c.holders s).Nonempty ∧ p ∉ c.holders s ∧
    (ignoreFactor = false → (c.holders s).card < c.settings.factor)

instance : Decidable (c.Wants p ignoreFactor s) := inferInstanceAs (Decidable (_ ∧ _ ∧ _))

/-- What a replication onto `p` makes of the collection `c`. -/
structure Supplied (p : PeerId) (ignoreFactor : Bool) (c c' : Collection) : Prop where
  /-- Each shard that `p` is to get has one more replica, and nothing else changes. -/
  gains : ∃ shards : List ShardId, shards.Nodup ∧ (∀ s, s ∈ shards ↔ c.Wants p ignoreFactor s) ∧
    c' = c.gaining p shards
  held : ∀ s, p ∈ c'.holders s ↔ p ∈ c.holders s ∨ c.Wants p ignoreFactor s
  more : ∀ s, c.Wants p ignoreFactor s → (c'.holders s).card = (c.holders s).card + 1
  same : ∀ s, ¬c.Wants p ignoreFactor s → c'.holders s = c.holders s
  bounded : ignoreFactor = false → ∀ s, (c.holders s).card < (c'.holders s).card →
    (c'.holders s).card ≤ c.settings.factor
  whole : ignoreFactor = true → ∀ s, (c'.holders s).Nonempty → p ∈ c'.holders s

theorem supplied_gaining (nodup : shards.Nodup) (wants : ∀ s, s ∈ shards ↔ c.Wants p ignoreFactor s) :
    c.Supplied p ignoreFactor (c.gaining p shards) := by
  have gained : ∀ s, c.Wants p ignoreFactor s →
      (c.gaining p shards).holders s = insert p (c.holders s) := fun s hs => by
    rw [holders_gaining, if_pos ((wants s).2 hs)]
  have kept : ∀ s, ¬c.Wants p ignoreFactor s → (c.gaining p shards).holders s = c.holders s := fun s hs => by
    rw [holders_gaining, if_neg (mt (wants s).1 hs)]
  have more : ∀ s, c.Wants p ignoreFactor s →
      ((c.gaining p shards).holders s).card = (c.holders s).card + 1 := fun s hs => by
    rw [gained s hs, Finset.card_insert_of_notMem hs.2.1]
  refine ⟨⟨shards, nodup, wants, rfl⟩, fun s => ?_, more, kept, ?_, ?_⟩
  · by_cases hs : c.Wants p ignoreFactor s
    · simp [gained s hs, hs]
    · simp [kept s hs, hs]
  · intro respected s grown
    by_cases hs : c.Wants p ignoreFactor s
    · rw [more s hs]
      exact hs.2.2 respected
    · rw [kept s hs] at grown
      exact absurd grown (Nat.lt_irrefl _)
  · rintro rfl s some
    by_cases hs : c.Wants p true s
    · rw [gained s hs]
      exact Finset.mem_insert_self ..
    · rw [kept s hs] at some ⊢
      by_contra lacking
      exact hs ⟨some, lacking, nofun⟩

end Collection

open Cluster Planning Rebalance

section Plans

variable {k : Cluster} {settings : TransferSettings} {target : Selector} {asked : Option (List String)}
  {ignoreFactor : Bool} {plan : Plan} {c : Collection} {names : List String} {p : Resolved} {ring : Ring}

theorem wants_iff (truthful : k.Truthful) (hc : k.find? c.name = some c) {r : ReplicateRequest}
    {s : ShardId} :
    c.Wants r.target r.ignoreFactor s ↔ s ∈ (k.placement c.name).shards ∧
      r.skip? (k.topology (!r.ignoreFactor) c.name) s = none := by
  have held := holders_of_find? hc s
  have lacking : (k.placement c.name).holds r.target s = false ↔ r.target ∉ c.holders s := by
    rw [← held, ← holds_placement truthful, Bool.not_eq_true]
  have few : (r.ignoreFactor = false →
      (k.placement c.name).replication s < (k.topology (!r.ignoreFactor) c.name).factor) ↔
        (r.ignoreFactor = false → (c.holders s).card < c.settings.factor) := by
    refine imp_congr_right fun respected => ?_
    rw [replication_placement truthful, held]
    simp [topology, factor, respected, hc]
  rw [ReplicateRequest.skip?_eq_none_iff, mem_shards_placement truthful, held]
  exact and_congr_right' ((and_congr lacking.symm few.symm).trans and_comm)

theorem free_iff (truthful : k.Truthful) (hc : k.find? c.name = some c)
    (resolved : k.peers.resolve target = .ok p) (around : Ring.ofPeers? p.others = some ring)
    {r : ReplicateRequest} (same : r.target = p.peer) :
    (r.draft (k.topology (!r.ignoreFactor) c.name) ring).1.stuck = none ↔
      ∀ s, c.Wants r.target r.ignoreFactor s → ∃ q ∈ c.holders s, q ∈ k.peers.keys := by
  have source : ∀ s, c.Wants r.target r.ignoreFactor s →
      ((∃ q ∈ ring.peers, (k.placement c.name).holds q s = true) ↔ ∃ q ∈ c.holders s, q ∈ k.peers.keys) := by
    intro s wanted
    rw [Ring.peers_of_ofPeers? around]
    simp only [PeerTable.mem_others_iff resolved, holds_placement truthful, holders_of_find? hc]
    refine exists_congr fun q => ⟨fun ⟨⟨listed, _⟩, held⟩ => ⟨held, listed⟩, fun ⟨held, listed⟩ => ?_⟩
    refine ⟨⟨listed, ?_⟩, held⟩
    rintro rfl
    exact wanted.2.1 (same ▸ held)
  rw [ReplicateRequest.draft_stuck_eq_none_iff]
  constructor
  · intro free s wanted
    obtain ⟨known, needed⟩ := (wants_iff truthful hc).1 wanted
    exact (source s wanted).1 (free s known needed)
  · intro free s known needed
    have wanted := (wants_iff truthful hc).2 ⟨known, needed⟩
    exact (source s wanted).2 (free s wanted)

theorem supplied_draft (truthful : k.Truthful) (hc : k.find? c.name = some c) {r : ReplicateRequest}
    (free : (r.draft (k.topology (!r.ignoreFactor) c.name) ring).1.stuck = none) :
    c.Supplied r.target r.ignoreFactor
      (c.after (r.draft (k.topology (!r.ignoreFactor) c.name) ring).1.transfers) := by
  have onto : CopiesOnto r.target (r.draft (k.topology (!r.ignoreFactor) c.name) ring).1.transfers := by
    intro t ht
    rw [(ReplicateRequest.of_mem_draft ht).1]
    exact ⟨rfl, rfl⟩
  rw [Collection.after_copies onto]
  refine Collection.supplied_gaining ReplicateRequest.admits_draft.nodup fun s => ?_
  rw [ReplicateRequest.shards_draft free, wants_iff truthful hc, List.mem_filter, Option.isNone_iff_eq_none]
  rfl

theorem supplied_of_plan (truthful : k.Truthful) (distinct : k.names.Nodup)
    (planned : (planReplicate settings target asked ignoreFactor).eval k.answers = .ok plan)
    (resolved : k.peers.resolve target = .ok p) (chosen : Collections.select asked k.names = .ok names) :
    List.Forall₂ (fun c c' => (c.name ∈ names → c.Supplied p.peer ignoreFactor c') ∧ (c.name ∉ names → c' = c))
      k.collections (plan.transfers.foldl Cluster.apply k).collections := by
  obtain ⟨ring, -, free, rfl⟩ := (eval_planReplicate_eq_ok_iff_of resolved chosen).1 planned
  rw [collections_foldl_apply distinct, List.forall₂_map_right_iff, List.forall₂_same]
  intro c hc
  have named : ∀ name ∈ names, ∀ t ∈ (ReplicateRequest.draft ⟨p.peer, ignoreFactor, settings.copyMethod⟩
      (k.topology (!ignoreFactor) name) ring).1.transfers, t.collection = name := fun _ _ =>
    ReplicateRequest.admits_draft.collection
  constructor
  · intro inside
    rw [filter_flatMap_collection (Collections.nodup_of_select chosen distinct) named inside]
    exact supplied_draft truthful (find?_of_mem distinct hc) (free c.name inside)
  · intro outside
    rw [filter_collection_eq_nil (collection_mem_of_mem_flatMap named) outside]
    rfl

theorem exists_plan_iff (truthful : k.Truthful) (distinct : k.names.Nodup)
    (resolved : k.peers.resolve target = .ok p) (chosen : Collections.select asked k.names = .ok names)
    (others : p.others ≠ []) :
    (∃ plan, (planReplicate settings target asked ignoreFactor).eval k.answers = .ok plan) ↔
      ∀ c ∈ k.collections, c.name ∈ names → ∀ s, c.Wants p.peer ignoreFactor s →
        ∃ q ∈ c.holders s, q ∈ k.peers.keys := by
  constructor
  · rintro ⟨plan, planned⟩ c hc inside s wanted
    obtain ⟨ring, around, free, -⟩ := (eval_planReplicate_eq_ok_iff_of resolved chosen).1 planned
    exact (free_iff truthful (find?_of_mem distinct hc) resolved around rfl).1 (free c.name inside) s wanted
  · intro listed
    obtain ⟨ring, around⟩ := Option.ne_none_iff_exists'.1 (mt Ring.ofPeers?_eq_none_iff.1 others)
    refine ⟨_, (eval_planReplicate_eq_ok_iff_of resolved chosen).2 ⟨ring, around, fun name inside => ?_, rfl⟩⟩
    obtain ⟨c, hc, rfl⟩ := List.mem_map.1 (Collections.mem_of_select chosen inside)
    exact (free_iff truthful (find?_of_mem distinct hc) resolved around rfl).2 (listed c hc inside)

theorem noQualifyingPeer_of_eval_plan {f : Failure} (resolved : k.peers.resolve target = .ok p)
    (chosen : Collections.select asked k.names = .ok names) (others : p.others ≠ [])
    (failed : (planReplicate settings target asked ignoreFactor).eval k.answers = .error f) :
    ∃ name s n, f = .noQualifyingPeer name s n := by
  cases obstacle_of_eval_plan (r := .replicate target asked ignoreFactor) failed with
  | selector named unresolved =>
    rw [List.mem_singleton.1 named, resolved] at unresolved
    cases unresolved
  | collections unknown =>
    rw [Request.asked, chosen] at unknown
    cases unknown
  | alone centre resolved' none =>
    cases centre
    rw [resolved] at resolved'
    cases resolved'
    exact absurd none others
  | unsupplied => exact ⟨_, _, _, rfl⟩

end Plans

section Runs

variable {w : World} {settings : TransferSettings} {r : Request} {plan : Plan} {f : Failure}

theorem run_of_eval_plan (truthful : w.cluster.Truthful) (faultless : w.faults = [])
    (planned : (r.plan settings).eval w.cluster.answers = .ok plan) :
    let run := (r.run settings false).run World.react ⟨w, false⟩
    (∃ o, run.value = .ok o ∧ o.success = true) ∧ run.session.world.faults = [] ∧
      run.session.world.cluster = plan.transfers.foldl Cluster.apply w.cluster := by
  obtain ⟨-, i, value, done, delivered⟩ :=
    request_of_faultless faultless planned (safe_of_plan truthful planned).existing
  refine ⟨⟨_, value, success_outcome.2 done⟩, delivered.faults.trans faultless, ?_⟩
  rw [delivered.cluster, Plan.size, List.take_length]

theorem run_of_eval_error (faultless : w.faults = []) (raised : f.isFatal = true)
    (failed : (r.plan settings).eval w.cluster.answers = .error f) :
    let run := (r.run settings false).run World.react ⟨w, false⟩
    run.value = .error f ∧ run.session.world.cluster = w.cluster ∧
      run.session.world.updates = w.updates := by
  have reads := reads_plan settings r
  have told := (reads.run_of_faultless (s := ⟨w, false⟩) faultless rfl).1.trans failed
  have before := (reads.undisturbed ⟨w, false⟩).final _ List.mem_cons_self
  obtain ⟨value, session⟩ := run_of_unplanned false told
  rw [if_pos raised] at value
  refine ⟨value, ?_, ?_⟩
  · rw [session, before.cluster]
  · rw [session, before.updates]

end Runs

/-- A replication where nothing goes wrong fails, and changes nothing, just where a shard that its target is to
get is only on peers that are not listed. Else it gives the target these shards, and does nothing else. -/
theorem replication_supplies_target (settings : TransferSettings) (target : Selector)
    (asked : Option (List String)) (ignoreFactor : Bool) (w : World) (p : Resolved)
    (truthful : w.cluster.Truthful) (distinct : w.cluster.names.Nodup) (faultless : w.faults = [])
    (resolved : w.cluster.peers.resolve target = .ok p)
    (existing : ∀ l ∈ asked, ∀ name ∈ l, name ∈ w.cluster.names)
    (others : ∃ q ∈ w.cluster.peers.keys, q ≠ p.peer) :
    let run := ((Request.replicate target asked ignoreFactor).run settings false).run World.react ⟨w, false⟩
    let after := run.session.world
    let selected (c : Collection) := ∀ l ∈ asked, c.name ∈ l
    let stranded := ∃ c ∈ w.cluster.collections, selected c ∧
      ∃ s, c.Wants p.peer ignoreFactor s ∧ ∀ q ∈ c.holders s, q ∉ w.cluster.peers.keys
    ((∃ name s n, run.value = .error (.noQualifyingPeer name s n)) ∧ after.cluster = w.cluster ∧
        after.updates = w.updates ↔ stranded) ∧
      (¬stranded → (∃ o, run.value = .ok o ∧ o.success = true) ∧
        List.Forall₂ (fun c c' =>
            (selected c → c.Supplied p.peer ignoreFactor c') ∧ (¬selected c → c' = c))
          w.cluster.collections after.cluster.collections) := by
  intro run after selected stranded
  obtain ⟨names, chosen, inside⟩ := Collections.select_of_existing existing
  have inside : ∀ c ∈ w.cluster.collections, (c.name ∈ names ↔ selected c) := fun c hc =>
    inside c.name (List.mem_map_of_mem hc)
  have company : p.others ≠ [] := by
    obtain ⟨q, hq⟩ := others
    exact List.ne_nil_of_mem ((PeerTable.mem_others_iff resolved).2 hq)
  have planned : (∃ plan, ((Request.replicate target asked ignoreFactor).plan settings).eval
      w.cluster.answers = .ok plan) ↔ ¬stranded := by
    refine (exists_plan_iff truthful distinct resolved chosen company).trans ?_
    constructor
    · rintro listed ⟨c, hc, taken, s, wanted, none⟩
      obtain ⟨q, hq, known⟩ := listed c hc ((inside c hc).2 taken) s wanted
      exact none q hq known
    · intro free c hc taken s wanted
      by_contra none
      push Not at none
      exact free ⟨c, hc, (inside c hc).1 taken, s, wanted, none⟩
  cases said : ((Request.replicate target asked ignoreFactor).plan settings).eval w.cluster.answers with
  | ok plan =>
    have free : ¬stranded := planned.1 ⟨plan, said⟩
    obtain ⟨⟨o, value, success⟩, -, cluster⟩ := run_of_eval_plan truthful faultless said
    refine ⟨iff_of_false ?_ free, fun _ => ⟨⟨o, value, success⟩, ?_⟩⟩
    · rintro ⟨⟨name, s, n, failed⟩, -⟩
      cases value.symm.trans failed
    · show List.Forall₂ _ _ run.session.world.cluster.collections
      rw [cluster]
      have ends := supplied_of_plan truthful distinct said resolved chosen
      refine ((List.forall₂_and_left _ _).2 ⟨inside, ends⟩).imp fun c c' ⟨taken, ends⟩ => ?_
      rwa [taken] at ends
  | error f =>
    have met : stranded := by
      by_contra free
      obtain ⟨plan, made⟩ := planned.2 free
      cases said.symm.trans made
    obtain ⟨name, s, n, rfl⟩ := noQualifyingPeer_of_eval_plan resolved chosen company said
    obtain ⟨value, cluster, updates⟩ := run_of_eval_error faultless rfl said
    exact ⟨iff_of_true ⟨⟨name, s, n, value⟩, cluster, updates⟩ met, fun free => absurd met free⟩

theorem replication_copies_short_shard :
    let docs : Collection := ⟨"docs", some 2, [⟨1, 0, .active⟩, ⟨1, 1, .active⟩, ⟨2, 1, .active⟩], none⟩
    let w : World := ⟨⟨.ofList [(1, "http://a"), (2, "http://b"), (3, "http://c")], 1, [docs]⟩, [], []⟩
    let run := ((Request.replicate (.id 3) none false).run .default false).run World.react ⟨w, false⟩
    (∃ o, run.value = .ok o ∧ o.success = true) ∧
      ∀ c ∈ run.session.world.cluster.collections,
        (3 ∈ c.holders 0 ∧ (c.holders 0).card = 2) ∧ c.holders 1 = docs.holders 1 := by
  -- one shard has too few holders and gets one more, the other has enough
  intro docs w run
  have resolved : w.cluster.peers.resolve (.id 3) = .ok ⟨3, "http://c", w.cluster.peers⟩ := by rfl
  have listed : ∀ s, ∀ q ∈ docs.holders s, q ∈ w.cluster.peers.keys := by
    intro s q hq
    have on : q = 1 ∨ q = 2 := by
      have := Collection.mem_holders.1 hq
      simp only [docs, List.mem_cons, Replica.mk.injEq, List.not_mem_nil] at this
      tauto
    rcases on with rfl | rfl <;> decide
  obtain ⟨-, supplies⟩ := replication_supplies_target .default (.id 3) none false w _
    (by simp [Cluster.Truthful, w, docs]) (by decide) rfl resolved nofun ⟨1, by decide, by decide⟩
  obtain ⟨succeeds, ends⟩ := supplies (by
    rintro ⟨c, hc, -, s, ⟨⟨q, hq⟩, -⟩, none⟩
    obtain rfl := List.mem_singleton.1 hc
    exact none q hq (listed s q hq))
  refine ⟨succeeds, ?_⟩
  generalize run.session.world.cluster.collections = l at ends
  cases ends with
  | cons same rest =>
    cases rest
    have supplied := same.1 nofun
    have wanted : docs.Wants 3 false 0 := by decide
    refine List.forall_mem_singleton.2 ⟨⟨(supplied.held 0).2 (.inr wanted), ?_⟩, ?_⟩
    · exact supplied.more 0 wanted
    · exact supplied.same 1 (by decide)

end ShardBalance.Scripted
