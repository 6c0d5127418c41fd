import ShardBalance.Proofs.Planning.Planner
import ShardBalance.Proofs.Worlds
import ShardBalance.Rebalance.Planning

/-!
What planning comes to on a cluster in memory. A plan is the drafts of its collections one after the other,
each as if it were drafted alone.
-/

namespace ShardBalance

namespace Collections

theorem nodup_distinct (l : List String) : (distinct l).Nodup := by
  induction l with
  | nil => exact .nil
  | cons c l ih => exact List.nodup_cons.2 ⟨by simp, ih.filter _⟩

variable {asked : Option (List String)} {existing names : List String}

theorem mem_of_select (h : select asked existing = .ok names) {c : String} (hc : c ∈ names) :
    c ∈ existing := by
  unfold select at h
  split at h
  · cases h; exact hc
  · split at h
    next none =>
      cases h
      simpa using List.filter_eq_nil_iff.1 none c hc
    next => cases h

theorem nodup_of_select (h : select asked existing = .ok names) (distinct : existing.Nodup) :
    names.Nodup := by
  unfold select at h
  split at h
  · cases h; exact distinct
  · split at h
    · cases h; exact nodup_distinct _
    · cases h

theorem select_of_existing (h : ∀ l ∈ asked, ∀ c ∈ l, c ∈ existing) :
    ∃ names, select asked existing = .ok names ∧ ∀ c ∈ existing, (c ∈ names ↔ ∀ l ∈ asked, c ∈ l) := by
  cases asked with
  | none => exact ⟨existing, rfl, by simp⟩
  | some l =>
    have none : (distinct l).filter (· ∉ existing) = [] :=
      List.filter_eq_nil_iff.2 fun c hc => by simpa using h l rfl c (mem_distinct.1 hc)
    refine ⟨distinct l, ?_, by simp⟩
    simp only [select, none]

end Collections

theorem PeerTable.of_resolve {t : PeerTable} {s : Selector} {r : Resolved} (h : t.resolve s = .ok r) :
    r.table = t ∧ r.peer ∈ t.keys := by
  cases s with
  | id peer =>
    simp only [resolve] at h
    split at h
    next address found =>
      cases h
      exact ⟨rfl, List.mem_map_of_mem (Ordered.Map.get?_eq_some_iff.1 found)⟩
    next => cases h
  | address part =>
    simp only [resolve] at h
    split at h
    next => cases h
    next peer address only =>
      cases h
      have entry : (peer, address) ∈ t.matching part := only ▸ List.mem_singleton_self _
      exact ⟨rfl, List.mem_map_of_mem (List.mem_filter.1 entry).1⟩
    next => cases h

theorem Ring.ofPeers?_eq_none_iff {l : List PeerId} : ofPeers? l = none ↔ l = [] := by
  cases l <;> simp [ofPeers?]

theorem PeerTable.mem_others_iff {t : PeerTable} {s : Selector} {r : Resolved} (h : t.resolve s = .ok r)
    {q : PeerId} : q ∈ r.others ↔ q ∈ t.keys ∧ q ≠ r.peer := by
  simp [Resolved.others, (of_resolve h).1]

namespace Scripted.Cluster

variable {k : Cluster} {name : String}

/-- Where the active replicas of a collection are, as far as the cluster tells. -/
def placement (k : Cluster) (name : String) : Placement :=
  match k.find? name with
  | some c => .ofReport true (c.placementReport k.serving)
  | none => .ofHoldings k.serving []

def factor (k : Cluster) (name : String) : Nat :=
  match k.find? name with
  | some c => c.settings.factor
  | none => 0

/-- A collection as planning sees it, with its factor or without. -/
def topology (k : Cluster) (factored : Bool) (name : String) : Topology :=
  ⟨name, if factored then k.factor name else 0, k.placement name⟩

theorem holds_placement (h : k.Truthful) {p : PeerId} {s : ShardId} :
    (k.placement name).holds p s = true ↔ p ∈ k.holders name s := by
  rw [Placement.holds_iff]
  unfold placement holders
  cases hc : k.find? name with
  | none => simp [Placement.ofHoldings]
  | some c =>
    have told : c.report = none := h c (find?_mem hc)
    rw [Placement.mem_ofReport, Collection.mem_placementReport told, Collection.mem_holders]

theorem replication_placement (h : k.Truthful) (s : ShardId) :
    (k.placement name).replication s = (k.holders name s).card := by
  have same : ((k.placement name).holders s).toList.toFinset = k.holders name s := by
    ext p
    rw [List.mem_toFinset, Ordered.Set.mem_toList, Placement.mem_holders, ← Placement.holds_iff,
      holds_placement h]
  rw [← same, List.toFinset_card_of_nodup ((k.placement name).holders s).ascending.nodup]
  rfl

theorem mem_shards_placement (h : k.Truthful) {s : ShardId} :
    s ∈ (k.placement name).shards ↔ (k.holders name s).Nonempty := by
  simp only [Placement.mem_shards, ← Placement.holds_iff, holds_placement h, Finset.Nonempty]

theorem answers_of_mem (h : name ∈ k.names) :
    ∃ c, k.find? name = some c ∧ k.answers (.placement name) = .ok (c.placementReport k.serving) ∧
      k.answers (.collection name) = .ok c.settings := by
  obtain ⟨c, hc⟩ := Option.isSome_iff_exists.1 (find?_isSome_iff.2 h)
  exact ⟨c, hc, by simp [answers, answer, lookUp, hc], by simp [answers, answer, lookUp, hc]⟩

end Scripted.Cluster

namespace Rebalance

open Attempt Scripted

theorem inspects_resolveIn (t : PeerTable) (s : Selector) : Inspects (resolveIn t s) :=
  (Inspects.result _).bind fun r => (Inspects.note rfl).bind fun _ => .pure r

theorem inspects_resolve (s : Selector) : Inspects (resolve s) :=
  (Inspects.read rfl).bind fun report => inspects_resolveIn report.peers s

theorem inspects_selected (asked : Option (List String)) : Inspects (selected asked) := by
  refine (Inspects.read rfl).bind fun existing => ?_
  split
  · exact .pure _
  · exact .throw _

theorem inspects_placement (c : String) : Inspects (placement c) := by
  refine (Inspects.read rfl).bind fun report => (Inspects.notes fun n hn => ?_).bind fun _ => .pure _
  obtain ⟨r, -, rfl⟩ := List.mem_map.1 hn
  rfl

theorem inspects_topologyWithFactor (c : String) : Inspects (topologyWithFactor c) :=
  (Inspects.read rfl).bind fun _ => (inspects_placement c).bind fun _ => .pure _

theorem inspects_topologyWithoutFactor (c : String) : Inspects (topologyWithoutFactor c) :=
  (inspects_placement c).bind fun _ => .pure _

theorem inspects_settle (d : Draft) (c : String) (n : Nat) : Inspects (settle d c n) := by
  refine (Inspects.notes fun m hm => ?_).bind fun _ => .result _
  obtain ⟨step, -, rfl⟩ := List.mem_map.1 hm
  rfl

theorem inspects_ringAround (r : Resolved) : Inspects (ringAround r) := by
  unfold ringAround
  split
  · exact .pure _
  · exact .throw _

theorem inspects_onRing {topology : String → Attempt Topology} (h : ∀ c, Inspects (topology c))
    (draft : Topology → Ring → Draft × Ring) (ring : Ring) (names : List String) :
    Inspects (onRing topology draft ring names) := by
  induction names generalizing ring with
  | nil => exact .pure []
  | cons c rest ih =>
    exact (h c).bind fun t => (inspects_settle _ c _).bind fun _ => (ih _).bind fun _ => .pure _

theorem inspects_each {topology : String → Attempt Topology} (h : ∀ c, Inspects (topology c))
    (draft : Topology → Draft) (names : List String) : Inspects (each topology draft names) := by
  induction names with
  | nil => exact .pure []
  | cons c rest ih =>
    exact (h c).bind fun t => (inspects_settle _ c _).bind fun _ => ih.bind fun _ => .pure _

theorem inspects_completed (goal : Goal) (r : Resolved) (l : List Transfer) : Inspects (completed goal r l) := by
  refine (Inspects.note rfl).bind fun _ => (Inspects.notes fun n hn => ?_).bind fun _ => .pure _
  obtain ⟨t, -, rfl⟩ := List.mem_map.1 hn
  rfl

theorem inspects_plan (settings : TransferSettings) (r : Request) : Inspects (r.plan settings) := by
  cases r with
  | replicate target collections ignoreFactor =>
    refine (inspects_resolve _).bind fun _ => (inspects_selected _).bind fun _ =>
      (inspects_ringAround _).bind fun _ => ?_
    refine (inspects_onRing (fun c => ?_) _ _ _).bind fun _ => inspects_completed _ _ _
    split
    · exact inspects_topologyWithoutFactor c
    · exact inspects_topologyWithFactor c
  | drain source collections =>
    exact (inspects_resolve _).bind fun _ => (inspects_selected _).bind fun _ =>
      (inspects_ringAround _).bind fun _ =>
        (inspects_onRing inspects_topologyWithoutFactor _ _ _).bind fun _ => inspects_completed _ _ _
  | equalize source target collections =>
    refine (Inspects.read rfl).bind fun _ => (inspects_resolveIn _ _).bind fun _ =>
      (inspects_resolveIn _ _).bind fun _ => (inspects_selected _).bind fun _ => ?_
    split
    · exact (Inspects.note rfl).bind fun _ =>
        (inspects_each inspects_topologyWithoutFactor _ _).bind fun _ => inspects_completed _ _ _
    · exact (inspects_each inspects_topologyWithoutFactor _ _).bind fun _ => inspects_completed _ _ _

theorem reads_resolve (s : Selector) : Reads (resolve s) := (inspects_resolve s).reads

theorem reads_plan (settings : TransferSettings) (r : Request) : Reads (r.plan settings) :=
  (inspects_plan settings r).reads

section Eval

variable {k : Cluster}

theorem eval_resolveIn (t : PeerTable) (s : Selector) :
    (resolveIn t s).eval k.answers = t.resolve s := by
  unfold resolveIn
  rw [eval_bind, eval_ofExcept]
  cases t.resolve s <;> rfl

theorem eval_resolve (s : Selector) : (resolve s).eval k.answers = k.peers.resolve s := by
  unfold resolve
  rw [eval_bind, eval_call]
  exact eval_resolveIn k.peers s

theorem eval_selected_eq_ok_iff {asked : Option (List String)} {names : List String} :
    (selected asked).eval k.answers = .ok names ↔ Collections.select asked k.names = .ok names := by
  constructor
  · intro h
    obtain ⟨existing, told, h⟩ := eval_bind_eq_ok_iff.1 h
    cases told
    split at h
    next found =>
      cases h
      exact found
    next => cases h
  · intro found
    refine eval_bind_eq_ok_iff.2 ⟨k.names, rfl, ?_⟩
    rw [found]
    rfl

theorem eval_selected_eq_error_iff {asked : Option (List String)} {f : Failure} :
    (selected asked).eval k.answers = .error f ↔
      ∃ missing, Collections.select asked k.names = .error missing ∧ f = .unknownCollections missing := by
  have listed : (Attempt.call .collections).eval k.answers = .ok k.names := rfl
  unfold selected
  rw [eval_bind, listed]
  show Attempt.eval _ _ = _ ↔ _
  cases Collections.select asked k.names <;> simp [eq_comm]

theorem eval_placement {c : String} (h : c ∈ k.names) :
    (placement c).eval k.answers = .ok (k.placement c) := by
  obtain ⟨d, hd, told, -⟩ := Cluster.answers_of_mem h
  unfold placement Cluster.placement
  rw [eval_bind, eval_call, told, hd]
  exact (eval_bind _ _).trans (by rw [eval_noteAll]; rfl)

theorem eval_topologyWithoutFactor {c : String} (h : c ∈ k.names) :
    (topologyWithoutFactor c).eval k.answers = .ok (k.topology false c) := by
  unfold topologyWithoutFactor
  rw [eval_bind, eval_placement h]
  rfl

theorem eval_topologyWithFactor {c : String} (h : c ∈ k.names) :
    (topologyWithFactor c).eval k.answers = .ok (k.topology true c) := by
  obtain ⟨d, hd, -, told⟩ := Cluster.answers_of_mem h
  unfold topologyWithFactor
  rw [eval_bind, eval_call, told]
  show Attempt.eval _ (placement c >>= _) = _
  rw [eval_bind, eval_placement h]
  simp [Except.bind, Cluster.topology, Cluster.factor, hd]

theorem eval_settle (d : Draft) (c : String) (n : Nat) : (settle d c n).eval k.answers = d.result c n := by
  unfold settle
  rw [eval_bind, eval_noteAll]
  rfl

theorem eval_topology (ignoreFactor : Bool) {c : String} (h : c ∈ k.names) :
    ((if ignoreFactor then topologyWithoutFactor else topologyWithFactor) c).eval k.answers =
      .ok (k.topology (!ignoreFactor) c) := by
  cases ignoreFactor with
  | true => exact eval_topologyWithoutFactor h
  | false => exact eval_topologyWithFactor h

theorem eval_ringAround_eq_ok_iff {r : Resolved} {ring : Ring} :
    (ringAround r).eval k.answers = .ok ring ↔ Ring.ofPeers? r.others = some ring := by
  unfold ringAround
  cases Ring.ofPeers? r.others <;> simp

theorem eval_ringAround_eq_error_iff {r : Resolved} {f : Failure} :
    (ringAround r).eval k.answers = .error f ↔ r.others = [] ∧ f = .noOtherPeer r.peer := by
  rw [← Ring.ofPeers?_eq_none_iff]
  unfold ringAround
  cases Ring.ofPeers? r.others <;> simp [eq_comm]

theorem eval_completed (goal : Goal) (r : Resolved) (l : List Transfer) :
    (completed goal r l).eval k.answers = .ok ⟨goal, l⟩ := by
  unfold completed
  rw [eval_bind, eval_note]
  show Attempt.eval _ (noteAll _ >>= _) = _
  rw [eval_bind, eval_noteAll]
  rfl

theorem onRing_cons (topology : String → Attempt Topology) (draft : Topology → Ring → Draft × Ring) (ring : Ring)
    (c : String) (rest : List String) :
    onRing topology draft ring (c :: rest) = topology c >>= fun t =>
      settle (draft t ring).1 c ring.size >>= fun first =>
        onRing topology draft (draft t ring).2 rest >>= fun others => pure (first ++ others) := rfl

theorem eval_onRing {topology : String → Attempt Topology} {t : String → Topology} (planner : Planning.Planner)
    (ring : Ring) {names : List String} (told : ∀ c ∈ names, (topology c).eval k.answers = .ok (t c)) {q : Ring}
    (hq : q.peers = ring.peers) :
    (onRing topology planner.draft q names).eval k.answers =
      Draft.results (fun c => (planner.draft (t c) ring).1) ring.size names := by
  induction names generalizing q with
  | nil => rfl
  | cons c rest ih =>
    have first : (settle (planner.draft (t c) q).1 c q.size).eval k.answers =
        (planner.draft (t c) ring).1.result c ring.size := by
      rw [eval_settle, planner.draft_of_peers (t c) hq, Ring.size, Ring.size, hq]
    have later := ih (fun d hd => told d (List.mem_cons_of_mem _ hd)) ((planner.peers_draft (t c) q).trans hq)
    rw [onRing_cons, eval_bind, told c List.mem_cons_self, Draft.results_cons]
    show (settle (planner.draft (t c) q).1 c q.size >>= fun _ => _).eval k.answers = _
    rw [eval_bind, first]
    congr
    funext x
    rw [eval_bind, later]
    cases Draft.results (fun c => (planner.draft (t c) ring).1) ring.size rest <;> rfl

theorem eval_each {topology : String → Attempt Topology} {t : String → Topology} (draft : Topology → Draft)
    {names : List String} (told : ∀ c ∈ names, (topology c).eval k.answers = .ok (t c)) :
    (each topology draft names).eval k.answers = Draft.results (fun c => draft (t c)) 0 names := by
  induction names with
  | nil => rfl
  | cons c rest ih =>
    have later := ih fun d hd => told d (List.mem_cons_of_mem _ hd)
    rw [each, eval_bind, told c List.mem_cons_self, Draft.results_cons]
    show (settle (draft (t c)) c 0 >>= fun _ => _).eval k.answers = _
    rw [eval_bind, eval_settle]
    congr
    funext x
    rw [eval_bind, later]
    cases Draft.results (fun c => draft (t c)) 0 rest <;> rfl

theorem eval_each_equalize {topology : String → Attempt Topology} {t : String → Topology}
    {r : Planning.EqualizeRequest} {names : List String}
    (told : ∀ c ∈ names, (topology c).eval k.answers = .ok (t c)) :
    (each topology r.draft names).eval k.answers = .ok (names.flatMap fun c => (r.draft (t c)).transfers) := by
  rw [eval_each r.draft told]
  exact Draft.results_eq_ok_iff.2 ⟨fun c _ => Planning.EqualizeRequest.draft_stuck, rfl⟩

variable {settings : TransferSettings} {asked : Option (List String)} {plan : Plan}

theorem planReplicate_eq (settings : TransferSettings) (target : Selector) (asked : Option (List String))
    (ignoreFactor : Bool) :
    planReplicate settings target asked ignoreFactor =
      resolve target >>= fun p => selected asked >>= fun names => ringAround p >>= fun ring =>
        onRing (if ignoreFactor then topologyWithoutFactor else topologyWithFactor)
            (Planning.ReplicateRequest.draft ⟨p.peer, ignoreFactor, settings.copyMethod⟩) ring names >>=
          completed .replicate p := rfl

theorem planDrain_eq (settings : TransferSettings) (source : Selector) (asked : Option (List String)) :
    planDrain settings source asked =
      resolve source >>= fun p => selected asked >>= fun names => ringAround p >>= fun ring =>
        onRing topologyWithoutFactor (Planning.DrainRequest.draft ⟨p.peer, settings.moveMethod⟩) ring names >>=
          completed .drain p := rfl

theorem eval_around_eq_ok_iff {s : Selector} {goal : Goal} {topology : String → Attempt Topology}
    {t : String → Topology} (planner : Resolved → Planning.Planner)
    (told : ∀ c ∈ k.names, (topology c).eval k.answers = .ok (t c)) :
    (resolve s >>= fun p => selected asked >>= fun names => ringAround p >>= fun ring =>
        onRing topology (planner p).draft ring names >>= completed goal p).eval k.answers = .ok plan ↔
      ∃ p names ring, k.peers.resolve s = .ok p ∧ Collections.select asked k.names = .ok names ∧
        Ring.ofPeers? p.others = some ring ∧
        (∀ c ∈ names, ((planner p).draft (t c) ring).1.stuck = none) ∧
          plan = ⟨goal, names.flatMap fun c => ((planner p).draft (t c) ring).1.transfers⟩ := by
  have drafted := fun {p names ring} (hn : Collections.select asked k.names = .ok names) =>
    eval_onRing (planner p) ring (fun c hc => told c (Collections.mem_of_select hn hc)) rfl
  simp only [eval_bind_eq_ok_iff, eval_resolve, eval_selected_eq_ok_iff, eval_ringAround_eq_ok_iff,
    eval_completed]
  constructor
  · rintro ⟨p, hp, names, hn, ring, hring, l, hl, h⟩
    obtain ⟨stuck, rfl⟩ := Draft.results_eq_ok_iff.1 ((drafted hn).symm.trans hl)
    exact ⟨p, names, ring, hp, hn, hring, stuck, (Except.ok.inj h).symm⟩
  · rintro ⟨p, names, ring, hp, hn, hring, stuck, rfl⟩
    exact ⟨p, hp, names, hn, ring, hring, _,
      (drafted hn).trans (Draft.results_eq_ok_iff.2 ⟨stuck, rfl⟩), rfl⟩

theorem eval_planReplicate_eq_ok_iff {target : Selector} {ignoreFactor : Bool} :
    (planReplicate settings target asked ignoreFactor).eval k.answers = .ok plan ↔
      ∃ r names ring, k.peers.resolve target = .ok r ∧ Collections.select asked k.names = .ok names ∧
        Ring.ofPeers? r.others = some ring ∧
        let draft c := (Planning.ReplicateRequest.draft ⟨r.peer, ignoreFactor, settings.copyMethod⟩
          (k.topology (!ignoreFactor) c) ring).1
        (∀ c ∈ names, (draft c).stuck = none) ∧
          plan = ⟨.replicate, names.flatMap fun c => (draft c).transfers⟩ := by
  rw [planReplicate_eq]
  exact eval_around_eq_ok_iff (fun r => .replicate ⟨r.peer, ignoreFactor, settings.copyMethod⟩)
    fun c hc => eval_topology ignoreFactor hc

theorem eval_planReplicate_eq_ok_iff_of {target : Selector} {ignoreFactor : Bool} {r : Resolved}
    {names : List String} (hr : k.peers.resolve target = .ok r)
    (hn : Collections.select asked k.names = .ok names) :
    (planReplicate settings target asked ignoreFactor).eval k.answers = .ok plan ↔
      ∃ ring, Ring.ofPeers? r.others = some ring ∧
        let draft c := (Planning.ReplicateRequest.draft ⟨r.peer, ignoreFactor, settings.copyMethod⟩
          (k.topology (!ignoreFactor) c) ring).1
        (∀ c ∈ names, (draft c).stuck = none) ∧
          plan = ⟨.replicate, names.flatMap fun c => (draft c).transfers⟩ := by
  simp [eval_planReplicate_eq_ok_iff, hr, hn]

theorem eval_planDrain_eq_ok_iff {source : Selector} :
    (planDrain settings source asked).eval k.answers = .ok plan ↔
      ∃ r names ring, k.peers.resolve source = .ok r ∧ Collections.select asked k.names = .ok names ∧
        Ring.ofPeers? r.others = some ring ∧
        let draft c := (Planning.DrainRequest.draft ⟨r.peer, settings.moveMethod⟩ (k.topology false c) ring).1
        (∀ c ∈ names, (draft c).stuck = none) ∧
          plan = ⟨.drain, names.flatMap fun c => (draft c).transfers⟩ := by
  rw [planDrain_eq]
  exact eval_around_eq_ok_iff (fun r => .drain ⟨r.peer, settings.moveMethod⟩)
    fun c hc => eval_topologyWithoutFactor hc

theorem eval_planEqualize_eq_ok_iff {source target : Selector} {collections : List String} :
    (planEqualize settings source target collections).eval k.answers = .ok plan ↔
      ∃ r q names, k.peers.resolve source = .ok r ∧ k.peers.resolve target = .ok q ∧
        Collections.select (some collections) k.names = .ok names ∧
        plan = ⟨.equalize, names.flatMap fun c =>
          (Planning.EqualizeRequest.draft ⟨r.peer, q.peer, settings.copyMethod⟩
            (k.topology false c)).transfers⟩ := by
  have drafted := fun {r q names} (hn : Collections.select (some collections) k.names = .ok names) =>
    eval_each_equalize (r := ⟨r, q, settings.copyMethod⟩)
      fun c hc => eval_topologyWithoutFactor (Collections.mem_of_select hn hc)
  unfold planEqualize
  simp only [eval_bind_eq_ok_iff, eval_resolveIn, eval_selected_eq_ok_iff]
  constructor
  · rintro ⟨_, ⟨⟩, r, hr, q, hq, names, hn, h⟩
    refine ⟨r, q, names, hr, hq, hn, ?_⟩
    split at h
    · obtain ⟨_, -, l, hl, h⟩ := by simpa only [eval_bind_eq_ok_iff, eval_completed] using h
      rw [Except.ok.inj ((drafted hn).symm.trans hl)]
      exact (Except.ok.inj h).symm
    · obtain ⟨l, hl, h⟩ := by simpa only [eval_bind_eq_ok_iff, eval_completed] using h
      rw [Except.ok.inj ((drafted hn).symm.trans hl)]
      exact (Except.ok.inj h).symm
  · rintro ⟨r, q, names, hr, hq, hn, rfl⟩
    have planned := drafted (r := r.peer) (q := q.peer) hn
    refine ⟨_, rfl, r, hr, q, hq, names, hn, ?_⟩
    split
    · exact eval_bind_eq_ok_iff.2 ⟨(), rfl, eval_bind_eq_ok_iff.2 ⟨_, planned, eval_completed ..⟩⟩
    · exact eval_bind_eq_ok_iff.2 ⟨_, planned, eval_completed ..⟩

end Eval

end Rebalance
end ShardBalance
