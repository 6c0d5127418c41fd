import Mathlib.Algebra.Order.Floor.Div
import Mathlib.Data.Int.CardIntervalMod
import ShardBalance.Proofs.Planning.Planner

/-!
Replications by the visits to their sources. The search for the source of each shard begins behind the source of the one
before, and shards that need no copy leave it where it is. So a peer that holds all that is copied is never passed over,
and no other serves more than once more often.
-/

namespace ShardBalance

/-- Transfers whose sources come up in turn, from visit `v` on and before visit `w`: each is the first peer visited that
holds the shard, and the search for the next one begins behind it. -/
inductive Placement.InTurn (a : Placement) (ring : Ring) : Nat → List Transfer → Nat → Prop
  | nil (v : Nat) : a.InTurn ring v [] v
  | cons {v u w : Nat} {x : Transfer} {rest : List Transfer}
    (first : IsLeast {u | v ≤ u ∧ a.holds (ring.visited u) x.shard = true} u) (source : x.source = ring.visited u)
    (later : a.InTurn ring (u + 1) rest w) : a.InTurn ring v (x :: rest) w

namespace Planning.ReplicateRequest

/-- Whether a shard is to be copied: the target lacks it, and it has too few replicas unless that does not matter. -/
structure Needs (r : ReplicateRequest) (t : Topology) (s : ShardId) : Prop where
  known : s ∈ t.placement.shards
  lacking : t.placement.holds r.target s = false
  few : r.ignoreFactor = true ∨ t.placement.replication s < t.factor

variable {r : ReplicateRequest} {t : Topology} {ring : Ring} {s : ShardId}

theorem needs_iff : r.Needs t s ↔ s ∈ t.placement.shards ∧ r.skip? t s = none := by
  rw [skip?_eq_none_iff]
  constructor
  · intro h
    refine ⟨h.known, fun respected => h.few.resolve_left ?_, h.lacking⟩
    simp [respected]
  · rintro ⟨known, few, lacking⟩
    refine ⟨known, lacking, ?_⟩
    cases ignored : r.ignoreFactor with
    | true => exact .inl rfl
    | false => exact .inr (few ignored)

theorem inTurn_copies {q : Sweep} {v : Nat} (reached : q.ring = ring.visit v) (l : List ShardId) :
    ∃ w, t.placement.InTurn ring v (r.copies t q l).1.transfers w := by
  fun_induction copies r t q l generalizing v with
  | case1 q => exact ⟨v, .nil v⟩
  | case2 q shard rest step skipped d q' more ih =>
    rw [more] at ih
    rw [Draft.transfers_after_of_eq_none (transfer?_of_skip? skipped)]
    exact ih reached
  | case3 q shard rest needed search => exact ⟨v, .nil v⟩
  | case4 q shard rest needed search source found d q' more =>
    rename_i ih
    rw [more] at ih
    rw [Draft.transfers_after_transfer]
    obtain ⟨u, first, same, ends⟩ := Sweep.visited_of_find_eq_some reached found
    obtain ⟨w, later⟩ := ih (congrArg Sweep.ring ends)
    exact ⟨w, .cons first same later⟩

theorem le_of_copies_stuck {q : Sweep} {l : List ShardId} (ascending : Ordered.Ascending l) {x y : ShardId}
    (h : (r.copies t q l).1.stuck = some x) (hy : y ∈ l) (needed : r.skip? t y = none)
    (none : ∀ p ∈ q.ring.peers, t.placement.holds p y = false) : x ≤ y := by
  -- the shards come in ascending order, so one before `x` would have got the draft stuck first
  fun_induction copies r t q l with
  | case1 q => cases hy
  | case2 q shard rest step skipped d q' more ih =>
    rw [more] at ih
    have other : y ≠ shard := by
      rintro rfl
      simp [needed] at skipped
    exact ih (List.pairwise_cons.1 ascending).2 h (List.mem_of_ne_of_mem other hy) none
  | case3 q shard rest _ search missing =>
    cases h
    rcases List.mem_cons.1 hy with rfl | later
    · exact UInt32.le_refl _
    · exact UInt32.le_of_lt (List.rel_of_pairwise_cons ascending later)
  | case4 q shard rest _ search source found d q' more ih =>
    rw [more] at ih
    obtain ⟨member, holds, -⟩ := Sweep.of_find_eq_some found
    have other : y ≠ shard := by
      rintro rfl
      simp [none source member] at holds
    exact ih (List.pairwise_cons.1 ascending).2 h (List.mem_of_ne_of_mem other hy) (by simpa [search] using none)

theorem inTurn_draft : ∃ w, t.placement.InTurn ring 0 (r.draft t ring).1.transfers w := by
  unfold draft
  split
  · exact ⟨0, .nil 0⟩
  · exact inTurn_copies (by simp [Ring.sweep]) _

/-- A shard that is to be copied, although no peer of the ring holds it. -/
def StuckAt (r : ReplicateRequest) (t : Topology) (ring : Ring) (s : ShardId) : Prop :=
  r.Needs t s ∧ ∀ p ∈ ring.peers, t.placement.holds p s = false

theorem isLeast_of_draft_stuck (h : (r.draft t ring).1.stuck = some s) : IsLeast {s | r.StuckAt t ring s} s := by
  obtain ⟨known, needed, none⟩ := of_draft_stuck h
  refine ⟨⟨needs_iff.2 ⟨known, needed⟩, none⟩, fun y (hy : r.StuckAt t ring y) => ?_⟩
  obtain ⟨hy, none⟩ := hy
  obtain ⟨known, needed⟩ := needs_iff.1 hy
  unfold draft at h
  split at h
  · cases h
  · exact le_of_copies_stuck t.placement.shards.ascending h known needed none

theorem plan_eq_ok_iff {l : List Transfer} :
    (Planner.replicate r).plan t ring = .ok l ↔ (r.draft t ring).1.stuck = none ∧ l = (r.draft t ring).1.transfers :=
  Draft.result_eq_ok_iff

/-- A replication of a collection succeeds just where each shard that is to be copied is on a peer of the ring. It then
copies each of them once, in ascending order, and the sources come up in turn from the first peer of the ring on. Else it
fails with the smallest shard that no peer of the ring holds. -/
theorem replication_takes_sources_in_turn (r : ReplicateRequest) (t : Topology) (ring : Ring) :
    let plan := (Planner.replicate r).plan t ring
    (∀ v, ring.peers[v % ring.size]? = some (ring.visited v)) ∧
      (r.ignoreFactor = false → t.factor = 0 → plan = .ok []) ∧
      ((∃ l, plan = .ok l) ↔ ∀ s, r.Needs t s → ∃ p ∈ ring.peers, t.placement.holds p s = true) ∧
      (∀ l, plan = .ok l →
        (l.map Transfer.shard).Pairwise (· < ·) ∧ (∀ s, s ∈ l.map Transfer.shard ↔ r.Needs t s) ∧
          (∀ x ∈ l, x.collection = t.collection ∧ x.kind = .copy ∧ x.method = r.method ∧ x.target = r.target) ∧
            ∃ w, t.placement.InTurn ring 0 l w) ∧
      ∀ f, plan = .error f →
        ∃ s, IsLeast {s | r.StuckAt t ring s} s ∧ f = .noQualifyingPeer t.collection s ring.peers.length := by
  intro plan
  refine ⟨ring.getElem?_peers_mod, fun respected unknown => ?_, ?_, fun l h => ?_, fun f h => ?_⟩
  · refine plan_eq_ok_iff.2 ?_
    simp [draft, respected, unknown, Draft.ofSteps, Draft.transfers, Step.transfer?]
  · calc (∃ l, plan = .ok l) ↔ (r.draft t ring).1.stuck = none := by simp [plan, plan_eq_ok_iff]
      _ ↔ ∀ s, r.Needs t s → ∃ p ∈ ring.peers, t.placement.holds p s = true := by
        simp only [draft_stuck_eq_none_iff, needs_iff, and_imp]
  · obtain ⟨free, rfl⟩ := plan_eq_ok_iff.1 h
    refine ⟨?_, fun s => ?_, fun x hx => ?_, inTurn_draft⟩
    · have ascending : Ordered.Ascending ((r.draft t ring).1.transfers.map Transfer.shard) :=
        t.placement.shards.ascending.sublist shards_draft_sublist
      exact ascending.imp UInt32.lt_iff_toNat_lt.2
    · rw [shards_draft free, needs_iff]
      simp [Ordered.Set.mem_toList]
    · rw [(of_mem_draft hx).1]
      exact ⟨rfl, rfl, rfl, rfl⟩
  · obtain ⟨s, stuck, rfl⟩ := Draft.result_eq_error_iff.1 h
    exact ⟨s, isLeast_of_draft_stuck stuck, rfl⟩

end Planning.ReplicateRequest

namespace Ring

variable {ring : Ring} {p : PeerId}

/-- How often a peer comes up before visit `n`. -/
def visits (ring : Ring) (p : PeerId) (n : Nat) : Nat := Nat.count (ring.visited · = p) n

@[simp] theorem visits_zero (ring : Ring) (p : PeerId) : ring.visits p 0 = 0 := Nat.count_zero _

theorem visits_succ (ring : Ring) (p : PeerId) (n : Nat) :
    ring.visits p (n + 1) = ring.visits p n + if ring.visited n = p then 1 else 0 :=
  Nat.count_succ ..

theorem visits_mono (p : PeerId) {m n : Nat} (h : m ≤ n) : ring.visits p m ≤ ring.visits p n := Nat.count_monotone _ h

theorem visits_le_of_absent {m n : Nat} (absent : ∀ u, m ≤ u → u < n → ring.visited u ≠ p) :
    ring.visits p n ≤ ring.visits p m := by
  by_contra more
  obtain ⟨u, ⟨low, high⟩, comes⟩ := Nat.exists_of_count_lt_count (Nat.lt_of_not_le more)
  exact absent u low high comes

theorem visits_bounds (distinct : ring.peers.Nodup) (hp : p ∈ ring.peers) (n : Nat) :
    n / ring.size ≤ ring.visits p n ∧ ring.visits p n ≤ n ⌈/⌉ ring.size := by
  obtain ⟨i, hi, rfl⟩ := List.getElem_of_mem hp
  have inside : i % ring.size = i := Nat.mod_eq_of_lt hi
  have comes (v : Nat) : ring.visited v = ring.peers[i] ↔ v ≡ i [MOD ring.size] := by
    rw [Nat.ModEq, inside]
    exact distinct.getElem_inj_iff
  have count : ring.visits ring.peers[i] n = n / ring.size + if i % ring.size < n % ring.size then 1 else 0 := by
    simp only [visits, comes]
    exact Nat.count_modEq_card n ring.size_pos i
  rw [count]
  refine ⟨Nat.le_add_right .., ?_⟩
  split
  next begun =>
    -- the turn begun has come past the peer
    by_contra less
    have whole := (ceilDiv_le_iff_le_mul ring.size_pos).1 (Nat.le_of_lt_succ (Nat.lt_of_not_le less))
    have parts := Nat.div_add_mod n ring.size
    omega
  next => exact (floorDiv_le_ceilDiv : n ⌊/⌋ ring.size ≤ n ⌈/⌉ ring.size)

theorem ceilDiv_size_le (ring : Ring) (n : Nat) : n ⌈/⌉ ring.size ≤ n / ring.size + 1 :=
  (ceilDiv_le_iff_le_mul ring.size_pos).2 (Nat.lt_mul_div_succ n ring.size_pos).le

end Ring

namespace Placement.InTurn

variable {a : Placement} {ring : Ring} {v w : Nat} {l : List Transfer}

theorem count_source_le (h : a.InTurn ring v l w) (p : PeerId) :
    (l.map Transfer.source).count p + ring.visits p v ≤ ring.visits p w := by
  induction h with
  | nil v => simp
  | @cons v u w x rest first source later ih =>
    have skipped : ring.visits p v ≤ ring.visits p u := Ring.visits_mono p first.1.1
    rw [ring.visits_succ, ← source] at ih
    rw [List.map_cons, List.count_cons]
    simp only [beq_iff_eq]
    omega

theorem visits_le_count_source (h : a.InTurn ring v l w) {p : PeerId}
    (capable : ∀ x ∈ l, a.holds p x.shard = true) :
    ring.visits p w ≤ (l.map Transfer.source).count p + ring.visits p v := by
  induction h with
  | nil v => simp
  | @cons v u w x rest first source later ih =>
    obtain ⟨able, capable⟩ := List.forall_mem_cons.1 capable
    have skipped : ring.visits p u ≤ ring.visits p v := by
      refine Ring.visits_le_of_absent fun k low high comes => ?_
      exact Nat.not_le_of_lt high (first.2 ⟨low, comes ▸ able⟩)
    have others := ih capable
    rw [ring.visits_succ, ← source] at others
    rw [List.map_cons, List.count_cons]
    simp only [beq_iff_eq]
    omega

theorem end_eq (h : a.InTurn ring v l w) (capable : ∀ p ∈ ring.peers, ∀ x ∈ l, a.holds p x.shard = true) :
    w = v + l.length := by
  induction h with
  | nil v => rfl
  | @cons v u w x rest first source later ih =>
    have soon : u ≤ v := first.2 ⟨Nat.le_refl v, capable _ Ring.visited_mem x List.mem_cons_self⟩
    have same : u = v := Nat.le_antisymm soon first.1.1
    have others := ih fun p hp y hy => capable p hp y (List.mem_cons_of_mem x hy)
    rw [List.length_cons]
    omega

end Placement.InTurn

namespace Planning.ReplicateRequest

/-- The sources of a replication share its load. No peer of the ring is a source more than once more often than one that
holds all that is copied, so any two such peers serve equally often up to one. Where all peers of the ring hold all that
is copied, each of them serves its equal share, rounded down or up. -/
theorem sources_share_load {r : ReplicateRequest} {t : Topology} {ring : Ring} {plan : List Transfer}
    (planned : (Planner.replicate r).plan t ring = .ok plan) (distinct : ring.peers.Nodup) :
    let load (p : PeerId) := (plan.map Transfer.source).count p
    let capable (p : PeerId) := ∀ x ∈ plan, t.placement.holds p x.shard = true
    (∀ a ∈ ring.peers, ∀ b ∈ ring.peers, capable b → load a ≤ load b + 1) ∧
      (∀ a ∈ ring.peers, ∀ b ∈ ring.peers, capable a → capable b → load a ≤ load b + 1 ∧ load b ≤ load a + 1) ∧
      ((∀ p ∈ ring.peers, capable p) → ∀ p ∈ ring.peers,
        load p = plan.length / ring.size ∨ load p = plan.length ⌈/⌉ ring.size) := by
  intro load capable
  obtain ⟨-, rfl⟩ := plan_eq_ok_iff.1 planned
  obtain ⟨w, inTurn⟩ : ∃ w, t.placement.InTurn ring 0 (r.draft t ring).1.transfers w := inTurn_draft
  have most (p : PeerId) : load p ≤ ring.visits p w := by simpa using inTurn.count_source_le p
  have least (p : PeerId) (able : capable p) : ring.visits p w ≤ load p := by
    simpa using inTurn.visits_le_count_source able
  have spread : ∀ a ∈ ring.peers, ∀ b ∈ ring.peers, capable b → load a ≤ load b + 1 := by
    intro a ha b hb able
    calc load a ≤ ring.visits a w := most a
      _ ≤ w ⌈/⌉ ring.size := (Ring.visits_bounds distinct ha w).2
      _ ≤ w / ring.size + 1 := ring.ceilDiv_size_le w
      _ ≤ ring.visits b w + 1 := Nat.succ_le_succ (Ring.visits_bounds distinct hb w).1
      _ ≤ load b + 1 := Nat.succ_le_succ (least b able)
  refine ⟨spread, fun a ha b hb first second => ⟨spread a ha b hb second, spread b hb a ha first⟩, fun all p hp => ?_⟩
  have turns : w = (r.draft t ring).1.transfers.length := by simpa using inTurn.end_eq all
  have low : w / ring.size ≤ load p := (Ring.visits_bounds distinct hp w).1.trans (least p (all p hp))
  have high : load p ≤ w ⌈/⌉ ring.size := (most p).trans (Ring.visits_bounds distinct hp w).2
  have close := ring.ceilDiv_size_le w
  rw [← turns]
  omega

theorem passed_over_source :
    let t : Topology := ⟨"docs", 0, .ofHoldings 1 [⟨2, 0⟩, ⟨2, 1⟩, ⟨2, 2⟩, ⟨3, 0⟩, ⟨3, 1⟩, ⟨3, 2⟩, ⟨4, 0⟩]⟩
    let ring : Ring := ⟨[2, 3, 4], 1, by decide⟩
    let copy (shard : ShardId) (source : PeerId) : Transfer := ⟨"docs", shard, source, 1, .snapshot, .copy⟩
    let load (p : PeerId) := ([copy 0 2, copy 1 3, copy 2 2].map Transfer.source).count p
    (Planner.replicate ⟨1, true, .snapshot⟩).plan t ring = .ok [copy 0 2, copy 1 3, copy 2 2] ∧ ring.peers.Nodup ∧
      load 2 ≤ load 3 + 1 ∧ load 4 ≤ load 3 + 1 := by
  -- one of three peers holds one shard only and is passed over. The first of the others then serves once more
  intro t ring copy load
  have planned : (Planner.replicate ⟨1, true, .snapshot⟩).plan t ring =
    .ok [copy 0 2, copy 1 3, copy 2 2] := by cbv
  have distinct : ring.peers.Nodup := by decide
  have able : ∀ x ∈ [copy 0 2, copy 1 3, copy 2 2], t.placement.holds 3 x.shard = true := by decide
  obtain ⟨spread, -⟩ := sources_share_load planned distinct
  exact ⟨planned, distinct, spread 2 (by decide) 3 (by decide) able, spread 4 (by decide) 3 (by decide) able⟩

end Planning.ReplicateRequest
end ShardBalance
