import Mathlib.Algebra.Order.Floor.Div
import Mathlib.Order.Bounds.Defs
import ShardBalance.Proofs.Planning.Gains
import ShardBalance.Proofs.Planning.Planner

/-!
Drains by their visits. The peers are visited in the order of the ring, from its first one on, and each visit gives
its peer the first shards still waiting that it lacks, at most an equal share. What no peer lacks waits for ever, so a
drain that gets stuck does so at the first such shard.
-/

namespace ShardBalance

namespace Planning

theorem share_fst (quota : Nat) (p : ShardId → Bool) (l : List ShardId) :
    (share quota p l).1 = (l.filter p).take quota := by
  induction l generalizing quota with
  | nil => simp [share]
  | cons s rest ih =>
    unfold share
    split
    next h =>
      obtain ⟨some, hs⟩ := h
      obtain ⟨q, rfl⟩ := Nat.exists_eq_succ_of_ne_zero some.ne'
      simp [hs, ih]
    next h =>
      by_cases hs : p s = true
      · have none : quota = 0 := by simpa [hs] using h
        simp [none, ih]
      · simp [hs, ih]

theorem share_snd (quota : Nat) (p : ShardId → Bool) {l : List ShardId} (once : l.Nodup) :
    (share quota p l).2 = l.filter (· ∉ (share quota p l).1) := by
  induction l generalizing quota with
  | nil => simp [share]
  | cons s rest ih =>
    obtain ⟨new, once⟩ := List.nodup_cons.1 once
    have others : ∀ x ∈ rest, x ≠ s := fun x hx same => new (same ▸ hx)
    unfold share
    split
    next =>
      have rest' : ∀ taken : List ShardId, rest.filter (· ∉ s :: taken) = rest.filter (· ∉ taken) := fun taken =>
        List.filter_congr fun x hx => by simp [others x hx]
      simp only [ih _ once]
      rw [List.filter_cons_of_neg (by simp), rest']
    next =>
      have out : s ∉ (share quota p rest).1 := by
        rw [share_fst]
        exact fun h => new (List.mem_of_mem_filter (List.mem_of_mem_take h))
      simp [out, ih _ once]

namespace DrainRequest

variable (r : DrainRequest) (t : Topology) (ring : Ring)

/-- The equal share of the shards of the source. -/
abbrev quota : Nat := Planning.quota (t.placement.shardsOn r.source).size ring.size

/-- What visit `v` gives of the shards of `l`: the first ones that its peer lacks, at most an equal share. -/
def portion (v : Nat) (l : List ShardId) : List ShardId :=
  (l.filter fun s => !t.placement.holds (ring.visited v) s).take (r.quota t ring)

/-- The shards that wait when visit `v` comes. -/
def waiting : Nat → List ShardId
  | 0 => (t.placement.shardsOn r.source).toList
  | v + 1 => (waiting v).filter (· ∉ r.portion t ring v (waiting v))

def given (v : Nat) : List ShardId := r.portion t ring v (r.waiting t ring v)

variable {r t ring} {v w : Nat} {s : ShardId}

theorem mem_waiting_succ : s ∈ r.waiting t ring (v + 1) ↔ s ∈ r.waiting t ring v ∧ s ∉ r.given t ring v := by
  simp [waiting, given]

theorem waiting_eq : r.waiting t ring v =
    (t.placement.shardsOn r.source).toList.filter fun s => ∀ u < v, s ∉ r.given t ring u := by
  induction v with
  | zero => simp [waiting]
  | succ v ih =>
    rw [waiting, ← given, ih, List.filter_filter]
    refine List.filter_congr fun s _ => ?_
    rw [← Bool.decide_and, decide_eq_decide, Nat.forall_lt_succ_right, and_comm]

theorem waiting_sublist : (r.waiting t ring v).Sublist (t.placement.shardsOn r.source).toList := by
  rw [waiting_eq]
  exact List.filter_sublist

theorem waiting_mono (h : v ≤ w) (hs : s ∈ r.waiting t ring w) : s ∈ r.waiting t ring v := by
  rw [waiting_eq, List.mem_filter] at hs ⊢
  have free : ∀ u < w, s ∉ r.given t ring u := by simpa using hs.2
  exact ⟨hs.1, by simpa using fun u hu => free u (by omega)⟩

theorem of_mem_given (h : s ∈ r.given t ring v) :
    s ∈ r.waiting t ring v ∧ t.placement.holds (ring.visited v) s = false := by
  simpa using List.mem_filter.1 (List.mem_of_mem_take h)

theorem given_eq_nil_of_short (short : (r.given t ring v).length < r.quota t ring) (later : v < w)
    (same : ring.visited w = ring.visited v) : r.given t ring w = [] := by
  -- less than a share is all that the peer lacks, and what waits later waited before
  have all : r.given t ring v = (r.waiting t ring v).filter fun s => !t.placement.holds (ring.visited v) s := by
    rw [given, portion, List.length_take] at short
    exact List.take_of_length_le (by omega)
  refine List.eq_nil_iff_forall_not_mem.2 fun s hs => ?_
  obtain ⟨waits, lacks⟩ := of_mem_given hs
  have left := mem_waiting_succ.1 (waiting_mono later waits)
  rw [all, List.mem_filter] at left
  simp [same ▸ lacks, left.1] at left

/-- Rounds that are the visits from `v` on, until nothing waits or no peer is left to be asked. -/
structure Follows (r : DrainRequest) (t : Topology) (ring : Ring) (v : Nat) (found : Rounds) : Prop where
  rounds : found.rounds = (List.range' v found.rounds.length).map fun w => ⟨ring.visited w, r.given t ring w⟩
  waits : ∀ w, v ≤ w → w < v + found.rounds.length → r.waiting t ring w ≠ []
  stuck : found.stuck = (r.waiting t ring (v + found.rounds.length)).head?

namespace Follows

theorem of_rounds_eq_nil {found : Rounds} (none : found.rounds = [])
    (stuck : found.stuck = (r.waiting t ring v).head?) : r.Follows t ring v found where
  rounds := by simp [none]
  waits w low high := by simp [none] at high; omega
  stuck := by simp [none, stuck]

theorem cons {more : Rounds} (waits : r.waiting t ring v ≠ []) (h : r.Follows t ring (v + 1) more) :
    r.Follows t ring v { more with rounds := ⟨ring.visited v, r.given t ring v⟩ :: more.rounds } where
  rounds := by simpa [List.range'_succ] using h.rounds
  waits w low high := by
    rcases Nat.eq_or_lt_of_le low with rfl | later
    · exact waits
    · exact h.waits w later (by simp at high; omega)
  stuck := by simpa [Nat.add_assoc, Nat.add_comm 1] using h.stuck

end Follows

theorem follows_rounds_from {s : Sweep} {l : List ShardId} (reached : s.ring = ring.visit v)
    (start : r.waiting t ring v = l) :
    r.Follows t ring v (Planning.rounds (r.quota t ring) (fun p s => !t.placement.holds p s) s l) := by
  fun_induction Planning.rounds (r.quota t ring) (fun p s => !t.placement.holds p s) s l generalizing v with
  | case1 s => exact .of_rounds_eq_nil rfl (by simp [start])
  | case2 s head rest _ => exact .of_rounds_eq_nil rfl (by simp [start])
  | case3 s head rest peer next h parts more =>
    rename_i ih
    obtain ⟨-, rfl, rfl⟩ := Sweep.next?_eq_some h
    have peer : s.ring.current = ring.visited v := by rw [reached, Ring.visited]
    have takes : parts.1 = r.given t ring v := by simp [parts, share_fst, given, portion, start, peer]
    have leaves : r.waiting t ring (v + 1) = parts.2 := by
      have once : (head :: rest).Nodup := start ▸ waiting_sublist.nodup (Ordered.Set.ascending _).nodup
      rw [waiting, ← given, start, ← takes, share_snd _ _ once]
    have moved : (if parts.1.isEmpty then (⟨s.ring.advance, s.untaken + 1⟩ : Sweep)
        else Sweep.take ⟨s.ring.advance, s.untaken + 1⟩).ring = ring.visit (v + 1) := by
      split <;> simp [reached]
    rw [peer, takes]
    exact .cons (by simp [start]) (ih moved leaves)

theorem follows_rounds : r.Follows t ring 0 (r.rounds t ring) :=
  follows_rounds_from (by simp [Ring.sweep]) rfl

theorem draft_visits : (r.draft t ring).1.visits = (r.rounds t ring).rounds.length := by
  unfold draft rounds Ordered.Set.size
  cases (t.placement.shardsOn r.source).toList with
  | nil => rw [Planning.rounds]; rfl
  | cons s l => rfl

theorem draft_transfers_eq_visits : (r.draft t ring).1.transfers =
    (List.range (r.draft t ring).1.visits).flatMap fun v => (r.given t ring v).map (r.transfer t (ring.visited v)) := by
  rw [draft_transfers, follows_rounds.rounds, draft_visits, List.flatMap_map, List.range_eq_range']
  rfl

theorem draft_stuck_eq_head? :
    (r.draft t ring).1.stuck = (r.waiting t ring (r.draft t ring).1.visits).head? := by
  simpa [draft_stuck, draft_visits] using follows_rounds.stuck

theorem waiting_ne_nil (h : v < (r.draft t ring).1.visits) : r.waiting t ring v ≠ [] :=
  follows_rounds.waits v (Nat.zero_le v) (by simpa [draft_visits] using h)

/-- Every peer that could take the shard of the source has it. -/
def StuckAt (r : DrainRequest) (t : Topology) (ring : Ring) (s : ShardId) : Prop :=
  t.placement.holds r.source s = true ∧ ∀ p ∈ ring.peers, t.placement.holds p s = true

theorem StuckAt.waits (h : r.StuckAt t ring s) (v : Nat) : s ∈ r.waiting t ring v := by
  induction v with
  | zero => exact Placement.mem_shardsOn.2 (Placement.holds_iff.1 h.1)
  | succ v ih =>
    refine mem_waiting_succ.2 ⟨ih, fun given => ?_⟩
    have lacks := (of_mem_given given).2
    have held := h.2 (ring.visited v) Ring.visited_mem
    simp [held] at lacks

theorem isLeast_of_draft_stuck (h : (r.draft t ring).1.stuck = some s) : IsLeast {s | r.StuckAt t ring s} s := by
  refine ⟨of_draft_stuck h, fun x (hx : r.StuckAt t ring x) => ?_⟩
  obtain ⟨rest, waiting⟩ : ∃ rest, r.waiting t ring (r.draft t ring).1.visits = s :: rest :=
    List.head?_eq_some_iff.1 (draft_stuck_eq_head?.symm.trans h)
  have ascending : Ordered.Ascending (s :: rest) :=
    waiting ▸ (Ordered.Set.ascending _).sublist waiting_sublist
  rcases List.mem_cons.1 (waiting ▸ hx.waits _) with rfl | later
  · exact UInt32.le_refl _
  · exact UInt32.le_of_lt (List.rel_of_pairwise_cons ascending later)

theorem plan_eq_ok_iff {l : List Transfer} :
    (Planner.drain r).plan t ring = .ok l ↔ (r.draft t ring).1.stuck = none ∧ l = (r.draft t ring).1.transfers :=
  Draft.result_eq_ok_iff

/-- A drain of a collection succeeds just where each shard of the source is lacking on some peer of the ring. It then
moves each of them once, to a peer of the ring that lacks it. Else it fails with the smallest shard that none lacks. -/
theorem drain_succeeds_unless_stuck (r : DrainRequest) (t : Topology) (ring : Ring) :
    let plan := (Planner.drain r).plan t ring
    ((∃ l, plan = .ok l) ↔ ∀ s, ¬ r.StuckAt t ring s) ∧
      (∀ l, plan = .ok l →
        (l.map Transfer.shard).Perm (t.placement.shardsOn r.source).toList ∧
          ∀ x ∈ l, x.collection = t.collection ∧ x.kind = .move ∧ x.method = r.method ∧ x.source = r.source ∧
            x.target ∈ ring.peers ∧ t.placement.holds x.target x.shard = false ∧ x.target ≠ r.source) ∧
      ∀ f, plan = .error f →
        ∃ s, IsLeast {s | r.StuckAt t ring s} s ∧ f = .noQualifyingPeer t.collection s ring.peers.length := by
  intro plan
  refine ⟨?_, fun l h => ?_, fun f h => ?_⟩
  · calc (∃ l, plan = .ok l) ↔ (r.draft t ring).1.stuck = none := by simp [plan, plan_eq_ok_iff]
      _ ↔ ∀ s, ¬ r.StuckAt t ring s := by
        rw [draft_stuck_eq_none_iff]
        simp [StuckAt, Placement.mem_shardsOn, ← Placement.holds_iff]
  · obtain ⟨free, rfl⟩ := plan_eq_ok_iff.1 h
    refine ⟨shards_draft_perm free, fun x hx => ?_⟩
    obtain ⟨form, member, lacks⟩ := of_mem_draft hx
    have other : x.target ≠ r.source := by
      intro same
      simp [same, held_of_mem_draft free hx] at lacks
    rw [form]
    exact ⟨rfl, rfl, rfl, rfl, member, lacks, other⟩
  · obtain ⟨s, stuck, rfl⟩ := Draft.result_eq_error_iff.1 h
    exact ⟨s, isLeast_of_draft_stuck stuck, rfl⟩

theorem quota_eq_ceilDiv (loaded : (t.placement.shardsOn r.source).toList ≠ []) :
    r.quota t ring = (t.placement.shardsOn r.source).toList.length ⌈/⌉ ring.size := by
  have some := List.length_pos_iff.2 loaded
  have peers := ring.size_pos
  have positive : 0 < ((t.placement.shardsOn r.source).toList.length + ring.size - 1) / ring.size :=
    Nat.div_pos (by omega) peers
  rw [Nat.ceilDiv_eq_add_pred_div]
  exact Nat.max_eq_right positive

theorem waiting_visits (h : (r.draft t ring).1.stuck = none) : r.waiting t ring (r.draft t ring).1.visits = [] :=
  List.head?_eq_none_iff.1 (draft_stuck_eq_head?.symm.trans h)

theorem given_eq_nil (h : (r.draft t ring).1.stuck = none) (later : (r.draft t ring).1.visits ≤ v) :
    r.given t ring v = [] := by
  refine List.eq_nil_iff_forall_not_mem.2 fun s hs => ?_
  simpa [waiting_visits h] using waiting_mono later (of_mem_given hs).1

theorem waiting_eq_drop (free : ∀ p ∈ ring.peers, ∀ s ∈ t.placement.shardsOn r.source, t.placement.holds p s = false)
    (v : Nat) : r.waiting t ring v = (t.placement.shardsOn r.source).toList.drop (v * r.quota t ring) ∧
      r.given t ring v = (r.waiting t ring v).take (r.quota t ring) := by
  have all (v : Nat) : r.given t ring v = (r.waiting t ring v).take (r.quota t ring) := by
    rw [given, portion, List.filter_eq_self.2]
    intro s hs
    simp [free _ Ring.visited_mem s (waiting_sublist.mem hs)]
  refine ⟨?_, all v⟩
  induction v with
  | zero => simp [waiting]
  | succ v ih =>
    have once : (r.waiting t ring v).Nodup := waiting_sublist.nodup (Ordered.Set.ascending _).nodup
    rw [← List.take_append_drop (r.quota t ring) (r.waiting t ring v)] at once
    have left := filter_not_mem_left once
    rw [List.take_append_drop, ← all] at left
    rw [waiting, ← given, left, ih, List.drop_drop, Nat.succ_mul, Nat.add_comm]

end DrainRequest

theorem flatMap_shares {α β : Type} (f : Nat → α → β) (l : List α) {q : Nat} (hq : 0 < q) (n : Nat) :
    ((List.range n).flatMap fun v => ((l.drop (v * q)).take q).map (f v)) =
      (l.take (n * q)).mapIdx fun i a => f (i / q) a := by
  induction n with
  | zero => simp
  | succ n ih =>
    rw [List.range_succ, List.flatMap_append, ih, Nat.succ_mul, List.take_add, List.mapIdx_append]
    congr 1
    rcases Nat.le_total (n * q) l.length with full | short
    · refine List.ext_getElem (by simp) fun i _ hi => ?_
      have inside : i < q := by simp at hi; omega
      have share : (i + n * q) / q = n := by rw [Nat.add_mul_div_right _ _ hq, Nat.div_eq_of_lt inside, Nat.zero_add]
      simp [Nat.min_eq_left full, share]
    · have none : l.drop (n * q) = [] := List.drop_of_length_le short
      simp only [List.flatMap_singleton, none, List.take_nil, List.map_nil, List.mapIdx_nil]

namespace DrainRequest

variable {r : DrainRequest} {t : Topology} {ring : Ring}

theorem transfers_of_free
    (free : ∀ p ∈ ring.peers, ∀ s ∈ t.placement.shardsOn r.source, t.placement.holds p s = false)
    (unstuck : (r.draft t ring).1.stuck = none)
    (enough : (t.placement.shardsOn r.source).size ≤ ring.size * r.quota t ring) :
    (r.draft t ring).1.visits ≤ ring.size ∧
      (r.draft t ring).1.transfers = (t.placement.shardsOn r.source).toList.mapIdx fun i s =>
        r.transfer t (ring.visited (i / r.quota t ring)) s := by
  have within : (r.draft t ring).1.visits ≤ ring.size := by
    by_contra more
    have waits := waiting_ne_nil (Nat.lt_of_not_le more)
    rw [(waiting_eq_drop free _).1] at waits
    exact waits (List.drop_of_length_le enough)
  refine ⟨within, ?_⟩
  have everything : (t.placement.shardsOn r.source).toList.take ((r.draft t ring).1.visits * r.quota t ring) =
      (t.placement.shardsOn r.source).toList := by
    have nothing := waiting_visits unstuck
    rw [(waiting_eq_drop free _).1, List.drop_eq_nil_iff] at nothing
    exact List.take_of_length_le nothing
  rw [draft_transfers_eq_visits]
  simp only [(waiting_eq_drop free _).2, (waiting_eq_drop free _).1]
  rw [flatMap_shares (fun v => r.transfer t (ring.visited v)) _ (quota_pos _ _), everything]

/-- A drain goes round the ring. Visit `v` is to the peer at position `v` modulo the size of the ring, and gives it the
first shards of the source not given before that it lacks, at most an equal share. All visits to one position give full
shares, except for the last of them that gives any. Where no peer of the ring has a shard of the source, the drain goes
round once, and each peer gets the next share. -/
theorem drain_goes_round {r : DrainRequest} {t : Topology} {ring : Ring} {plan : List Transfer}
    (planned : (Planner.drain r).plan t ring = .ok plan) (loaded : (t.placement.shardsOn r.source).toList ≠ []) :
    let shards := (t.placement.shardsOn r.source).toList
    let n := ring.size
    let q := shards.length ⌈/⌉ n
    let visits := (r.draft t ring).1.visits
    let given := r.given t ring
    (∀ v, ring.peers[v % n]? = some (ring.visited v) ∧
        given v = ((shards.filter fun s => ∀ u < v, s ∉ given u).filter
          fun s => !t.placement.holds (ring.visited v) s).take q) ∧
      plan = ((List.range visits).flatMap fun v => (given v).map (r.transfer t (ring.visited v))) ∧
      (∀ v, visits ≤ v → given v = []) ∧
      (∀ v w, v < w → v % n = w % n → (given v).length < q → given w = []) ∧
      (∀ v w, v < w → v % n = w % n → given w ≠ [] → (given v).length = q) ∧
      ((∀ p ∈ ring.peers, ∀ s ∈ shards, t.placement.holds p s = false) →
        visits ≤ n ∧ plan.length = shards.length ∧
          ∀ i s, shards[i]? = some s →
            ∃ p, ring.peers[i / q]? = some p ∧ plan[i]? = some (r.transfer t p s)) := by
  intro shards n q visits given
  obtain ⟨unstuck, rfl⟩ := plan_eq_ok_iff.1 planned
  have share : r.quota t ring = q := quota_eq_ceilDiv loaded
  have short : ∀ v w, v < w → v % n = w % n → (given v).length < q → given w = [] := fun v w later same few =>
    given_eq_nil_of_short (share ▸ few) later (Ring.visited_congr same.symm)
  refine ⟨fun v => ⟨ring.getElem?_peers_mod v, ?_⟩, draft_transfers_eq_visits, fun v later => given_eq_nil unstuck later, short,
    fun v w later same some => ?_, fun free => ?_⟩
  · rw [← share, ← waiting_eq]
    rfl
  · have most : (given v).length ≤ q := share ▸ List.length_take_le ..
    have full : ¬ (given v).length < q := fun few => some (short v w later same few)
    omega
  · have enough : (t.placement.shardsOn r.source).size ≤ ring.size * r.quota t ring := by
      rw [share]
      exact le_smul_ceilDiv ring.size_pos
    obtain ⟨within, transfers⟩ := transfers_of_free free unstuck enough
    refine ⟨within, by simp [transfers, shards], fun i s hs => ⟨ring.visited (i / q), Ring.getElem?_peers ?_, ?_⟩⟩
    · obtain ⟨inside, -⟩ := List.getElem?_eq_some_iff.1 hs
      exact Nat.div_lt_of_lt_mul (by rw [Nat.mul_comm]; exact Nat.lt_of_lt_of_le inside (share ▸ enough))
    · have found : (t.placement.shardsOn r.source).toList[i]? = some s := hs
      simp [transfers, share, found]

theorem short_visit_is_last :
    let t : Topology := ⟨"docs", 0, .ofHoldings 1
      [⟨1, 0⟩, ⟨1, 1⟩, ⟨1, 2⟩, ⟨1, 3⟩, ⟨1, 4⟩, ⟨2, 1⟩, ⟨2, 2⟩, ⟨2, 3⟩, ⟨2, 4⟩]⟩
    let ring : Ring := ⟨[2, 3], 1, by decide⟩
    let drain : DrainRequest := ⟨1, .snapshot⟩
    let move (shard : ShardId) (target : PeerId) : Transfer := ⟨"docs", shard, 1, target, .snapshot, .move⟩
    (Planner.drain drain).plan t ring = .ok [move 0 2, move 1 3, move 2 3, move 3 3, move 4 3] ∧
      (t.placement.shardsOn 1).toList ≠ [] ∧ ∀ w, 0 < w → w % 2 = 0 → drain.given t ring w = [] := by
  -- one of two peers lacks one shard only, so its first visit gives less than a share and is its last
  intro t ring drain move
  have planned : (Planner.drain drain).plan t ring = .ok [move 0 2, move 1 3, move 2 3, move 3 3, move 4 3] := by cbv
  have loaded : (t.placement.shardsOn drain.source).toList ≠ [] := by decide
  have short : (drain.given t ring 0).length < (t.placement.shardsOn drain.source).toList.length ⌈/⌉ ring.size := by
    decide
  obtain ⟨-, -, -, last, -⟩ := drain_goes_round planned loaded
  exact ⟨planned, loaded, fun w later even => last 0 w later even.symm short⟩

end DrainRequest
end Planning
end ShardBalance
