import Mathlib.Data.Set.Card
import ShardBalance.Proofs.Planning.Rotations
import ShardBalance.Proofs.Planning.Visits
import ShardBalance.Proofs.Ring.Searches

/-!
How many peers planning asks. Each peer that a sweep takes pays for the peers asked before it, at most one turn of them,
and a sweep that is refused has asked one turn more. Planning takes a peer only for a shard that it then need not come
back to, so there are at most as many turns as shards.
-/

namespace ShardBalance

namespace Sweep

/-- A sweep hands out one peer after the other, and each of them is taken or not before the next one is asked for. -/
inductive Asks : Sweep → List (PeerId × Bool) → Sweep → Prop
  | done (s : Sweep) : s.Asks [] s
  | pass {s t u : Sweep} {p : PeerId} {l : List (PeerId × Bool)} (next : s.next? = some (p, t)) (rest : t.Asks l u) :
    s.Asks ((p, false) :: l) u
  | take {s t u : Sweep} {p : PeerId} {l : List (PeerId × Bool)} (next : s.next? = some (p, t)) (rest : t.take.Asks l u) :
    s.Asks ((p, true) :: l) u

/-- The peers that were taken of those asked. -/
def taken (asks : List (PeerId × Bool)) : List PeerId := (asks.filter Prod.snd).map Prod.fst

theorem taken_append (l m : List (PeerId × Bool)) : taken (l ++ m) = taken l ++ taken m := by
  simp [taken]

namespace Asks

variable {s t u : Sweep} {l m : List (PeerId × Bool)}

theorem append (first : s.Asks l t) (second : t.Asks m u) : s.Asks (l ++ m) u := by
  induction first with
  | done s => exact second
  | pass next rest ih => exact .pass next (ih second)
  | take next rest ih => exact .take next (ih second)

theorem peers (h : s.Asks l u) : u.ring.peers = s.ring.peers := by
  induction h with
  | done s => rfl
  | pass next rest ih => exact ih.trans (peers_of_next? next).2
  | take next rest ih => exact ih.trans (peers_of_next? next).2

theorem untaken_le (h : s.Asks l u) (within : s.untaken ≤ s.size) : u.untaken ≤ s.size := by
  induction h with
  | done s => exact within
  | pass next rest ih =>
    obtain ⟨left, -, rfl⟩ := next?_eq_some next
    exact ih left
  | take next rest ih =>
    obtain ⟨-, -, rfl⟩ := next?_eq_some next
    exact ih (Nat.zero_le _)

theorem length_le (h : s.Asks l u) (within : s.untaken ≤ s.size) :
    l.length + s.untaken ≤ s.size * (taken l).length + u.untaken := by
  -- a peer that is taken pays for a turn, and what was asked since the last one is on the count of the sweep
  induction h with
  | done s => simp [taken]
  | @pass s t u p l next rest ih =>
    obtain ⟨left, -, rfl⟩ := next?_eq_some next
    have later : l.length + (s.untaken + 1) ≤ s.size * (taken l).length + u.untaken := ih left
    have same : taken ((p, false) :: l) = taken l := rfl
    rw [same, List.length_cons]
    omega
  | @take s t u p l next rest ih =>
    obtain ⟨left, -, rfl⟩ := next?_eq_some next
    have later : l.length + 0 ≤ s.size * (taken l).length + u.untaken := ih (Nat.zero_le _)
    have more : taken ((p, true) :: l) = p :: taken l := rfl
    rw [more, List.length_cons, List.length_cons, Nat.mul_succ]
    omega

end Asks

theorem asks_find (f : PeerId → Bool) (s : Sweep) :
    s.Asks ((s.find f).asked.map fun p => (p, f p)) (s.find f).sweep := by
  fun_induction find f s with
  | case1 s h => exact .done s
  | case2 s p t h hp =>
    simp only [List.map_cons, List.map_nil, hp]
    exact .take h (.done _)
  | case3 s p t h hp rest ih =>
    have fails : f p = false := by simpa using hp
    simp only [List.map_cons, fails]
    exact .pass h ih

theorem taken_find (f : PeerId → Bool) (s : Sweep) :
    taken ((s.find f).asked.map fun p => (p, f p)) = (s.find f).peer.toList := by
  have none {l : List PeerId} (fail : ∀ p ∈ l, f p = false) : taken (l.map fun p => (p, f p)) = [] := by
    simpa [taken] using fail
  cases found : (s.find f).peer with
  | none => exact none (asked_of_find_eq_none found)
  | some p =>
    obtain ⟨before, asked, satisfies, fail⟩ := asked_of_find_eq_some found
    rw [asked, List.map_append, taken_append, none fail]
    simp [taken, satisfies]

end Sweep

namespace Planning

open Sweep

/-- What a draft comes to that is made by asking a ring for partners. The peers handed out are as many as the draft says, those
taken are the partners in its transfers, and a draft that gets stuck does so because the next peer is refused. -/
structure MadeBy (ring : Ring) (partner : Transfer → PeerId) (d : Draft × Ring) (asks : List (PeerId × Bool)) (u : Sweep) :
    Prop where
  asked : ∃ start : Ring, start.peers = ring.peers ∧ start.sweep.Asks asks u
  visits : d.1.visits = asks.length
  mem_taken : ∀ p, p ∈ taken asks ↔ p ∈ d.1.transfers.map partner
  ring : d.2 = u.ring
  refused : d.1.stuck ≠ none → u.next? = none

theorem MadeBy.length_le {ring : Ring} {partner : Transfer → PeerId} {d : Draft × Ring} {asks : List (PeerId × Bool)}
    {u : Sweep} {k : Nat} (made : MadeBy ring partner d asks u) (settled : (taken asks).length + d.1.stuck.toList.length ≤ k)
    (free : d.1.stuck = none → u.untaken = 0) : asks.length ≤ ring.size * k := by
  obtain ⟨start, same, asked⟩ := made.asked
  have size : start.sweep.size = ring.size := congrArg List.length same
  have bound := asked.length_le (Nat.zero_le _)
  have turn := asked.untaken_le (Nat.zero_le _)
  rw [size] at bound turn
  cases stuck : d.1.stuck with
  | none =>
    rw [stuck] at settled
    calc asks.length ≤ ring.size * (taken asks).length := by simpa [free stuck] using Nat.le_of_add_right_le bound
      _ ≤ ring.size * k := Nat.mul_le_mul_left _ settled
  | some x =>
    rw [stuck] at settled
    calc asks.length ≤ ring.size * (taken asks).length + ring.size := by omega
      _ = ring.size * ((taken asks).length + 1) := (Nat.mul_succ ..).symm
      _ ≤ ring.size * k := Nat.mul_le_mul_left _ settled

section Rounds

variable {quota : Nat} {lacks : PeerId → ShardId → Bool}

/-- The peer of a round is taken if the round gives it something. -/
def Round.ask (r : Round) : PeerId × Bool := (r.peer, !r.shards.isEmpty)

theorem asks_rounds (s : Sweep) (l : List ShardId) :
    s.Asks ((rounds quota lacks s l).rounds.map Round.ask) (rounds quota lacks s l).sweep := by
  fun_induction rounds quota lacks s l with
  | case1 s => exact .done s
  | case2 s head rest _ => exact .done s
  | case3 s head rest peer t next parts more ih =>
    have first {l : List (PeerId × Bool)} {u : Sweep} (rest : (if parts.1.isEmpty then t else t.take).Asks l u) :
        s.Asks (Round.ask ⟨peer, parts.1⟩ :: l) u := by
      unfold Round.ask
      cases none : parts.1.isEmpty with
      | true => exact .pass next (by simpa [none] using rest)
      | false => exact .take next (by simpa [none] using rest)
    exact first ih

theorem length_taken_le (l : List Round) : (taken (l.map Round.ask)).length ≤ (l.flatMap Round.shards).length := by
  induction l with
  | nil => exact Nat.le_refl 0
  | cons r l ih =>
    rw [List.flatMap_cons, List.length_append]
    obtain ⟨p, shards⟩ := r
    cases shards with
    | nil => exact Nat.le_add_left_of_le ih
    | cons s rest =>
      have one : taken ((⟨p, s :: rest⟩ :: l).map Round.ask) = p :: taken (l.map Round.ask) := rfl
      rw [one, List.length_cons, List.length_cons]
      omega

theorem settled_rounds (s : Sweep) (l : List ShardId) :
    (taken ((rounds quota lacks s l).rounds.map Round.ask)).length + (rounds quota lacks s l).stuck.toList.length ≤
      l.length := by
  obtain ⟨waiting, perm, stuck⟩ := perm_rounds quota lacks s l
  have given : (taken ((rounds quota lacks s l).rounds.map Round.ask)).length ≤ (rounds quota lacks s l).taken.length :=
    length_taken_le _
  have first : (rounds quota lacks s l).stuck.toList.length ≤ waiting.length := by
    rw [stuck]
    cases waiting <;> simp
  have all := perm.length_eq
  rw [List.length_append] at all
  omega

theorem refused_rounds {s : Sweep} {l : List ShardId} (h : (rounds quota lacks s l).stuck ≠ none) :
    (rounds quota lacks s l).sweep.next? = none := by
  fun_induction rounds quota lacks s l with
  | case1 s => exact absurd rfl h
  | case2 s head rest refused => exact refused
  | case3 s head rest peer t next parts more ih => exact ih h

theorem untaken_rounds {s : Sweep} {l : List ShardId} (fresh : l = [] → s.untaken = 0)
    (h : (rounds quota lacks s l).stuck = none) : (rounds quota lacks s l).sweep.untaken = 0 := by
  fun_induction rounds quota lacks s l with
  | case1 s => exact fresh rfl
  | case2 s head rest refused => cases h
  | case3 s head rest peer t next parts more ih =>
    refine ih (fun settled => ?_) h
    have whole : parts.1.length + parts.2.length = rest.length + 1 := length_share ..
    have some : parts.1 ≠ [] := by
      rintro none
      simp [none, settled] at whole
    simp [some, Sweep.take]

end Rounds

namespace DrainRequest

variable (r : DrainRequest) (t : Topology) (ring : Ring)

theorem mem_taken_rounds (p : PeerId) : p ∈ taken ((r.rounds t ring).rounds.map Round.ask) ↔
    p ∈ (r.draft t ring).1.transfers.map Transfer.target := by
  simp only [taken, draft_transfers, List.map_flatMap, List.mem_flatMap, List.mem_map, List.mem_filter, roundTransfers]
  constructor
  · rintro ⟨_, ⟨⟨round, made, rfl⟩, some⟩, rfl⟩
    obtain ⟨s, hs⟩ := List.exists_mem_of_ne_nil round.shards (by simpa [Round.ask] using some)
    exact ⟨round, made, _, ⟨s, hs, rfl⟩, rfl⟩
  · rintro ⟨round, made, _, ⟨s, hs, rfl⟩, rfl⟩
    exact ⟨_, ⟨⟨round, made, rfl⟩, by simpa [Round.ask] using List.ne_nil_of_mem hs⟩, rfl⟩

theorem madeBy : ∃ asks u, MadeBy ring Transfer.target (r.draft t ring) asks u ∧
    (taken asks).length + (r.draft t ring).1.stuck.toList.length ≤ (t.placement.shardsOn r.source).size ∧
      ((r.draft t ring).1.stuck = none → u.untaken = 0) := by
  cases loaded : (t.placement.shardsOn r.source).toList with
  | nil =>
    have idle : r.draft t ring = (.ofSteps [.nothingToDrain r.source], ring) := by
      unfold draft
      rw [loaded]
    rw [idle]
    exact ⟨[], ring.sweep, ⟨⟨ring, rfl, .done _⟩, rfl, fun _ => .rfl, rfl, absurd rfl⟩, Nat.zero_le _, fun _ => rfl⟩
  | cons s l =>
    have ends : (r.draft t ring).2 = (r.rounds t ring).sweep.ring := by
      unfold draft rounds Ordered.Set.size
      rw [loaded]
    have nonempty : (t.placement.shardsOn r.source).toList ≠ [] := by simp [loaded]
    refine ⟨(r.rounds t ring).rounds.map Round.ask, (r.rounds t ring).sweep,
      { asked := ⟨ring.reset, rfl, asks_rounds _ _⟩
        visits := by rw [draft_visits, List.length_map]
        mem_taken := r.mem_taken_rounds t ring
        ring := ends
        refused := fun stuck => refused_rounds (draft_stuck ▸ stuck) }, ?_, fun free => ?_⟩
    · rw [draft_stuck]
      exact settled_rounds _ _
    · exact untaken_rounds (fun none => absurd none nonempty) (draft_stuck ▸ free)

theorem quota_le (loaded : 0 < (t.placement.shardsOn r.source).size) :
    r.quota t ring ≤ (t.placement.shardsOn r.source).size := by
  rw [quota_eq_ceilDiv (List.length_pos_iff.1 loaded)]
  exact (ceilDiv_le_iff_le_mul ring.size_pos).2 (Nat.le_mul_of_pos_left _ ring.size_pos)

end DrainRequest

namespace ReplicateRequest

variable {r : ReplicateRequest} {t : Topology} {ring : Ring}

theorem asks_copies (s : Sweep) (l : List ShardId) :
    ∃ asks, s.Asks asks (r.copies t s l).2 ∧ (r.copies t s l).1.visits = asks.length ∧
      taken asks = (r.copies t s l).1.transfers.map Transfer.source := by
  fun_induction copies r t s l with
  | case1 s => exact ⟨[], .done s, rfl, rfl⟩
  | case2 s shard rest step skipped d q more ih =>
    rw [more] at ih
    obtain ⟨asks, asked, visits, sources⟩ := ih
    refine ⟨asks, asked, (Nat.zero_add _).trans visits, ?_⟩
    rw [Draft.transfers_after_of_eq_none (transfer?_of_skip? skipped), sources]
  | case3 s shard rest needed search missing =>
    refine ⟨_, asks_find (t.placement.holds · shard) s, (List.length_map ..).symm, ?_⟩
    rw [taken_find, show (s.find (t.placement.holds · shard)).peer = none from missing]
    rfl
  | case4 s shard rest needed search source found d q more ih =>
    rw [more] at ih
    obtain ⟨asks, asked, visits, sources⟩ := ih
    refine ⟨_, (asks_find (t.placement.holds · shard) s).append asked, ?_, ?_⟩
    · rw [List.length_append, List.length_map, ← visits]
      rfl
    · rw [taken_append, taken_find, show (s.find (t.placement.holds · shard)).peer = some source from found, sources,
        Draft.transfers_after_transfer]
      rfl

theorem settled_copies (s : Sweep) (l : List ShardId) :
    ((r.copies t s l).1.transfers.map Transfer.shard ++ (r.copies t s l).1.stuck.toList).Sublist
      (l.filter fun shard => (r.skip? t shard).isNone) := by
  fun_induction copies r t s l with
  | case1 s => exact .refl _
  | case2 s shard rest step skipped d q more ih =>
    rw [more] at ih
    rw [Draft.transfers_after_of_eq_none (transfer?_of_skip? skipped), List.filter_cons_of_neg (by simp [skipped])]
    exact ih
  | case3 s shard rest needed search missing =>
    rw [List.filter_cons_of_pos (by simp [needed])]
    exact (List.nil_sublist _).cons_cons shard
  | case4 s shard rest needed search source found d q more ih =>
    rw [more] at ih
    rw [Draft.transfers_after_transfer, List.filter_cons_of_pos (by simp [needed])]
    exact ih.cons_cons shard

theorem refused_copies {s : Sweep} {l : List ShardId} (h : (r.copies t s l).1.stuck ≠ none) :
    (r.copies t s l).2.next? = none := by
  fun_induction copies r t s l with
  | case1 s => exact absurd rfl h
  | case2 s shard rest step skipped d q more ih =>
    rw [more] at ih
    exact ih h
  | case3 s shard rest needed search missing =>
    have full := size_le_of_find_eq_none missing
    rw [next?_eq_none_iff]
    rwa [size, Ring.size, ← peers_find (t.placement.holds · shard)] at full
  | case4 s shard rest needed search source found d q more ih =>
    rw [more] at ih
    exact ih h

theorem untaken_copies {s : Sweep} {l : List ShardId} (fresh : s.untaken = 0) (h : (r.copies t s l).1.stuck = none) :
    (r.copies t s l).2.untaken = 0 := by
  fun_induction copies r t s l with
  | case1 s => exact fresh
  | case2 s shard rest step skipped d q more ih =>
    rw [more] at ih
    exact ih fresh h
  | case3 s shard rest needed search missing => cases h
  | case4 s shard rest needed search source found d q more ih =>
    rw [more] at ih
    refine ih ?_ h
    rw [untaken_find, show (s.find (t.placement.holds · shard)).peer = some source from found]
    rfl

variable (r t ring)

theorem ncard_needs :
    {s | r.Needs t s}.ncard = (t.placement.shards.toList.filter fun s => (r.skip? t s).isNone).length := by
  have same : {s | r.Needs t s} = ↑(t.placement.shards.toList.filter fun s => (r.skip? t s).isNone).toFinset := by
    ext s
    simp [needs_iff, Ordered.Set.mem_toList]
  rw [same, Set.ncard_coe_finset, List.toFinset_card_of_nodup (t.placement.shards.ascending.nodup.filter _)]

theorem madeBy : ∃ asks u, MadeBy ring Transfer.source (r.draft t ring) asks u ∧
    (taken asks).length + (r.draft t ring).1.stuck.toList.length ≤ {s | r.Needs t s}.ncard ∧
      ((r.draft t ring).1.stuck = none → u.untaken = 0) := by
  unfold draft
  split
  · exact ⟨[], ring.sweep, ⟨⟨ring, rfl, .done _⟩, rfl, fun _ => .rfl, rfl, absurd rfl⟩, Nat.zero_le _, fun _ => rfl⟩
  · obtain ⟨asks, asked, visits, sources⟩ := asks_copies (r := r) (t := t) ring.reset.sweep t.placement.shards.toList
    have settled := (settled_copies (r := r) (t := t) ring.reset.sweep t.placement.shards.toList).length_le
    rw [List.length_append, List.length_map, ← ncard_needs] at settled
    refine ⟨asks, _,
      { asked := ⟨ring.reset, rfl, asked⟩
        visits := visits
        mem_taken := fun p => by rw [sources]
        ring := rfl
        refused := refused_copies }, ?_, untaken_copies rfl⟩
    rwa [sources, List.length_map]

end ReplicateRequest

/-- Planning ends after a bounded number of peers handed out, whether it succeeds or gets stuck: for a drain at most one turn
of the ring for each shard of the source, for a replication at most one for each shard that needs a copy. What a drain divides
by is never zero, and the equal share is at least one shard and at most all of them. No sweep counts beyond the peers of its
ring. -/
theorem planning_ends_within_turns (t : Topology) (ring : Ring) :
    let n := ring.size
    0 < n ∧
      (∀ start : Ring, start.peers = ring.peers → ∀ asks u, start.sweep.Asks asks u →
        u.untaken ≤ n ∧ u.ring.position < n) ∧
      (∀ r : DrainRequest,
        let held := (t.placement.shardsOn r.source).size
        (∃ asks u, MadeBy ring Transfer.target (r.draft t ring) asks u ∧ asks.length ≤ n * held) ∧
          (1 ≤ held → 1 ≤ r.quota t ring ∧ r.quota t ring ≤ held ∧ r.quota t ring = held ⌈/⌉ n)) ∧
      ∀ r : ReplicateRequest,
        ∃ asks u, MadeBy ring Transfer.source (r.draft t ring) asks u ∧ asks.length ≤ n * {s | r.Needs t s}.ncard := by
  intro n
  refine ⟨ring.size_pos, fun start same asks u asked => ?_, fun r => ⟨?_, fun loaded => ?_⟩, fun r => ?_⟩
  · have size : start.sweep.size = n := congrArg List.length same
    have inside := u.ring.inside
    rw [asked.peers] at inside
    exact ⟨size ▸ asked.untaken_le (Nat.zero_le _), size ▸ inside⟩
  · obtain ⟨asks, u, made, settled, free⟩ := r.madeBy t ring
    exact ⟨asks, u, made, made.length_le settled free⟩
  · exact ⟨quota_pos _ _, r.quota_le t ring loaded, DrainRequest.quota_eq_ceilDiv (List.length_pos_iff.1 loaded)⟩
  · obtain ⟨asks, u, made, settled, free⟩ := r.madeBy t ring
    exact ⟨asks, u, made, made.length_le settled free⟩

/-- Of two peers the first holds both shards, so each of them takes a whole turn, and the bound is reached. -/
example :
    ((⟨1, .snapshot⟩ : DrainRequest).draft ⟨"docs", 0, .ofHoldings 1 [⟨1, 0⟩, ⟨1, 1⟩, ⟨2, 0⟩, ⟨2, 1⟩]⟩
      ⟨[2, 3], 0, by decide⟩).1.visits = 2 * 2 := by cbv

end Planning
end ShardBalance
