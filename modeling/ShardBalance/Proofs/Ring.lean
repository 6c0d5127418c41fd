import Mathlib.Data.List.Rotate
import Mathlib.Order.Bounds.Defs
import ShardBalance.Ring.Sweep

/-!
Rings by the order in which their peers come up, and sweeps by the peers passed over since one was taken. Visits to the
peers of a ring are counted from its first peer on, for as many turns as it takes.
-/

namespace ShardBalance

namespace Ring

variable {r : Ring} {p : PeerId} {v w : Nat}

theorem reset_eq_of_peers {q r : Ring} (h : q.peers = r.peers) : q.reset = r.reset := by
  cases q
  cases r
  simp_all [reset]

theorem peers_of_ofPeers? {l : List PeerId} (h : ofPeers? l = some r) : r.peers = l := by
  cases l with
  | nil => cases h
  | cons p l => cases h; rfl

/-- The peers from the next one on, once around. -/
def order (r : Ring) : List PeerId := r.peers.rotate r.position

@[simp] theorem length_order (r : Ring) : r.order.length = r.size := List.length_rotate ..

theorem mem_order : p ∈ r.order ↔ p ∈ r.peers := List.mem_rotate

theorem order_eq_cons (r : Ring) : r.order = r.current :: r.order.tail := by
  have head : r.order.head? = some r.current := by
    rw [order, List.head?_rotate r.inside, List.getElem?_eq_getElem r.inside]
    rfl
  exact List.eq_cons_of_mem_head? head

theorem current_mem (r : Ring) : r.current ∈ r.peers :=
  mem_order.1 (r.order_eq_cons ▸ List.mem_cons_self)

theorem order_advance (r : Ring) : r.advance.order = r.order.tail ++ [r.current] := by
  have turned : r.advance.order = r.order.rotate 1 := by
    rw [order, order, List.rotate_rotate]
    exact List.rotate_mod ..
  rw [turned]
  nth_rewrite 1 [r.order_eq_cons]
  simp

/-- The ring as visit `v` finds it, where visits are counted from the first peer on. -/
def visit (r : Ring) (v : Nat) : Ring := ⟨r.peers, v % r.peers.length, Nat.mod_lt _ r.size_pos⟩

@[simp] theorem visit_zero (r : Ring) : r.visit 0 = r.reset := by simp [visit, reset]

@[simp] theorem advance_visit (r : Ring) (v : Nat) : (r.visit v).advance = r.visit (v + 1) := by
  simp [visit, advance]

/-- The peer of visit `v`. -/
def visited (r : Ring) (v : Nat) : PeerId := (r.visit v).current

theorem visited_mem : r.visited v ∈ r.peers := (r.visit v).current_mem

theorem visited_congr (h : v % r.size = w % r.size) : r.visited v = r.visited w := by
  have same : r.visit v = r.visit w := by simpa [visit, size] using h
  rw [visited, visited, same]

theorem getElem?_peers (h : v < r.size) : r.peers[v]? = some (r.visited v) := by
  have position : v % r.peers.length = v := Nat.mod_eq_of_lt h
  have found : r.peers[v % r.peers.length]? = some (r.visited v) := List.getElem?_eq_getElem _
  rwa [position] at found

theorem getElem?_peers_mod (r : Ring) (v : Nat) : r.peers[v % r.size]? = some (r.visited v) := by
  rw [getElem?_peers (Nat.mod_lt _ r.size_pos)]
  exact congrArg some (visited_congr (Nat.mod_mod _ _))

end Ring

namespace Sweep

variable {s t : Sweep} {p : PeerId}

/-- The peers asked since the last one that was taken. -/
def passed (s : Sweep) : List PeerId := s.ring.order.drop (s.size - s.untaken)

@[simp] theorem passed_sweep (r : Ring) : r.sweep.passed = [] := by simp [passed, Ring.sweep, size]

@[simp] theorem passed_take (s : Sweep) : s.take.passed = [] := by simp [passed, take, size]

@[simp] theorem ring_take (s : Sweep) : s.take.ring = s.ring := rfl

theorem peers_of_next? (h : s.next? = some (p, t)) : p ∈ s.ring.peers ∧ t.ring.peers = s.ring.peers := by
  obtain ⟨-, rfl, rfl⟩ := next?_eq_some h
  exact ⟨s.ring.current_mem, rfl⟩

theorem passed_of_next? (h : s.next? = some (p, t)) : t.passed = s.passed ++ [p] := by
  obtain ⟨hlt, rfl, rfl⟩ := next?_eq_some h
  have len : s.ring.order.tail.length + 1 = s.size := by
    rw [← List.length_cons, ← s.ring.order_eq_cons, Ring.length_order]
    rfl
  have left : s.size - s.untaken = (s.size - (s.untaken + 1)) + 1 := by omega
  have fits : s.size - (s.untaken + 1) ≤ s.ring.order.tail.length := by omega
  rw [passed, passed, Ring.order_advance, left]
  nth_rewrite 2 [s.ring.order_eq_cons]
  exact List.drop_append_of_le_length fits

theorem next?_eq_none_iff : s.next? = none ↔ s.size ≤ s.untaken := by simp [next?]

theorem find_of_next?_eq_none (f : PeerId → Bool) (h : s.next? = none) : s.find f = ⟨[], none, s⟩ := by
  rw [find]
  split
  next => rfl
  next some => cases h.symm.trans some

theorem mem_passed_of_next?_eq_none (h : s.next? = none) (hp : p ∈ s.ring.peers) : p ∈ s.passed := by
  have full : s.size - s.untaken = 0 := by
    unfold next? at h
    split at h
    · cases h
    · omega
  rw [passed, full]
  exact Ring.mem_order.2 hp

@[simp] theorem peers_find (f : PeerId → Bool) (s : Sweep) :
    (s.find f).sweep.ring.peers = s.ring.peers := by
  fun_induction find f s with
  | case1 s h => rfl
  | case2 s p t h hp => exact (peers_of_next? h).2
  | case3 s p t h hp rest ih => exact ih.trans (peers_of_next? h).2

theorem of_find_eq_some {f : PeerId → Bool} (h : (s.find f).peer = some p) :
    p ∈ s.ring.peers ∧ f p = true ∧ (s.find f).sweep.passed = [] := by
  fun_induction find f s with
  | case1 s hn => cases h
  | case2 s q t hn hq =>
    cases h
    exact ⟨(peers_of_next? hn).1, hq, passed_take t⟩
  | case3 s q t hn hq rest ih =>
    rw [← (peers_of_next? hn).2]
    exact ih h

theorem not_of_find_eq_none {f : PeerId → Bool} (passed : ∀ p ∈ s.passed, f p = false)
    (h : (s.find f).peer = none) : ∀ p ∈ s.ring.peers, f p = false := by
  fun_induction find f s with
  | case1 s hn => exact fun p hp => passed p (mem_passed_of_next?_eq_none hn hp)
  | case2 s q t hn hq => cases h
  | case3 s q t hn hq rest ih =>
    rw [← (peers_of_next? hn).2]
    refine ih (fun p hp => ?_) h
    rw [passed_of_next? hn, List.mem_append, List.mem_singleton] at hp
    rcases hp with hp | rfl
    · exact passed p hp
    · simpa using hq

theorem visited_of_find_eq_some {ring : Ring} {v : Nat} {f : PeerId → Bool} (reached : s.ring = ring.visit v)
    (h : (s.find f).peer = some p) :
    ∃ u, IsLeast {u | v ≤ u ∧ f (ring.visited u) = true} u ∧ p = ring.visited u ∧
      (s.find f).sweep = (ring.visit (u + 1)).sweep := by
  fun_induction find f s generalizing v with
  | case1 s hn => cases h
  | case2 s q t hn hq =>
    obtain ⟨-, rfl, rfl⟩ := next?_eq_some hn
    have current : s.ring.current = ring.visited v := congrArg Ring.current reached
    refine ⟨v, ⟨⟨Nat.le_refl v, current ▸ hq⟩, fun u hu => hu.1⟩, ?_, ?_⟩
    · exact (Option.some.inj h).symm.trans current
    · rw [reached, Ring.advance_visit]
      rfl
  | case3 s q t hn hq rest =>
    rename_i ih
    obtain ⟨-, rfl, rfl⟩ := next?_eq_some hn
    have current : s.ring.current = ring.visited v := congrArg Ring.current reached
    have next : s.ring.advance = ring.visit (v + 1) := by rw [reached, Ring.advance_visit]
    obtain ⟨u, ⟨⟨later, found⟩, first⟩, ends⟩ := ih next h
    refine ⟨u, ⟨⟨Nat.le_of_succ_le later, found⟩, fun w ⟨low, hw⟩ => first ⟨?_, hw⟩⟩, ends⟩
    refine Nat.lt_of_le_of_ne low ?_
    rintro rfl
    exact hq (current ▸ hw)

theorem size_of_visit {ring : Ring} {v : Nat} (reached : s.ring = ring.visit v) : s.size = ring.size := by
  rw [size, reached]
  rfl

theorem asked_find {ring : Ring} {v : Nat} (f : PeerId → Bool) (reached : s.ring = ring.visit v) :
    (s.find f).asked = (List.range' v (s.find f).asked.length).map ring.visited := by
  fun_induction find f s generalizing v with
  | case1 s hn => rfl
  | case2 s q t hn hq =>
    obtain ⟨-, rfl, -⟩ := next?_eq_some hn
    exact congrArg (fun r => [Ring.current r]) reached
  | case3 s q t hn hq rest =>
    rename_i ih
    obtain ⟨-, rfl, rfl⟩ := next?_eq_some hn
    have current : s.ring.current = ring.visited v := congrArg Ring.current reached
    have later := ih (v := v + 1) (by rw [reached, Ring.advance_visit])
    rw [List.length_cons, List.range'_succ, List.map_cons, ← later, current]

theorem ring_find {ring : Ring} {v : Nat} (f : PeerId → Bool) (reached : s.ring = ring.visit v) :
    (s.find f).sweep.ring = ring.visit (v + (s.find f).asked.length) := by
  fun_induction find f s generalizing v with
  | case1 s hn => exact reached
  | case2 s q t hn hq =>
    obtain ⟨-, -, rfl⟩ := next?_eq_some hn
    rw [ring_take, reached, Ring.advance_visit]
    rfl
  | case3 s q t hn hq rest =>
    rename_i ih
    obtain ⟨-, -, rfl⟩ := next?_eq_some hn
    have later := ih (v := v + 1) (by rw [reached, Ring.advance_visit])
    rw [later, List.length_cons, Nat.add_right_comm, Nat.add_assoc]

theorem untaken_add_asked_le (f : PeerId → Bool) (within : s.untaken ≤ s.size) :
    s.untaken + (s.find f).asked.length ≤ s.size := by
  fun_induction find f s with
  | case1 s hn => exact within
  | case2 s q t hn hq => exact (next?_eq_some hn).1
  | case3 s q t hn hq rest ih =>
    obtain ⟨left, -, rfl⟩ := next?_eq_some hn
    have later := ih left
    rw [List.length_cons, ← Nat.add_assoc, Nat.add_right_comm]
    exact later

theorem untaken_find (f : PeerId → Bool) :
    (s.find f).sweep.untaken = if (s.find f).peer.isSome then 0 else s.untaken + (s.find f).asked.length := by
  fun_induction find f s with
  | case1 s hn => rfl
  | case2 s q t hn hq => rfl
  | case3 s q t hn hq rest ih =>
    obtain ⟨-, -, rfl⟩ := next?_eq_some hn
    rw [ih, List.length_cons, Nat.add_right_comm, Nat.add_assoc]

variable {f : PeerId → Bool}

theorem asked_of_find_eq_some (h : (s.find f).peer = some p) :
    ∃ before, (s.find f).asked = before ++ [p] ∧ f p = true ∧ ∀ q ∈ before, f q = false := by
  fun_induction find f s with
  | case1 s hn => cases h
  | case2 s q t hn hq =>
    cases h
    exact ⟨[], rfl, hq, List.forall_mem_nil _⟩
  | case3 s q t hn hq rest ih =>
    obtain ⟨before, asked, satisfies, fail⟩ := ih h
    refine ⟨q :: before, congrArg (q :: ·) asked, satisfies, List.forall_mem_cons.2 ⟨?_, fail⟩⟩
    simpa using hq

theorem asked_of_find_eq_none (h : (s.find f).peer = none) : ∀ q ∈ (s.find f).asked, f q = false := by
  fun_induction find f s with
  | case1 s hn => exact List.forall_mem_nil _
  | case2 s q t hn hq => cases h
  | case3 s q t hn hq rest ih => exact List.forall_mem_cons.2 ⟨by simpa using hq, ih h⟩

theorem size_le_of_find_eq_none (h : (s.find f).peer = none) : s.size ≤ (s.find f).sweep.untaken := by
  fun_induction find f s with
  | case1 s hn => exact next?_eq_none_iff.1 hn
  | case2 s q t hn hq => cases h
  | case3 s q t hn hq rest ih =>
    obtain ⟨-, -, rfl⟩ := next?_eq_some hn
    exact ih h

theorem turn_of_find_eq_none (within : s.untaken ≤ s.size) (h : (s.find f).peer = none) :
    (s.find f).sweep.untaken = s.size ∧ (s.find f).asked.length = s.size - s.untaken := by
  have full := size_le_of_find_eq_none h
  have bound := untaken_add_asked_le f within
  have count := untaken_find (s := s) f
  simp only [h, Option.isSome_none, Bool.false_eq_true, if_false] at count
  omega

end Sweep
end ShardBalance
