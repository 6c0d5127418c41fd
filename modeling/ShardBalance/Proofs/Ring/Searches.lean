import Mathlib.Data.Nat.ModEq
import ShardBalance.Proofs.Ring.Histories

/-!
Searches on a sweep that is under way. What is left of its turn bounds whom a search asks, so a search can fail although
some peer satisfies the test, but then that peer was asked earlier in the same turn.
-/

namespace ShardBalance

namespace Ring

@[simp] theorem visit_position (r : Ring) : r.visit r.position = r := by
  cases r with
  | mk peers position inside => simp [visit, Nat.mod_eq_of_lt inside]

@[simp] theorem visit_add_size (r : Ring) (v : Nat) : r.visit (v + r.size) = r.visit v := by
  simp [visit, size]

end Ring

namespace Sweep

variable {s : Sweep} {f : PeerId → Bool} {p : PeerId}

theorem getElem?_asked {i : Nat} (hi : i < (s.find f).asked.length) :
    (s.find f).asked[i]? = s.ring.peers[(s.ring.position + i) % s.size]? := by
  have asked := asked_find f s.ring.visit_position.symm
  have visited : (s.find f).asked[i]? = some (s.ring.visited (s.ring.position + i)) := by
    rw [asked, List.getElem?_map, List.getElem?_range' hi, Nat.one_mul]
    rfl
  exact visited.trans (s.ring.getElem?_peers_mod _).symm

theorem find_eq_none_iff (within : s.untaken ≤ s.size) : (s.find f).peer = none ↔
    ∀ i < s.size - s.untaken, ∀ p, s.ring.peers[(s.ring.position + i) % s.size]? = some p → f p = false := by
  constructor
  · intro h i hi p stands
    have left : i < (s.find f).asked.length := (turn_of_find_eq_none within h).2 ▸ hi
    exact asked_of_find_eq_none h p (List.mem_of_getElem? ((getElem?_asked left).trans stands))
  · intro fail
    by_contra found
    obtain ⟨p, found⟩ := Option.ne_none_iff_exists'.1 found
    obtain ⟨before, asked, satisfies, -⟩ := asked_of_find_eq_some found
    have length : (s.find f).asked.length = before.length + 1 := by simp [asked]
    have bound := untaken_add_asked_le f within
    have last : (s.find f).asked[before.length]? = some p := by simp [asked]
    have stands := (getElem?_asked (by omega)).symm.trans last
    exact Bool.false_ne_true ((fail _ (by omega) p stands).symm.trans satisfies)

end Sweep

namespace Ring

/-- Whether a use asks for peers and does not take one by itself. -/
def Use.searches : Use .swept .swept → Bool
  | .ask | .find _ => true
  | .take => false

/-- What a search comes to on a sweep whose ring stands at some position. From there on it asks at one position after the
other, at each at most once and at no more than are left of the turn, up to the first whose peer satisfies the test. -/
structure Effect.Searches (s : Sweep) (test : PeerId → Bool) (e : Effect .swept) : Prop where
  asked : ∀ i < e.handed.length, e.handed[i]? = s.ring.peers[(s.ring.position + i) % s.size]?
  once : ∀ i < e.handed.length, ∀ j < e.handed.length,
    (s.ring.position + i) % s.size = (s.ring.position + j) % s.size → i = j
  within : e.handed.length ≤ s.size - s.untaken
  /-- The last peer asked is the only one that may satisfy the test. -/
  failing : ∀ p ∈ e.handed.dropLast, test p = false
  replies : (∃ p, e.reply = .peer p) ∨ e.reply = .exhausted s.size
  found : ∀ p, e.reply = .peer p → test p = true ∧ e.handed.getLast? = some p ∧ e.holder.untaken = 0
  refuses_iff : e.reply = .exhausted s.size ↔ ∀ i < s.size - s.untaken, ∀ p,
    s.ring.peers[(s.ring.position + i) % s.size]? = some p → test p = false
  refused : e.reply = .exhausted s.size → e.handed.length = s.size - s.untaken ∧ e.holder.untaken = s.size ∧
    ∀ u : Use .swept .swept, u.searches = true → u.effect e.holder = ⟨[], .exhausted s.size, e.holder⟩
  peers : e.holder.ring.peers = s.ring.peers
  position : e.holder.ring.position = (s.ring.position + e.handed.length) % s.size

theorem Use.effect_of_full {s : Sweep} (full : s.untaken = s.size) {u : Use .swept .swept} (h : u.searches = true) :
    u.effect s = ⟨[], .exhausted s.size, s⟩ := by
  cases u with
  | ask => exact ask_effect full
  | find test => exact find_effect test full
  | take => cases h

theorem eq_of_add_mod_eq {c i j n : Nat} (hi : i < n) (hj : j < n) (same : (c + i) % n = (c + j) % n) : i = j := by
  have shifted : i ≡ j [MOD n] := Nat.ModEq.add_left_cancel rfl same
  rwa [Nat.ModEq, Nat.mod_eq_of_lt hi, Nat.mod_eq_of_lt hj] at shifted

theorem Use.searches_find {s : Sweep} (within : s.untaken ≤ s.size) (test : PeerId → Bool) :
    ((find test).effect s).Searches s test := by
  have bound : s.untaken + (s.find test).asked.length ≤ s.size := Sweep.untaken_add_asked_le test within
  have ends : (s.find test).sweep.ring = s.ring.visit (s.ring.position + (s.find test).asked.length) :=
    Sweep.ring_find test s.ring.visit_position.symm
  refine
    { asked := fun i => Sweep.getElem?_asked
      once := fun i hi j hj => eq_of_add_mod_eq (Nat.lt_of_lt_of_le hi ?_) (Nat.lt_of_lt_of_le hj ?_)
      within := Nat.le_sub_of_add_le' bound
      failing := ?_
      replies := ?_
      found := fun p replied => ?_
      refuses_iff := reply_find_eq_exhausted_iff.trans (Sweep.find_eq_none_iff within)
      refused := fun replied => ?_
      peers := Sweep.peers_find test s
      position := congrArg position ends }
  · exact Nat.le_of_add_left_le bound
  · exact Nat.le_of_add_left_le bound
  · intro p hp
    cases found : (s.find test).peer with
    | some q =>
      obtain ⟨before, asked, -, fail⟩ := Sweep.asked_of_find_eq_some found
      have shorter : ((find test).effect s).handed.dropLast = before := by simp [effect, asked]
      exact fail p (shorter ▸ hp)
    | none => exact Sweep.asked_of_find_eq_none found p (List.mem_of_mem_dropLast hp)
  · rw [reply_find]
    cases (s.find test).peer <;> simp
  · have found := reply_find_eq_peer_iff.1 replied
    obtain ⟨before, asked, satisfies, -⟩ := Sweep.asked_of_find_eq_some found
    have untaken := Sweep.untaken_find (s := s) test
    rw [found] at untaken
    exact ⟨satisfies, by simp [effect, asked], untaken⟩
  · obtain ⟨full, used⟩ := Sweep.turn_of_find_eq_none within (reply_find_eq_exhausted_iff.1 replied)
    have size : (s.find test).sweep.size = s.size := congrArg List.length (Sweep.peers_find test s)
    exact ⟨used, full, fun u more => size ▸ effect_of_full (full.trans size.symm) more⟩

/-- A search asks one position after the other from where the ring stands, at each at most once and at no more than are
left of the turn, and stops at the first peer that satisfies the test. If there is none among them it is refused, and so is
whoever asks or searches on. With a full turn ahead it is refused only if no peer satisfies the test, and the ring is then
back where it was. -/
theorem searches_ask_rest_of_turn (s : Sweep) (within : s.untaken ≤ s.size) (test : PeerId → Bool) :
    let e := (Use.find test).effect s
    e.Searches s test ∧
      (s.untaken = 0 → (e.reply = .exhausted s.size ↔ ∀ p ∈ s.ring.peers, test p = false) ∧
        (e.reply = .exhausted s.size → e.holder.ring = s.ring)) := by
  intro e
  refine ⟨Use.searches_find within test, fun fresh => ⟨?_, fun refused => ?_⟩⟩
  · rw [Use.reply_find_eq_exhausted_iff]
    constructor
    · have none : s.passed = [] := by simp [Sweep.passed, fresh, Sweep.size]
      exact Sweep.not_of_find_eq_none (by simp [none])
    · exact fun fail => (Sweep.find_eq_none_iff within).2 fun i _ p stands => fail p (List.mem_of_getElem? stands)
  · obtain ⟨-, used⟩ := Sweep.turn_of_find_eq_none within (Use.reply_find_eq_exhausted_iff.1 refused)
    have ends := Sweep.ring_find test s.ring.visit_position.symm
    rw [used, fresh, Nat.sub_zero] at ends
    exact ends.trans ((s.ring.visit_add_size _).trans s.ring.visit_position)

theorem passed_peer_not_found :
    let s : Sweep := ⟨⟨[7, 8, 9], 2, by decide⟩, 1⟩
    let e := (Use.find (· = 8)).effect s
    s.untaken ≤ s.size ∧ e.handed = [9, 7] ∧ e.reply = .exhausted 3 ∧ e.holder.ring.position = 1 ∧
      Use.ask.effect e.holder = ⟨[], .exhausted 3, e.holder⟩ := by
  -- of three peers the second was asked and not taken. A search for it asks the other two and is refused
  intro s e
  have within : s.untaken ≤ s.size := by decide
  obtain ⟨searches, -⟩ := searches_ask_rest_of_turn s within (· = 8)
  have handed : e.handed = [9, 7] := by decide +kernel
  have refused : e.reply = .exhausted 3 := by decide +kernel
  have position := searches.position
  exact ⟨within, handed, refused, position.trans (by rw [handed]; decide), (searches.refused refused).2.2 .ask rfl⟩

end Ring
end ShardBalance
