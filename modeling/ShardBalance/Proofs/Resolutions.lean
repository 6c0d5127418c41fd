import ShardBalance.Proofs.Plans

/-!
The peer that a selector means. A table settles each selector in one way: on the only peer that is meant, or with a failure
that lists the addresses of all peers where none is meant, and of those meant where several are.
-/

namespace ShardBalance

/-- What a selector asks of a peer's number and address. -/
def Selector.Fits : Selector → PeerId → String → Prop
  | id peer, p, _ => p = peer
  | address part, _, a => part.toList <:+: a.toList

namespace PeerTable

open Ordered (Ascending Map.get?_eq_some_iff)

variable {t : PeerTable} {s : Selector}

def Meant (t : PeerTable) (s : Selector) (p : PeerId) : Prop := ∃ a, t.get? p = some a ∧ s.Fits p a

/-- The addresses of the peers with a property, by ascending numbers of the peers. -/
def Lists (t : PeerTable) (has : PeerId → Prop) (addresses : List String) : Prop :=
  ∃ peers, Ascending peers ∧ (∀ p, p ∈ peers ↔ has p) ∧ List.Forall₂ (fun p a => t.get? p = some a) peers addresses

/-- What a selector may come to. -/
inductive Settles (t : PeerTable) (s : Selector) : Except Failure Resolved → Prop
  | one {r : Resolved} (only : ∀ p, t.Meant s p ↔ p = r.peer) (address : t.get? r.peer = some r.address)
      (table : r.table = t) : Settles t s (.ok r)
  | none {known : List String} (none : ∀ p, ¬ t.Meant s p) (lists : t.Lists (· ∈ t.keys) known) :
      Settles t s (.error (.noPeer s.text known))
  | several {p q : PeerId} {candidates : List String} (first : t.Meant s p) (second : t.Meant s q) (apart : p ≠ q)
      (lists : t.Lists (t.Meant s) candidates) : Settles t s (.error (.ambiguous s.text candidates))

theorem Lists.unique {has : PeerId → Prop} {l m : List String} (hl : t.Lists has l) (hm : t.Lists has m) : l = m := by
  obtain ⟨ps, ascending, mem, addresses⟩ := hl
  obtain ⟨qs, ascending', mem', addresses'⟩ := hm
  have same : ps = qs := ascending.eq_of_mem_iff ascending' fun p => (mem p).trans (mem' p).symm
  subst same
  refine List.right_unique_forall₂' (fun p a b ha hb => ?_) addresses addresses'
  exact Option.some.inj (ha.symm.trans hb)

theorem Settles.unique {o o' : Except Failure Resolved} (h : t.Settles s o) (h' : t.Settles s o') : o = o' := by
  cases h with
  | @one r only address table =>
    cases h' with
    | @one r' only' address' table' =>
      have peer : r.peer = r'.peer := (only' _).1 ((only _).2 rfl)
      obtain ⟨p, a, u⟩ := r
      obtain ⟨q, b, v⟩ := r'
      cases peer
      cases Option.some.inj (address.symm.trans address')
      cases table.trans table'.symm
      rfl
    | none none => exact absurd ((only _).2 rfl) (none _)
    | several first second apart =>
      exact absurd (((only _).1 first).trans ((only _).1 second).symm) apart
  | none none lists =>
    cases h' with
    | one only => exact absurd ((only _).2 rfl) (none _)
    | none _ lists' => rw [lists.unique lists']
    | several first => exact absurd first (none _)
  | several first second apart lists =>
    cases h' with
    | one only => exact absurd (((only _).1 first).trans ((only _).1 second).symm) apart
    | none none => exact absurd first (none _)
    | several _ _ _ lists' => rw [lists.unique lists']

theorem lists_of_sublist {l : List (PeerId × String)} (part : l.Sublist t.entries) :
    t.Lists (fun p => ∃ a, (p, a) ∈ l) (l.map (·.2)) := by
  refine ⟨l.map (·.1), List.pairwise_map.2 (t.ascending.sublist part), fun p => by simp, ?_⟩
  rw [List.forall₂_map_left_iff, List.forall₂_map_right_iff, List.forall₂_same]
  exact fun e he => Map.get?_eq_some_iff.2 (part.subset he)

theorem lists_values : t.Lists (· ∈ t.keys) t.values := by
  have all := lists_of_sublist (List.Sublist.refl t.entries)
  have keys : (fun p => ∃ a, (p, a) ∈ t.entries) = (· ∈ t.keys) := by
    funext p
    simp [Ordered.Map.keys]
  rwa [keys] at all

theorem meant_id_iff {peer p : PeerId} : t.Meant (.id peer) p ↔ p = peer ∧ p ∈ t.keys := by
  rw [← Ordered.Map.contains_iff, Ordered.Map.contains, Option.isSome_iff_exists]
  exact ⟨fun ⟨a, found, fits⟩ => ⟨fits, a, found⟩, fun ⟨fits, a, found⟩ => ⟨a, found, fits⟩⟩

theorem meant_address_iff {part : String} {p : PeerId} :
    t.Meant (.address part) p ↔ ∃ a, (p, a) ∈ t.matching part := by
  simp only [Meant, Selector.Fits, matching, List.mem_filter, Text.occursIn_iff, Map.get?_eq_some_iff]

theorem lists_matching (part : String) : t.Lists (t.Meant (.address part)) ((t.matching part).map (·.2)) := by
  have meant : t.Meant (.address part) = fun p => ∃ a, (p, a) ∈ t.matching part := by
    funext p
    exact propext meant_address_iff
  rw [meant]
  exact lists_of_sublist List.filter_sublist

theorem settles_resolve (t : PeerTable) (s : Selector) : t.Settles s (t.resolve s) := by
  cases s with
  | id peer =>
    simp only [resolve]
    split
    next address found =>
      have key : peer ∈ t.keys := List.mem_map_of_mem (Map.get?_eq_some_iff.1 found)
      refine .one (fun p => meant_id_iff.trans ?_) found rfl
      exact ⟨fun h => h.1, fun h => ⟨h, h ▸ key⟩⟩
    next missing =>
      refine .none (fun p h => ?_) lists_values
      obtain ⟨a, found, rfl⟩ := h
      cases missing.symm.trans found
  | address part =>
    have meant (p : PeerId) : t.Meant (.address part) p ↔ ∃ a, (p, a) ∈ t.matching part := meant_address_iff
    have ascending : Ordered.AscendingKeys (t.matching part) := t.ascending.filter _
    have lists := t.lists_matching part
    simp only [resolve]
    split
    next none =>
      refine .none (fun p h => ?_) lists_values
      obtain ⟨a, found⟩ := (meant p).1 h
      rw [none] at found
      cases found
    next peer address only =>
      have found : (peer, address) ∈ t.entries := (List.mem_filter.1 (only ▸ List.mem_singleton_self _)).1
      refine .one (fun p => (meant p).trans ?_) (Map.get?_eq_some_iff.2 found) rfl
      simp [only]
    next several none single =>
      rcases found : t.matching part with _ | ⟨⟨p, a⟩, _ | ⟨⟨q, b⟩, rest⟩⟩
      · exact absurd found none
      · exact absurd found (single p a)
      · rw [found] at ascending lists
        have below : rank p < rank q := (List.pairwise_cons.1 ascending).1 _ List.mem_cons_self
        have apart : p ≠ q := fun same => Nat.ne_of_lt below (congrArg rank same)
        exact .several ((meant p).2 ⟨a, by simp [found]⟩) ((meant q).2 ⟨b, by simp [found]⟩) apart lists

/-- A selector is settled in one way: a number by its place in the table, a part of an address by the only address that
contains it. The other peers come along in order. -/
theorem resolution_unique_and_complete (t : PeerTable) :
    (∀ s o, t.resolve s = o ↔ t.Settles s o) ∧
      (∀ p, (∃ r, t.resolve (.id p) = .ok r) ↔ p ∈ t.keys) ∧
      (∀ part : String, (∃ r, t.resolve (.address part) = .ok r) ↔
        ∃! p, ∃ a, t.get? p = some a ∧ part.toList <:+: a.toList) ∧
      ∀ s r, t.resolve s = .ok r → Ascending r.others ∧ ∀ q, q ∈ r.others ↔ q ∈ t.keys ∧ q ≠ r.peer := by
  have settles : ∀ s o, t.resolve s = o ↔ t.Settles s o := by
    intro s o
    constructor
    · rintro rfl
      exact t.settles_resolve s
    · exact fun h => (t.settles_resolve s).unique h
  have succeeds : ∀ s, (∃ r, t.resolve s = .ok r) ↔ ∃! p, t.Meant s p := by
    intro s
    constructor
    · rintro ⟨r, h⟩
      cases (settles s _).1 h with
      | one only => exact ⟨r.peer, (only _).2 rfl, fun p h => (only p).1 h⟩
    · rintro ⟨p, ⟨a, found, fits⟩, only⟩
      refine ⟨⟨p, a, t⟩, (settles s _).2 (.one (fun q => ⟨only q, ?_⟩) found rfl)⟩
      rintro rfl
      exact ⟨a, found, fits⟩
  refine ⟨settles, fun p => (succeeds _).trans ?_, fun part => succeeds _, fun s r h => ⟨?_, fun q => mem_others_iff h⟩⟩
  · simp only [meant_id_iff]
    constructor
    · rintro ⟨q, ⟨rfl, key⟩, -⟩
      exact key
    · exact fun key => ⟨p, ⟨rfl, key⟩, fun q h => h.1⟩
  · rw [Resolved.others, (of_resolve h).1]
    exact t.keys_ascending.filter _

end PeerTable
end ShardBalance
