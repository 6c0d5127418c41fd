import ShardBalance.Ordered.Set

/-!
Finite maps kept as lists of entries with strictly ascending keys.
-/

namespace ShardBalance.Ordered

variable {κ ν : Type} [Ranked κ]

abbrev AscendingKeys (l : List (κ × ν)) : Prop := l.Pairwise fun a b => rank a.1 < rank b.1

/-- Binds `k` to `v` in a list with ascending keys, in place of what it was bound to. -/
def bindInto (k : κ) (v : ν) : List (κ × ν) → List (κ × ν)
  | [] => [(k, v)]
  | b :: l =>
    if rank k < rank b.1 then (k, v) :: b :: l
    else if rank b.1 < rank k then b :: bindInto k v l
    else (k, v) :: l

theorem mem_bindInto {k : κ} {v : ν} {l : List (κ × ν)} (h : AscendingKeys l) {x : κ × ν} :
    x ∈ bindInto k v l ↔ x = (k, v) ∨ x ∈ l ∧ x.1 ≠ k := by
  induction l with
  | nil => simp [bindInto]
  | cons b l ih =>
    have hb := List.pairwise_cons.1 h
    unfold bindInto
    split
    next hk =>
      have key : ∀ y ∈ b :: l, y.1 ≠ k := by
        intro y hy he
        rcases List.mem_cons.1 hy with rfl | hy
        · rw [he] at hk; omega
        · have := hb.1 y hy; rw [he] at this; omega
      simp only [List.mem_cons] at key ⊢
      grind
    next hk =>
      split
      next hbk =>
        have : b.1 ≠ k := fun he => by rw [he] at hbk; omega
        simp only [List.mem_cons, ih hb.2]
        grind
      next hbk =>
        have hkb : k = b.1 := rank_inj (by omega)
        have key : ∀ y ∈ l, y.1 ≠ k := by
          intro y hy he
          have := hb.1 y hy
          rw [he, hkb] at this
          omega
        simp only [List.mem_cons]
        grind

theorem AscendingKeys.bindInto {l : List (κ × ν)} (h : AscendingKeys l) (k : κ) (v : ν) :
    AscendingKeys (Ordered.bindInto k v l) := by
  induction l with
  | nil => simp [Ordered.bindInto, AscendingKeys]
  | cons b l ih =>
    have hb := List.pairwise_cons.1 h
    unfold Ordered.bindInto
    split
    next hk =>
      refine List.pairwise_cons.2 ⟨fun x hx => ?_, h⟩
      rcases List.mem_cons.1 hx with rfl | hx
      · exact hk
      · exact Nat.lt_trans hk (hb.1 x hx)
    next hk =>
      split
      next hbk =>
        refine List.pairwise_cons.2 ⟨fun x hx => ?_, ih hb.2⟩
        rcases (mem_bindInto hb.2).1 hx with rfl | hx
        · exact hbk
        · exact hb.1 x hx.1
      next hbk =>
        have hkb : k = b.1 := rank_inj (by omega)
        exact List.pairwise_cons.2 ⟨fun x hx => by rw [hkb]; exact hb.1 x hx, hb.2⟩

structure Map (κ ν : Type) [Ranked κ] where
  entries : List (κ × ν)
  ascending : AscendingKeys entries

namespace Map

def empty : Map κ ν := ⟨[], .nil⟩

def insert (m : Map κ ν) (k : κ) (v : ν) : Map κ ν :=
  ⟨bindInto k v m.entries, m.ascending.bindInto k v⟩

/-- Of several bindings of one key the last counts. -/
def ofList (l : List (κ × ν)) : Map κ ν := l.foldl (fun m e => m.insert e.1 e.2) empty

def keys (m : Map κ ν) : List κ := m.entries.map (·.1)

def values (m : Map κ ν) : List ν := m.entries.map (·.2)

theorem keys_ascending (m : Map κ ν) : Ascending m.keys :=
  List.pairwise_map.2 m.ascending

instance [DecidableEq κ] [DecidableEq ν] : DecidableEq (Map κ ν) := fun s t =>
  decidable_of_iff (s.entries = t.entries) ⟨fun h => by cases s; cases t; simp_all, congrArg entries⟩

variable [DecidableEq κ]

def get? (m : Map κ ν) (k : κ) : Option ν := m.entries.lookup k

def contains (m : Map κ ν) (k : κ) : Bool := (m.get? k).isSome

def erase (m : Map κ ν) (k : κ) : Map κ ν :=
  ⟨m.entries.filter (·.1 ≠ k), m.ascending.filter _⟩

theorem get?_eq_some_iff {m : Map κ ν} {k : κ} {v : ν} : m.get? k = some v ↔ (k, v) ∈ m.entries := by
  have h := m.ascending
  unfold get?
  generalize m.entries = l at *
  induction l with
  | nil => simp
  | cons b l ih =>
    have hb := List.pairwise_cons.1 h
    rw [List.lookup_cons]
    by_cases hk : k = b.1
    · subst hk
      have : ∀ w, (b.1, w) ∉ l := fun w hw => absurd (hb.1 _ hw) (Nat.lt_irrefl _)
      simp [this, Prod.ext_iff, eq_comm]
    · have hk' : (k == b.1) = false := by simpa using hk
      simp only [hk', ih hb.2, List.mem_cons, Prod.ext_iff]
      grind

theorem contains_iff {m : Map κ ν} {k : κ} : m.contains k = true ↔ k ∈ m.keys := by
  unfold contains keys
  rw [Option.isSome_iff_exists]
  simp only [get?_eq_some_iff, List.mem_map]
  exact ⟨fun ⟨v, h⟩ => ⟨_, h, rfl⟩, fun ⟨⟨_, v⟩, h, hk⟩ => ⟨v, hk ▸ h⟩⟩

end Map
end ShardBalance.Ordered
