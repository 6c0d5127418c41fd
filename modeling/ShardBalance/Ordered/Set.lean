/-!
Finite sets kept as strictly ascending lists, so two sets with the same members are the same value.
The order is that of a number telling the members apart.
-/

namespace ShardBalance

/-- Values told apart, and ordered, by a number. -/
class Ranked (α : Type) where
  rank : α → Nat
  rank_inj : ∀ {a b : α}, rank a = rank b → a = b

export Ranked (rank rank_inj)

instance : Ranked UInt64 := ⟨UInt64.toNat, UInt64.toNat_inj.1⟩
instance : Ranked UInt32 := ⟨UInt32.toNat, UInt32.toNat_inj.1⟩

namespace Ordered

variable {α : Type} [Ranked α]

abbrev Ascending (l : List α) : Prop := l.Pairwise fun a b => rank a < rank b

/-- Puts `a` at its place in an ascending list, which holds it at most once. -/
def insertInto (a : α) : List α → List α
  | [] => [a]
  | b :: l =>
    if rank a < rank b then a :: b :: l
    else if rank b < rank a then b :: insertInto a l
    else b :: l

theorem mem_insertInto {a x : α} {l : List α} : x ∈ insertInto a l ↔ x = a ∨ x ∈ l := by
  induction l with
  | nil => simp [insertInto]
  | cons b l ih =>
    unfold insertInto
    split
    · simp
    · split
      · simp only [List.mem_cons, ih]; grind
      · have hab : a = b := rank_inj (by omega)
        simp [hab]

theorem Ascending.insertInto {l : List α} (h : Ascending l) (a : α) :
    Ascending (Ordered.insertInto a l) := by
  induction l with
  | nil => simp [Ordered.insertInto, Ascending]
  | cons b l ih =>
    have hb := List.pairwise_cons.1 h
    unfold Ordered.insertInto
    split
    next hab =>
      refine List.pairwise_cons.2 ⟨fun x hx => ?_, h⟩
      rcases List.mem_cons.1 hx with rfl | hx
      · exact hab
      · exact Nat.lt_trans hab (hb.1 x hx)
    next =>
      split
      next hba =>
        refine List.pairwise_cons.2 ⟨fun x hx => ?_, ih hb.2⟩
        rcases mem_insertInto.1 hx with rfl | hx
        · exact hba
        · exact hb.1 x hx
      next => exact h

theorem Ascending.eq_of_mem_iff {l m : List α} (hl : Ascending l) (hm : Ascending m)
    (h : ∀ x, x ∈ l ↔ x ∈ m) : l = m := by
  induction l generalizing m with
  | nil =>
    cases m with
    | nil => rfl
    | cons b m => exact absurd ((h b).2 (by simp)) (by simp)
  | cons a l ih =>
    cases m with
    | nil => exact absurd ((h a).1 (by simp)) (by simp)
    | cons b m =>
      have hl' := List.pairwise_cons.1 hl
      have hm' := List.pairwise_cons.1 hm
      have hab : a = b := by
        rcases List.mem_cons.1 ((h a).1 (by simp)) with hab | ha
        · exact hab
        rcases List.mem_cons.1 ((h b).2 (by simp)) with hba | hb
        · exact hba.symm
        have := hm'.1 a ha
        have := hl'.1 b hb
        omega
      subst hab
      refine congrArg (a :: ·) (ih hl'.2 hm'.2 fun x => ⟨fun hx => ?_, fun hx => ?_⟩)
      · rcases List.mem_cons.1 ((h x).1 (List.mem_cons_of_mem _ hx)) with rfl | hx'
        · exact absurd (hl'.1 x hx) (Nat.lt_irrefl _)
        · exact hx'
      · rcases List.mem_cons.1 ((h x).2 (List.mem_cons_of_mem _ hx)) with rfl | hx'
        · exact absurd (hm'.1 x hx) (Nat.lt_irrefl _)
        · exact hx'

theorem Ascending.nodup {l : List α} (h : Ascending l) : l.Nodup := by
  refine List.Pairwise.imp (fun {a b} hab => ?_) h
  rintro rfl
  exact Nat.lt_irrefl _ hab

structure Set (α : Type) [Ranked α] where
  toList : List α
  ascending : Ascending toList

namespace Set

instance : Membership α (Set α) := ⟨fun s a => a ∈ s.toList⟩

theorem mem_toList {s : Set α} {a : α} : a ∈ s.toList ↔ a ∈ s := Iff.rfl

@[ext] theorem ext {s t : Set α} (h : ∀ a, a ∈ s ↔ a ∈ t) : s = t := by
  cases s; cases t
  congr
  exact Ascending.eq_of_mem_iff ‹_› ‹_› h

def contains [DecidableEq α] (s : Set α) (a : α) : Bool := decide (a ∈ s.toList)

@[simp] theorem contains_iff [DecidableEq α] {s : Set α} {a : α} : s.contains a = true ↔ a ∈ s := by
  simp [contains, mem_toList]

instance [DecidableEq α] (a : α) (s : Set α) : Decidable (a ∈ s) :=
  inferInstanceAs (Decidable (a ∈ s.toList))

instance [DecidableEq α] : DecidableEq (Set α) := fun s t =>
  decidable_of_iff (s.toList = t.toList) ⟨fun h => by cases s; cases t; simp_all, congrArg toList⟩

def size (s : Set α) : Nat := s.toList.length

def empty : Set α := ⟨[], .nil⟩

@[simp] theorem not_mem_empty (a : α) : ¬ a ∈ (empty : Set α) := List.not_mem_nil

def insert (s : Set α) (a : α) : Set α := ⟨insertInto a s.toList, s.ascending.insertInto a⟩

@[simp] theorem mem_insert {s : Set α} {a x : α} : x ∈ s.insert a ↔ x = a ∨ x ∈ s :=
  mem_insertInto

theorem insert_eq_self {s : Set α} {a : α} (h : a ∈ s) : s.insert a = s :=
  ext fun x => by rw [mem_insert]; exact ⟨fun hx => hx.elim (· ▸ h) id, Or.inr⟩

def ofList (l : List α) : Set α := l.foldl insert empty

theorem mem_foldl_insert {l : List α} {s : Set α} {x : α} :
    x ∈ l.foldl insert s ↔ x ∈ s ∨ x ∈ l := by
  induction l generalizing s with
  | nil => simp
  | cons a l ih => rw [List.foldl_cons, ih, mem_insert, List.mem_cons]; grind

theorem size_foldl_insert {l : List α} {s : Set α} (once : l.Nodup) (new : ∀ a ∈ l, a ∉ s) :
    (l.foldl insert s).size = s.size + l.length := by
  have apart : (s.toList ++ l).Nodup := by
    refine List.nodup_append.2 ⟨s.ascending.nodup, once, fun a old b given => ?_⟩
    rintro rfl
    exact new a given old
  have perm : (l.foldl insert s).toList.Perm (s.toList ++ l) := by
    refine (List.perm_ext_iff_of_nodup (l.foldl insert s).ascending.nodup apart).2 fun a => ?_
    rw [mem_toList, mem_foldl_insert, List.mem_append, mem_toList]
  have length := perm.length_eq
  rwa [List.length_append] at length

@[simp] theorem mem_ofList {l : List α} {x : α} : x ∈ ofList l ↔ x ∈ l := by
  simp [ofList, mem_foldl_insert]

theorem ofList_eq_ofList_iff {l m : List α} : ofList l = ofList m ↔ ∀ x, x ∈ l ↔ x ∈ m :=
  ⟨fun h x => by rw [← mem_ofList, h, mem_ofList], fun h => ext fun x => by simp [h]⟩

end Set
end Ordered
end ShardBalance
