import Mathlib.Data.List.Sort
import ShardBalance.Proofs.Plans

/-!
Names asked for, by where each of them first comes. All of them are selected, or all those that do not exist are told
of; either way each comes once and in the order asked for.
-/

namespace ShardBalance.Collections

/-- `l` has the names that satisfy `p`, each once, in the order in which they first come in `names`. -/
structure FirstOf (names : List String) (p : String → Prop) (l : List String) : Prop where
  mem_iff : ∀ c, c ∈ l ↔ c ∈ names ∧ p c
  inOrder : l.Pairwise fun c d => names.idxOf c < names.idxOf d

variable {names asked existing l m : List String} {p : String → Prop}

theorem FirstOf.unique (hl : FirstOf names p l) (hm : FirstOf names p m) : l = m := by
  have irrefl : Std.Irrefl fun c d => names.idxOf c < names.idxOf d := ⟨fun c => Nat.lt_irrefl _⟩
  have antisymm : Std.Antisymm fun c d => names.idxOf c < names.idxOf d :=
    ⟨fun c d h h' => absurd h (Nat.lt_asymm h')⟩
  exact hl.inOrder.eq_of_mem_iff hm.inOrder fun c => (hl.mem_iff c).trans (hm.mem_iff c).symm

theorem FirstOf.nodup (h : FirstOf names p l) : l.Nodup :=
  h.inOrder.imp fun before => ne_of_apply_ne names.idxOf (Nat.ne_of_lt before)

theorem FirstOf.eq_nil_iff (h : FirstOf names p l) : l = [] ↔ ∀ c ∈ names, ¬p c := by
  simp only [List.eq_nil_iff_forall_not_mem, h.mem_iff, not_and]

theorem pairwise_distinct (names : List String) :
    (distinct names).Pairwise fun c d => names.idxOf c < names.idxOf d := by
  induction names with
  | nil => exact .nil
  | cons c names ih =>
    have later {d : String} (other : d ≠ c) : (c :: names).idxOf d = names.idxOf d + 1 :=
      List.idxOf_cons_ne names other.symm
    refine List.pairwise_cons.2 ⟨fun d hd => ?_, (ih.filter _).imp_of_mem fun hd he before => ?_⟩
    · have other : d ≠ c := by simpa using (List.mem_filter.1 hd).2
      rw [later other, List.idxOf_cons_self]
      exact Nat.zero_lt_succ _
    · have otherd := (List.mem_filter.1 hd).2
      have othere := (List.mem_filter.1 he).2
      rw [later (by simpa using otherd), later (by simpa using othere)]
      exact Nat.succ_lt_succ before

theorem firstOf_distinct (h : ∀ c ∈ names, p c) : FirstOf names p (distinct names) where
  mem_iff c := by
    rw [mem_distinct]
    exact ⟨fun hc => ⟨hc, h c hc⟩, And.left⟩
  inOrder := pairwise_distinct names

theorem firstOf_filter_distinct [DecidablePred p] : FirstOf names p ((distinct names).filter p) where
  mem_iff c := by simp
  inOrder := (pairwise_distinct names).filter _

theorem distinct_eq_self (h : l.Nodup) : distinct l = l := by
  induction l with
  | nil => rfl
  | cons c l ih =>
    obtain ⟨new, nodup⟩ := List.nodup_cons.1 h
    have kept : l.filter (· ≠ c) = l :=
      List.filter_eq_self.2 fun d hd => by simpa using ne_of_mem_of_not_mem hd new
    rw [distinct, ih nodup, kept]

theorem select_cases (asked existing : List String) :
    ((∀ c ∈ asked, c ∈ existing) ∧ select (some asked) existing = .ok (distinct asked)) ∨
      (¬ (∀ c ∈ asked, c ∈ existing) ∧
        select (some asked) existing = .error ((distinct asked).filter (· ∉ existing))) := by
  have missing : FirstOf asked (· ∉ existing) ((distinct asked).filter (· ∉ existing)) := firstOf_filter_distinct
  have none_iff := missing.eq_nil_iff
  simp only [not_not] at none_iff
  rw [← none_iff, select]
  cases (distinct asked).filter (· ∉ existing) with
  | nil => exact .inl ⟨rfl, rfl⟩
  | cons c rest => exact .inr ⟨List.cons_ne_nil c rest, rfl⟩

theorem firstOf_of_select (h : select (some asked) existing = .ok l) : FirstOf asked (· ∈ existing) l := by
  obtain ⟨all, selected⟩ | ⟨-, refused⟩ := select_cases asked existing
  · cases h.symm.trans selected
    exact firstOf_distinct all
  · cases h.symm.trans refused

theorem select_eq_error_iff :
    select (some asked) existing = .error m ↔ m ≠ [] ∧ FirstOf asked (· ∉ existing) m := by
  have missing : FirstOf asked (· ∉ existing) ((distinct asked).filter (· ∉ existing)) := firstOf_filter_distinct
  obtain ⟨all, selected⟩ | ⟨some, refused⟩ := select_cases asked existing
  · have none : (∀ m, FirstOf asked (· ∉ existing) m → m = []) := fun m h =>
      h.eq_nil_iff.2 fun c hc => not_not.2 (all c hc)
    simp only [selected, reduceCtorEq, false_iff, not_and]
    exact fun nonempty h => nonempty (none m h)
  · rw [refused, Except.error.injEq]
    constructor
    · rintro rfl
      refine ⟨fun none => some fun c hc => ?_, missing⟩
      exact not_not.1 (missing.eq_nil_iff.1 none c hc)
    · exact fun h => missing.unique h.2

theorem select_congr {existing' : List String} (same : ∀ c, c ∈ existing ↔ c ∈ existing') :
    select (some asked) existing = select (some asked) existing' := by
  simp only [select, same]

/-- A filter selects just when all its names exist, and then every name where it first comes. Otherwise it fails with the
names that do not exist, each where it first comes. Only which collections exist counts for that, and what a filter has
selected selects itself. Without a filter all collections are selected as they are listed. -/
theorem filters_select_first_occurrences (asked existing : List String) :
    ((∃ l, select (some asked) existing = .ok l) ↔ ∀ c ∈ asked, c ∈ existing) ∧
      (∀ l, select (some asked) existing = .ok l →
        FirstOf asked (· ∈ existing) l ∧ select (some l) existing = .ok l) ∧
      (∀ m, select (some asked) existing = .error m ↔ m ≠ [] ∧ FirstOf asked (· ∉ existing) m) ∧
      (∀ existing', (∀ c, c ∈ existing ↔ c ∈ existing') →
        select (some asked) existing = select (some asked) existing') ∧
      select none existing = .ok existing ∧
      ∀ (k : Scripted.Cluster) (f : Failure), (Rebalance.selected (some asked)).eval k.answers = .error f ↔
        ∃ m, m ≠ [] ∧ FirstOf asked (· ∉ k.names) m ∧ f = .unknownCollections m := by
  refine ⟨?_, fun l selected => ?_, fun m => select_eq_error_iff, fun existing' => select_congr, rfl, fun k f => ?_⟩
  · obtain ⟨all, selected⟩ | ⟨some, refused⟩ := select_cases asked existing
    · exact iff_of_true ⟨_, selected⟩ all
    · exact iff_of_false (by simp [refused]) some
  · have first := firstOf_of_select selected
    refine ⟨first, ?_⟩
    obtain ⟨-, again⟩ | ⟨some, -⟩ := select_cases l existing
    · rwa [distinct_eq_self first.nodup] at again
    · exact absurd (fun c hc => ((first.mem_iff c).1 hc).2) some
  · simp only [Rebalance.eval_selected_eq_error_iff, select_eq_error_iff, and_assoc]

example : select (some ["x", "a", "y", "x"]) ["b", "a"] = .error ["x", "y"] := rfl

end ShardBalance.Collections
