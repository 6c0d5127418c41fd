import ShardBalance.Planning.Draft

/-!
What the transfers planned for one collection have in common, whichever way they were planned.
-/

namespace ShardBalance

/-- Transfers of one collection, none of which gives a peer a shard that it holds, or that another of
them gives. -/
structure Topology.Admits (t : Topology) (l : List Transfer) : Prop where
  collection : ∀ x ∈ l, x.collection = t.collection
  lacking : ∀ x ∈ l, t.placement.holds x.target x.shard = false
  nodup : (l.map Transfer.shard).Nodup

namespace Draft

@[simp] theorem transfers_ofSteps (l : List Step) : (ofSteps l).transfers = l.filterMap Step.transfer? :=
  rfl

theorem transfers_after_transfer (t : Transfer) (n : Nat) (d : Draft) :
    (d.after [.transfer t] n).transfers = t :: d.transfers := rfl

theorem transfers_after_of_eq_none {step : Step} (h : step.transfer? = none) (n : Nat) (d : Draft) :
    (d.after [step] n).transfers = d.transfers :=
  List.filterMap_cons_none h

@[simp] theorem filterMap_transfer (l : List Transfer) :
    (l.map Step.transfer).filterMap Step.transfer? = l := by
  induction l with
  | nil => rfl
  | cons t l ih => exact congrArg (t :: ·) ih

theorem result_eq_ok_iff {d : Draft} {c : String} {n : Nat} {l : List Transfer} :
    d.result c n = .ok l ↔ d.stuck = none ∧ l = d.transfers := by
  unfold result
  cases d.stuck <;> simp [eq_comm]

theorem result_eq_error_iff {d : Draft} {c : String} {n : Nat} {f : Failure} :
    d.result c n = .error f ↔ ∃ s, d.stuck = some s ∧ f = .noQualifyingPeer c s n := by
  unfold result
  cases d.stuck <;> simp [eq_comm]

/-- The transfers of some collections one after the other, or the failure of the first one that has no draft. -/
def results (draft : String → Draft) (candidates : Nat) (names : List String) :
    Except Failure (List Transfer) :=
  (names.mapM fun c => (draft c).result c candidates).map List.flatten

variable {draft : String → Draft} {n : Nat} {names : List String}

theorem results_cons (draft : String → Draft) (n : Nat) (c : String) (rest : List String) :
    results draft n (c :: rest) =
      ((draft c).result c n).bind fun first => (results draft n rest).map (first ++ ·) := by
  unfold results
  rw [List.mapM_cons]
  cases (draft c).result c n with
  | error f => rfl
  | ok first => cases rest.mapM fun c => (draft c).result c n <;> rfl

theorem results_eq_ok_iff {l : List Transfer} :
    results draft n names = .ok l ↔
      (∀ c ∈ names, (draft c).stuck = none) ∧ l = names.flatMap fun c => (draft c).transfers := by
  induction names generalizing l with
  | nil => simp [results, pure, Except.pure, Except.map, eq_comm]
  | cons c rest ih =>
    rw [results_cons, List.forall_mem_cons, List.flatMap_cons]
    constructor
    · intro h
      cases first : (draft c).result c n with
      | error f =>
        rw [first] at h
        cases h
      | ok x =>
        cases others : results draft n rest with
        | error f =>
          rw [first, others] at h
          cases h
        | ok y =>
          rw [first, others] at h
          cases h
          obtain ⟨stuck, rfl⟩ := result_eq_ok_iff.1 first
          obtain ⟨stucks, rfl⟩ := ih.1 others
          exact ⟨⟨stuck, stucks⟩, rfl⟩
    · rintro ⟨⟨stuck, stucks⟩, rfl⟩
      rw [result_eq_ok_iff.2 ⟨stuck, rfl⟩, ih.2 ⟨stucks, rfl⟩]
      rfl

theorem of_results_eq_error {f : Failure} (h : results draft n names = .error f) :
    ∃ c ∈ names, ∃ s, (draft c).stuck = some s ∧ f = .noQualifyingPeer c s n := by
  induction names with
  | nil => cases h
  | cons c rest ih =>
    rw [results_cons] at h
    cases first : (draft c).result c n with
    | error g =>
      rw [first] at h
      cases h
      exact ⟨c, List.mem_cons_self, result_eq_error_iff.1 first⟩
    | ok x =>
      cases others : results draft n rest with
      | error g =>
        rw [first, others] at h
        cases h
        obtain ⟨d, hd, stuck⟩ := ih others
        exact ⟨d, List.mem_cons_of_mem _ hd, stuck⟩
      | ok y =>
        rw [first, others] at h
        cases h

end Draft
end ShardBalance
