import ShardBalance.Proofs.Placements
import ShardBalance.Proofs.Planning.Planner

/-!
Peers without replicas, as a report shows them and as a placement counts them. The two differ only on a reporter that
lists nothing of its own and yet stands among the others.
-/

namespace ShardBalance

namespace PlacementReport

variable {r : PlacementReport} {p : PeerId} {s : ShardId} {activeOnly : Bool}

/-- Whether `p` is the reporter and all that is told of it stands among the others. -/
def Misplaces (r : PlacementReport) (p : PeerId) : Prop :=
  p = r.reporter ∧ r.own = [] ∧ ∃ x ∈ r.others, x.peer = p

theorem showsNone_iff :
    r.showsNone p = true ↔ (p = r.reporter → r.own = []) ∧ (p ≠ r.reporter → ∀ x ∈ r.others, x.peer ≠ p) := by
  unfold showsNone
  split
  next same => simp [same.symm]
  next other => simp [Ne.symm other]

theorem Tells.all (h : r.Tells activeOnly p s) : r.Tells false p s := by
  obtain ⟨reporter, x, hx, shard, -⟩ | ⟨x, hx, peer, shard, -⟩ := h
  · exact .inl ⟨reporter, x, hx, shard, nofun⟩
  · exact .inr ⟨x, hx, peer, shard, nofun⟩

theorem exists_tells_iff :
    (∃ s, r.Tells false p s) ↔ (p = r.reporter ∧ r.own ≠ []) ∨ ∃ x ∈ r.others, x.peer = p := by
  constructor
  · rintro ⟨s, ⟨reporter, x, hx, -⟩ | ⟨x, hx, peer, -⟩⟩
    · exact .inl ⟨reporter, List.ne_nil_of_mem hx⟩
    · exact .inr ⟨x, hx, peer⟩
  · rintro (⟨reporter, some⟩ | ⟨x, hx, peer⟩)
    · obtain ⟨x, hx⟩ := List.exists_mem_of_ne_nil _ some
      exact ⟨x.shard, .inl ⟨reporter, x, hx, rfl, nofun⟩⟩
    · exact ⟨x.shard, .inr ⟨x, hx, peer, rfl, nofun⟩⟩

theorem exists_tells_iff_of_showsNone (h : r.showsNone p = true) : (∃ s, r.Tells false p s) ↔ r.Misplaces p := by
  obtain ⟨own, others⟩ := showsNone_iff.1 h
  rw [exists_tells_iff, Misplaces]
  constructor
  · rintro (⟨reporter, some⟩ | told)
    · exact absurd (own reporter) some
    · have reporter : p = r.reporter := by
        by_contra other
        obtain ⟨x, hx, peer⟩ := told
        exact others other x hx peer
      exact ⟨reporter, own reporter, told⟩
  · exact fun ⟨_, _, told⟩ => .inr told

theorem exists_tells_of_shown (h : r.showsNone p ≠ true) : ∃ s, r.Tells false p s := by
  rw [exists_tells_iff]
  by_contra bare
  obtain ⟨own, others⟩ := not_or.1 bare
  refine h (showsNone_iff.2 ⟨fun reporter => ?_, fun _ x hx peer => others ⟨x, hx, peer⟩⟩)
  exact not_not.1 fun some => own ⟨reporter, some⟩

theorem showsNone_of_misplaces (h : r.Misplaces p) : r.showsNone p = true :=
  showsNone_iff.2 ⟨fun _ => h.2.1, fun other => absurd h.1 other⟩

end PlacementReport

theorem Placement.size_shardsOn_eq_zero_iff {activeOnly : Bool} {r : PlacementReport} {p : PeerId} :
    ((ofReport activeOnly r).shardsOn p).size = 0 ↔ ¬ ∃ s, r.Tells activeOnly p s := by
  simp only [← mem_shardsOn_ofReport, ← Ordered.Set.mem_toList]
  rw [Ordered.Set.size, List.length_eq_zero_iff, List.eq_nil_iff_forall_not_mem, not_exists]

namespace Planning

variable {t : Topology}

theorem Planner.plan_drain_of_empty {r : DrainRequest} (h : (t.placement.shardsOn r.source).size = 0) (ring : Ring) :
    (Planner.drain r).plan t ring = .ok [] := by
  have nothing : r.draft t ring = (.ofSteps [.nothingToDrain r.source], ring) := by
    rw [DrainRequest.draft, List.length_eq_zero_iff.1 h]
  rw [plan, draft, nothing]
  rfl

theorem EqualizeRequest.result_of_empty {r : EqualizeRequest} (h : (t.placement.shardsOn r.source).size = 0)
    (candidates : Nat) : (r.draft t).result t.collection candidates = .ok [] := by
  have wanted : r.wanted t = [] := List.sublist_nil.1 (List.length_eq_zero_iff.1 h ▸ wanted_sublist)
  exact Draft.result_eq_ok_iff.2 ⟨draft_stuck, by rw [draft_transfers, wanted, List.map_nil]⟩

/-- A report shows no replica of a peer just when the placement of all replicas has no shard on it, unless the peer is the
reporter and all that is told of it stands among the others: then none is shown although shards are counted. Where the
reporter stands among no others, a peer of which nothing is shown has nothing to drain and nothing to copy from, whichever
replicas count. -/
theorem emptiness_seen_alike (r : PlacementReport) (p : PeerId) :
    (¬r.Misplaces p → (r.showsNone p = true ↔ ((Placement.ofReport false r).shardsOn p).size = 0)) ∧
      (r.Misplaces p → r.showsNone p = true ∧ ((Placement.ofReport false r).shardsOn p).size ≠ 0) ∧
      (r.showsNone p = true → (∀ x ∈ r.others, x.peer ≠ r.reporter) →
        ∀ (activeOnly : Bool) (c : String) (factor : Nat) (method : TransferMethod),
          let t : Topology := ⟨c, factor, .ofReport activeOnly r⟩
          (∀ ring, (Planner.drain ⟨p, method⟩).plan t ring = .ok []) ∧
            ∀ target candidates, ((EqualizeRequest.mk p target method).draft t).result c candidates = .ok []) := by
  refine ⟨fun placed => ?_, fun misplaced => ?_, fun bare apart activeOnly c factor method => ?_⟩
  · rw [Placement.size_shardsOn_eq_zero_iff]
    constructor
    · exact fun bare told => placed ((PlacementReport.exists_tells_iff_of_showsNone bare).1 told)
    · exact fun untold => not_not.1 fun shown => untold (PlacementReport.exists_tells_of_shown shown)
  · have bare := PlacementReport.showsNone_of_misplaces misplaced
    refine ⟨bare, fun untold => ?_⟩
    exact Placement.size_shardsOn_eq_zero_iff.1 untold
      ((PlacementReport.exists_tells_iff_of_showsNone bare).2 misplaced)
  · intro t
    have empty : (t.placement.shardsOn p).size = 0 := by
      refine Placement.size_shardsOn_eq_zero_iff.2 fun ⟨s, told⟩ => ?_
      obtain ⟨reporter, -, x, hx, peer⟩ := (PlacementReport.exists_tells_iff_of_showsNone bare).1 ⟨s, told.all⟩
      exact apart x hx (peer.trans reporter)
    exact ⟨Planner.plan_drain_of_empty empty, fun target => EqualizeRequest.result_of_empty empty⟩

/-- A report of the peer 1 that lists its only replica among the others. -/
example : let r : PlacementReport := ⟨1, 1, [], [⟨1, 0, .active⟩], []⟩
    r.showsNone 1 = true ∧ (((Placement.ofReport false r).shardsOn 1).toList = [0]) := by decide

end Planning
end ShardBalance
