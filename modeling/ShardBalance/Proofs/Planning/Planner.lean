import Mathlib.Data.List.Permutation
import ShardBalance.Proofs.Planning.Drain
import ShardBalance.Proofs.Planning.Equalize
import ShardBalance.Proofs.Planning.Replicate

/-!
Planners on a ring. A draft looks at who holds which shard and at who is on the ring, but neither at who told of
the holdings nor at the peer where the ring stands. So reports that agree on the active replicas lead to the same
plans, and planners that share a ring do not notice each other.
-/

namespace ShardBalance

/-- What another peer makes known by the same holdings. -/
def Topology.toldBy (p : PeerId) (t : Topology) : Topology :=
  { t with placement := { t.placement with reporter := p } }

namespace Planning

variable {t : Topology} {p : PeerId}

theorem ReplicateRequest.copies_toldBy (r : ReplicateRequest) (s : Sweep) (l : List ShardId) :
    r.copies (t.toldBy p) s l = r.copies t s l := by
  induction l generalizing s with
  | nil => rfl
  | cons shard rest ih =>
    have skip : r.skip? (t.toldBy p) shard = r.skip? t shard := rfl
    unfold copies
    rw [skip]
    cases r.skip? t shard with
    | some step => simp only [ih]
    | none =>
      simp only [ih]
      rfl

theorem ReplicateRequest.draft_toldBy (r : ReplicateRequest) (ring : Ring) :
    r.draft (t.toldBy p) ring = r.draft t ring := by
  unfold draft
  rw [copies_toldBy]
  rfl

theorem EqualizeRequest.draft_toldBy (r : EqualizeRequest) : r.draft (t.toldBy p) = r.draft t := rfl

/-- The planners that choose peers from a ring. -/
inductive Planner where
  | replicate (r : ReplicateRequest)
  | drain (r : DrainRequest)

namespace Planner

variable {ring : Ring}

def draft : Planner → Topology → Ring → Draft × Ring
  | replicate r => r.draft
  | drain r => r.draft

/-- What planning a collection on a ring comes to. -/
def plan (planner : Planner) (t : Topology) (ring : Ring) : Except Failure (List Transfer) :=
  (planner.draft t ring).1.result t.collection ring.size

theorem draft_of_peers (planner : Planner) (t : Topology) {q : Ring} (h : q.peers = ring.peers) :
    (planner.draft t q).1 = (planner.draft t ring).1 := by
  cases planner with
  | replicate r => exact ReplicateRequest.draft_of_peers h
  | drain r => exact DrainRequest.draft_of_peers h

@[simp] theorem peers_draft (planner : Planner) (t : Topology) (ring : Ring) :
    (planner.draft t ring).2.peers = ring.peers := by
  cases planner with
  | replicate r => exact ReplicateRequest.peers_draft
  | drain r => exact DrainRequest.peers_draft

theorem plan_of_peers (planner : Planner) (t : Topology) {q : Ring} (h : q.peers = ring.peers) :
    planner.plan t q = planner.plan t ring := by
  unfold plan Ring.size
  rw [planner.draft_of_peers t h, h]

theorem plan_toldBy (planner : Planner) (t : Topology) (p : PeerId) (ring : Ring) :
    planner.plan (t.toldBy p) ring = planner.plan t ring := by
  cases planner with
  | replicate r => exact congrArg (fun d : Draft × Ring => d.1.result t.collection ring.size) (r.draft_toldBy ring)
  | drain r => rfl

/-- What planners come to that use a ring one after the other, each taking it as the one before it left it. -/
def plansInTurn : List (Planner × Topology) → Ring → List (Except Failure (List Transfer))
  | [], _ => []
  | (planner, t) :: rest, ring => planner.plan t ring :: plansInTurn rest (planner.draft t ring).2

theorem plansInTurn_eq (calls : List (Planner × Topology)) {q : Ring} (h : q.peers = ring.peers) :
    plansInTurn calls q = calls.map fun call => call.1.plan call.2 ring := by
  induction calls generalizing q with
  | nil => rfl
  | cons call rest ih =>
    obtain ⟨planner, t⟩ := call
    have left : (planner.draft t q).2.peers = ring.peers := (planner.peers_draft t q).trans h
    rw [plansInTurn, ih left, planner.plan_of_peers t h, List.map_cons]

end Planner

theorem topology_of_same_active {a b : PlacementReport}
    (same : ∀ p s, ⟨p, s, .active⟩ ∈ a.replicas ↔ ⟨p, s, .active⟩ ∈ b.replicas) (c : String) (factor : Nat) :
    (⟨c, factor, .ofReport true b⟩ : Topology) = Topology.toldBy b.reporter ⟨c, factor, .ofReport true a⟩ := by
  have holdings : (Placement.ofReport true b).holdings = (Placement.ofReport true a).holdings := by
    ext ⟨p, s⟩
    rw [Placement.mem_ofReport, Placement.mem_ofReport, same]
  exact congrArg (fun h => (⟨c, factor, ⟨b.reporter, h⟩⟩ : Topology)) holdings

/-- Reports of a collection that agree on the active replicas lead to the same plans, in whatever order and however
often they tell of them, whatever else they tell, and wherever the ring stands. -/
theorem plans_of_same_active (c : String) (factor : Nat) (a b : PlacementReport) (q r : Ring)
    (same : ∀ p s, ⟨p, s, .active⟩ ∈ a.replicas ↔ ⟨p, s, .active⟩ ∈ b.replicas) (candidates : q.peers = r.peers) :
    let seen (report : PlacementReport) : Topology := ⟨c, factor, .ofReport true report⟩
    (∀ planner : Planner, planner.plan (seen a) q = planner.plan (seen b) r) ∧
      ∀ request : EqualizeRequest, request.draft (seen a) = request.draft (seen b) := by
  intro seen
  have told : seen b = (seen a).toldBy b.reporter := topology_of_same_active same c factor
  rw [told]
  refine ⟨fun planner => ?_, fun request => ?_⟩
  · rw [planner.plan_toldBy, planner.plan_of_peers _ candidates]
  · rw [request.draft_toldBy]

theorem drain_plan_whoever_tells :
    let a : PlacementReport :=
      ⟨1, 2, [⟨0, 10, .active⟩, ⟨1, 10, .active⟩, ⟨2, 0, .dead⟩], [⟨2, 1, .active⟩], []⟩
    let b : PlacementReport :=
      ⟨2, 3, [⟨1, 7, .active⟩, ⟨1, 7, .active⟩],
        [⟨1, 1, .active⟩, ⟨3, 0, .recovery⟩, ⟨1, 0, .active⟩], [⟨0, 1, 3, true, none⟩]⟩
    let drain : Planner := .drain ⟨1, .snapshot⟩
    drain.plan ⟨"docs", 0, .ofReport true a⟩ ⟨[2, 3], 0, by decide⟩ =
        drain.plan ⟨"docs", 0, .ofReport true b⟩ ⟨[2, 3], 1, by decide⟩ ∧
      drain.plan ⟨"docs", 0, .ofReport true b⟩ ⟨[2, 3], 1, by decide⟩ =
        .ok [⟨"docs", 0, 1, 2, .snapshot, .move⟩, ⟨"docs", 1, 1, 3, .snapshot, .move⟩] := by
  -- two peers tell of the same replicas, one of them twice and with others that do not count. A drain on rings that
  -- stand elsewhere goes the same way
  intro a b drain
  have same : ∀ p s, ⟨p, s, .active⟩ ∈ a.replicas ↔ ⟨p, s, .active⟩ ∈ b.replicas := by
    intro p s
    grind [PlacementReport.replicas, PlacementReport.ownReplicas]
  obtain ⟨agree, -⟩ := plans_of_same_active "docs" 0 a b ⟨[2, 3], 0, by decide⟩ ⟨[2, 3], 1, by decide⟩ same rfl
  exact ⟨agree drain, by cbv⟩

end Planning
end ShardBalance
