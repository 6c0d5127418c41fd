import Mathlib.Computability.Primrec.List
import Mathlib.Data.List.Permutation
import ShardBalance.Proofs.Obstacles

/-!
Requests about several collections. How a collection is drafted does not depend on the others that are asked for, so
a plan is made up of the plans for its collections alone, and fails like the first of them that fails.
-/

namespace ShardBalance

theorem Collections.select_singleton {c : String} {existing : List String} (h : c ∈ existing) :
    select (some [c]) existing = .ok [c] := by
  have none : (distinct [c]).filter (· ∉ existing) = [] :=
    List.filter_eq_nil_iff.2 fun d hd => by simpa [List.mem_singleton.1 hd] using h
  simp only [select, none]
  rfl

/-- Plans one after the other, as one plan. -/
def Plan.concat (goal : Goal) (plans : List Plan) : Plan := ⟨goal, plans.flatMap Plan.transfers⟩

theorem Draft.results_singleton (draft : String → Draft) (n : Nat) (c : String) :
    results draft n [c] = (draft c).result c n := by
  rw [results_cons]
  cases (draft c).result c n with
  | error f => rfl
  | ok l => exact congrArg Except.ok (List.append_nil l)

theorem mapM_map {α β γ : Type} (f : α → Except Failure β) (g : β → γ) (l : List α) :
    (l.mapM fun a => (f a).map g) = (l.mapM f).map (List.map g) := by
  induction l with
  | nil => rfl
  | cons a rest ih =>
    rw [List.mapM_cons, List.mapM_cons, ih]
    cases f a with
    | error e => rfl
    | ok x => cases rest.mapM f <;> rfl

theorem mapM_congr_left {α β : Type} {f g : α → Except Failure β} {l : List α} (same : ∀ a ∈ l, f a = g a) :
    l.mapM f = l.mapM g := by
  induction l with
  | nil => rfl
  | cons a rest ih =>
    rw [List.mapM_cons, List.mapM_cons, same a List.mem_cons_self, ih fun b hb => same b (List.mem_cons_of_mem _ hb)]

theorem Draft.map_concat_mapM (goal : Goal) (draft : String → Draft) (n : Nat) (names : List String) :
    (names.mapM fun c => ((draft c).result c n).map (Plan.mk goal)).map (Plan.concat goal) =
      (results draft n names).map (Plan.mk goal) := by
  rw [mapM_map, results]
  cases names.mapM fun c => (draft c).result c n with
  | error f => rfl
  | ok l => simp [Except.map, Plan.concat, List.flatMap_map]

namespace Rebalance

open Attempt Planning Scripted

/-- The same request about one collection. -/
def Request.only (c : String) : Request → Request
  | replicate target _ ignoreFactor => replicate target (some [c]) ignoreFactor
  | drain source _ => drain source (some [c])
  | equalize source target _ => equalize source target [c]

theorem Request.asked_only (r : Request) (c : String) : (r.only c).asked = some [c] := by
  cases r <;> rfl

theorem Request.goal_only (r : Request) (c : String) : (r.only c).goal = r.goal := by
  cases r <;> rfl

/-- How planning around a peer drafts a collection, and among how many candidates. -/
def draftsAround (k : Cluster) (s : Selector) (planner : Resolved → Planner) (t : String → Topology) :
    Except Failure ((String → Draft) × Nat) :=
  (k.peers.resolve s).bind fun p => ((ringAround p).eval k.answers).bind fun ring =>
    .ok (fun c => ((planner p).draft (t c) ring).1, ring.size)

/-- How a request drafts a collection on a cluster that answers all calls, whichever collections it asks for. -/
def Request.drafts (settings : TransferSettings) (k : Cluster) : Request → Except Failure ((String → Draft) × Nat)
  | replicate target _ ignoreFactor =>
    draftsAround k target (fun p => .replicate ⟨p.peer, ignoreFactor, settings.copyMethod⟩)
      (k.topology !ignoreFactor)
  | drain source _ => draftsAround k source (fun p => .drain ⟨p.peer, settings.moveMethod⟩) (k.topology false)
  | equalize source target _ =>
    (k.peers.resolve source).bind fun p => (k.peers.resolve target).bind fun q =>
      .ok (fun c => EqualizeRequest.draft ⟨p.peer, q.peer, settings.copyMethod⟩ (k.topology false c), 0)

theorem Request.drafts_only (settings : TransferSettings) (k : Cluster) (r : Request) (c : String) :
    (r.only c).drafts settings k = r.drafts settings k := by
  cases r <;> rfl

section Eval

variable {k : Cluster} {settings : TransferSettings} {r : Request} {names : List String}

theorem eval_bind_completed (goal : Goal) (p : Resolved) (l : Attempt (List Transfer)) :
    (l >>= completed goal p).eval k.answers = (l.eval k.answers).map (Plan.mk goal) := by
  rw [eval_bind]
  cases l.eval k.answers with
  | error f => rfl
  | ok x => exact eval_completed goal p x

theorem eval_around {s : Selector} {asked : Option (List String)} {topology : String → Attempt Topology}
    {t : String → Topology} (goal : Goal) (planner : Resolved → Planner)
    (told : ∀ c ∈ names, (topology c).eval k.answers = .ok (t c))
    (chosen : Collections.select asked k.names = .ok names) :
    (resolve s >>= fun p => selected asked >>= fun names => ringAround p >>= fun ring =>
        onRing topology (planner p).draft ring names >>= completed goal p).eval k.answers =
      (draftsAround k s planner t).bind fun d => (Draft.results d.1 d.2 names).map (Plan.mk goal) := by
  rw [eval_bind, eval_resolve, draftsAround]
  cases k.peers.resolve s with
  | error f => rfl
  | ok p =>
    show Attempt.eval _ (selected asked >>= _) = _
    rw [eval_bind, eval_selected_eq_ok_iff.2 chosen]
    show Attempt.eval _ (ringAround p >>= _) = _
    rw [eval_bind]
    simp only [Except.bind]
    cases (ringAround p).eval k.answers with
    | error f => rfl
    | ok ring =>
      simp only
      rw [eval_bind_completed, eval_onRing (planner p) ring told rfl]

theorem eval_plan (chosen : Collections.select r.asked k.names = .ok names) :
    (r.plan settings).eval k.answers =
      (r.drafts settings k).bind fun d => (Draft.results d.1 d.2 names).map (Plan.mk r.goal) := by
  have inside : ∀ c ∈ names, c ∈ k.names := fun c hc => Collections.mem_of_select chosen hc
  cases r with
  | replicate target asked ignoreFactor =>
    rw [Request.plan, planReplicate_eq]
    exact eval_around .replicate (fun p => .replicate ⟨p.peer, ignoreFactor, settings.copyMethod⟩)
      (fun c hc => eval_topology ignoreFactor (inside c hc)) chosen
  | drain source asked =>
    rw [Request.plan, planDrain_eq]
    exact eval_around .drain (fun p => .drain ⟨p.peer, settings.moveMethod⟩)
      (fun c hc => eval_topologyWithoutFactor (inside c hc)) chosen
  | equalize source target asked =>
    have listed : (Attempt.call .peers).eval k.answers = .ok ⟨"enabled", some k.serving, k.peers⟩ := rfl
    have known : (selected (some asked)).eval k.answers = .ok names := eval_selected_eq_ok_iff.2 chosen
    rw [Request.plan, planEqualize, eval_bind, listed]
    show Attempt.eval _ (resolveIn k.peers source >>= _) = _
    rw [eval_bind, eval_resolveIn, Request.drafts]
    cases k.peers.resolve source with
    | error f => rfl
    | ok p =>
      show Attempt.eval _ (resolveIn k.peers target >>= _) = _
      rw [eval_bind, eval_resolveIn]
      simp only [Except.bind]
      cases k.peers.resolve target with
      | error f => rfl
      | ok q =>
        have drafted := eval_each (EqualizeRequest.draft ⟨p.peer, q.peer, settings.copyMethod⟩)
          fun c hc => eval_topologyWithoutFactor (inside c hc)
        have completes : (each topologyWithoutFactor
            (EqualizeRequest.draft ⟨p.peer, q.peer, settings.copyMethod⟩) names >>= completed .equalize p).eval
              k.answers = (Draft.results (fun c =>
                EqualizeRequest.draft ⟨p.peer, q.peer, settings.copyMethod⟩ (k.topology false c)) 0 names).map
                  (Plan.mk .equalize) := by
          rw [eval_bind_completed, drafted]
        simp only
        rw [eval_bind, known]
        simp only [Except.bind]
        split
        · rw [eval_bind, eval_note]
          exact completes
        · exact completes

end Eval

theorem eval_plan_parts {k : Cluster} (settings : TransferSettings) (r : Request) {names : List String}
    (chosen : Collections.select r.asked k.names = .ok names) (nonempty : names ≠ []) :
    (r.plan settings).eval k.answers =
      (names.mapM fun c => ((r.only c).plan settings).eval k.answers).map (Plan.concat r.goal) := by
  have alone : ∀ c ∈ names, ((r.only c).plan settings).eval k.answers =
      (r.drafts settings k).bind fun d => ((d.1 c).result c d.2).map (Plan.mk r.goal) := by
    intro c hc
    have found : Collections.select (r.only c).asked k.names = .ok [c] := by
      rw [Request.asked_only]
      exact Collections.select_singleton (Collections.mem_of_select chosen hc)
    rw [eval_plan found, Request.drafts_only, Request.goal_only]
    simp only [Draft.results_singleton]
  rw [eval_plan chosen, mapM_congr_left alone]
  cases r.drafts settings k with
  | error f =>
    obtain ⟨c, rest, rfl⟩ := List.exists_cons_of_ne_nil nonempty
    rw [List.mapM_cons]
    rfl
  | ok d => exact (Draft.map_concat_mapM r.goal d.1 d.2 names).symm

/-- A request about some collections, where nothing goes wrong, comes to the plans for each of them alone one after
the other, or fails like the first of them that fails. Planners that take turns on one ring, wherever it stands and
however each leaves it, do as each would on a new ring of the same peers. -/
theorem collections_planned_apart (settings : TransferSettings) (r : Request) (w : World) (names : List String)
    (faultless : w.faults = []) (chosen : Collections.select r.asked w.cluster.names = .ok names)
    (nonempty : names ≠ []) (calls : List (Planner × Topology)) (ring : Ring) :
    let planned (r : Request) := ((r.plan settings).run.run World.react ⟨w, false⟩).value
    planned r = (names.mapM fun c => planned (r.only c)).map (Plan.concat r.goal) ∧
      ∃ fresh, Ring.ofPeers? ring.peers = some fresh ∧
        Planner.plansInTurn calls ring = calls.map fun call => call.1.plan call.2 fresh := by
  intro planned
  constructor
  · have said : planned = fun r => (r.plan settings).eval w.cluster.answers := by
      funext r
      exact ((reads_plan settings r).run_of_faultless (s := ⟨w, false⟩) faultless rfl).1
    rw [said]
    exact eval_plan_parts settings r chosen nonempty
  · have peers : ring.peers ≠ [] := List.ne_nil_of_length_pos ring.size_pos
    obtain ⟨fresh, new⟩ := Option.ne_none_iff_exists'.1 (mt Ring.ofPeers?_eq_none_iff.1 peers)
    exact ⟨fresh, new, Planner.plansInTurn_eq calls (Ring.peers_of_ofPeers? new).symm⟩

theorem drain_fails_with_second_collection :
    let docs : Collection := ⟨"docs", none, [⟨1, 0, .active⟩, ⟨1, 1, .active⟩], none⟩
    let logs : Collection := ⟨"logs", none, [⟨1, 0, .active⟩, ⟨2, 0, .active⟩], none⟩
    let w : World := ⟨⟨.ofList [(1, "http://a"), (2, "http://b")], 1, [docs, logs]⟩, [], []⟩
    let planned (r : Request) := ((r.plan .default).run.run World.react ⟨w, false⟩).value
    planned (.drain (.id 1) (some ["docs"])) =
        .ok ⟨.drain, [⟨"docs", 0, 1, 2, .streamRecords, .move⟩, ⟨"docs", 1, 1, 2, .streamRecords, .move⟩]⟩ ∧
      planned (.drain (.id 1) (some ["logs"])) = .error (.noQualifyingPeer "logs" 0 1) ∧
      planned (.drain (.id 1) none) = .error (.noQualifyingPeer "logs" 0 1) := by
  -- two collections of which the first can be drained and the second is on every peer
  intro docs logs w planned
  have first : planned (.drain (.id 1) (some ["docs"])) =
      .ok ⟨.drain, [⟨"docs", 0, 1, 2, .streamRecords, .move⟩, ⟨"docs", 1, 1, 2, .streamRecords, .move⟩]⟩ := by
    show (((Request.drain (.id 1) (some ["docs"])).plan .default).run.run World.react ⟨w, false⟩).value = _
    cbv
  have second : planned (.drain (.id 1) (some ["logs"])) = .error (.noQualifyingPeer "logs" 0 1) := by
    show (((Request.drain (.id 1) (some ["logs"])).plan .default).run.run World.react ⟨w, false⟩).value = _
    cbv
  have apart : planned (.drain (.id 1) none) = (["docs", "logs"].mapM fun c =>
      planned ((Request.drain (.id 1) none).only c)).map (Plan.concat .drain) :=
    (collections_planned_apart .default (.drain (.id 1) none) w ["docs", "logs"] rfl rfl (List.cons_ne_nil _ _) []
      ⟨[2], 0, by decide⟩).1
  clear_value planned
  refine ⟨first, second, apart.trans ?_⟩
  rw [List.mapM_cons, List.mapM_cons]
  simp only [Request.only, first, second]
  rfl

end Rebalance
end ShardBalance
