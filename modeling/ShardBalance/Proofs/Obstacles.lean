import ShardBalance.Proofs.Executions
import ShardBalance.Proofs.Plans

/-!
Requests that cannot be planned. A call that brings no answer ends planning, and so does each of a few
obstacles in what the cluster answers; nothing has been sent then, and nothing is.
-/

namespace ShardBalance

namespace Failure

/-- The failures that are the caller's or the topology's. -/
inductive Raised : Failure → Prop
  | noPeer (selector : String) (known : List String) : Raised (.noPeer selector known)
  | ambiguous (selector : String) (candidates : List String) : Raised (.ambiguous selector candidates)
  | unknownCollections (names : List String) : Raised (.unknownCollections names)
  | noQualifyingPeer (collection : String) (shard : ShardId) (candidates : Nat) :
    Raised (.noQualifyingPeer collection shard candidates)
  | noOtherPeer (peer : PeerId) : Raised (.noOtherPeer peer)

theorem isFatal_iff {f : Failure} : f.isFatal = true ↔ f.Raised := by
  constructor
  · intro fatal
    cases f with
    | client cause => cases fatal
    | cancelled => cases fatal
    | noPeer selector known => exact .noPeer ..
    | ambiguous selector candidates => exact .ambiguous ..
    | unknownCollections names => exact .unknownCollections ..
    | noQualifyingPeer collection shard candidates => exact .noQualifyingPeer ..
    | noOtherPeer peer => exact .noOtherPeer ..
  · intro raised
    cases raised <;> rfl

end Failure

namespace Rebalance

open Attempt Procedure Scripted

def Request.selectors : Request → List Selector
  | replicate target .. => [target]
  | drain source .. => [source]
  | equalize source target _ => [source, target]

/-- The peer that a request needs others for. -/
def Request.centre? : Request → Option Selector
  | replicate target .. => some target
  | drain source .. => some source
  | equalize .. => none

def Request.asked : Request → Option (List String)
  | replicate _ collections _ => collections
  | drain _ collections => collections
  | equalize _ _ collections => some collections

/-- What keeps a request from being planned although the cluster `k` answers all calls. -/
inductive Obstacle (k : Cluster) : Request → Failure → Prop
  | selector {r : Request} {s : Selector} {f : Failure} (named : s ∈ r.selectors)
      (unresolved : k.peers.resolve s = .error f) : Obstacle k r f
  | collections {r : Request} {missing : List String}
      (unknown : Collections.select r.asked k.names = .error missing) :
      Obstacle k r (.unknownCollections missing)
  | alone {r : Request} {s : Selector} {p : Resolved} (centre : r.centre? = some s)
      (resolved : k.peers.resolve s = .ok p) (others : p.others = []) : Obstacle k r (.noOtherPeer p.peer)
  /-- No other peer that is listed holds a shard that the target is to get. -/
  | unsupplied {target : Selector} {asked : Option (List String)} {ignoreFactor : Bool} {p : Resolved}
      {names : List String} {c : String} {s : ShardId} (resolved : k.peers.resolve target = .ok p)
      (selected : Collections.select asked k.names = .ok names) (inside : c ∈ names)
      (known : s ∈ (k.placement c).shards) (lacking : (k.placement c).holds p.peer s = false)
      (few : ignoreFactor = false → (k.placement c).replication s < k.factor c)
      (none : ∀ q ∈ p.others, (k.placement c).holds q s = false) :
      Obstacle k (.replicate target asked ignoreFactor) (.noQualifyingPeer c s p.others.length)
  /-- Every other peer that is listed holds a shard of the source. -/
  | saturated {source : Selector} {asked : Option (List String)} {p : Resolved} {names : List String}
      {c : String} {s : ShardId} (resolved : k.peers.resolve source = .ok p)
      (selected : Collections.select asked k.names = .ok names) (inside : c ∈ names)
      (held : (k.placement c).holds p.peer s = true) (all : ∀ q ∈ p.others, (k.placement c).holds q s = true) :
      Obstacle k (.drain source asked) (.noQualifyingPeer c s p.others.length)

theorem Request.centre_mem_selectors {r : Request} {s : Selector} (h : r.centre? = some s) :
    s ∈ r.selectors := by
  cases r with
  | replicate target asked ignoreFactor =>
    cases h
    exact List.mem_cons_self
  | drain source asked =>
    cases h
    exact List.mem_cons_self
  | equalize source target asked => cases h

theorem of_resolve_eq_error {t : PeerTable} {s : Selector} {f : Failure} (h : t.resolve s = .error f) :
    (∃ known, f = .noPeer s.text known) ∨ ∃ candidates, f = .ambiguous s.text candidates := by
  cases s with
  | id peer =>
    simp only [PeerTable.resolve] at h
    split at h
    next => cases h
    next => exact .inl ⟨t.values, (Except.error.inj h).symm⟩
  | address part =>
    simp only [PeerTable.resolve] at h
    split at h
    next => exact .inl ⟨t.values, (Except.error.inj h).symm⟩
    next => cases h
    next => exact .inr ⟨_, (Except.error.inj h).symm⟩

section Eval

variable {k : Cluster} {settings : TransferSettings} {r : Request} {f : Failure}

theorem Obstacle.raised (h : Obstacle k r f) : f.Raised := by
  cases h with
  | selector named unresolved =>
    rcases of_resolve_eq_error unresolved with ⟨known, rfl⟩ | ⟨candidates, rfl⟩
    · exact .noPeer ..
    · exact .ambiguous ..
  | collections unknown => exact .unknownCollections ..
  | alone centre resolved others => exact .noOtherPeer ..
  | unsupplied => exact .noQualifyingPeer ..
  | saturated => exact .noQualifyingPeer ..

theorem obstacle_or_stuck {s : Selector} (centre : r.centre? = some s) {goal : Goal}
    {topology : String → Attempt Topology} {t : String → Topology} (planner : Resolved → Planning.Planner)
    (told : ∀ c ∈ k.names, (topology c).eval k.answers = .ok (t c))
    (h : (resolve s >>= fun p => selected r.asked >>= fun names => ringAround p >>= fun ring =>
      onRing topology (planner p).draft ring names >>= completed goal p).eval k.answers = .error f) :
    Obstacle k r f ∨ ∃ p names ring, k.peers.resolve s = .ok p ∧
      Collections.select r.asked k.names = .ok names ∧ Ring.ofPeers? p.others = some ring ∧
      ∃ c ∈ names, ∃ x, ((planner p).draft (t c) ring).1.stuck = some x ∧ f = .noQualifyingPeer c x ring.size := by
  rcases eval_bind_eq_error_iff.1 h with h | ⟨p, resolved, h⟩
  · rw [eval_resolve] at h
    exact .inl (.selector (Request.centre_mem_selectors centre) h)
  rw [eval_resolve] at resolved
  rcases eval_bind_eq_error_iff.1 h with h | ⟨names, chosen, h⟩
  · obtain ⟨missing, unknown, rfl⟩ := eval_selected_eq_error_iff.1 h
    exact .inl (.collections unknown)
  rw [eval_selected_eq_ok_iff] at chosen
  rcases eval_bind_eq_error_iff.1 h with h | ⟨ring, around, h⟩
  · obtain ⟨others, rfl⟩ := eval_ringAround_eq_error_iff.1 h
    exact .inl (.alone centre resolved others)
  rcases eval_bind_eq_error_iff.1 h with h | ⟨l, -, h⟩
  · have drafted := eval_onRing (planner p) ring (fun c hc => told c (Collections.mem_of_select chosen hc)) rfl
    exact .inr ⟨p, names, ring, resolved, chosen, eval_ringAround_eq_ok_iff.1 around,
      Draft.of_results_eq_error (drafted.symm.trans h)⟩
  · rw [eval_completed] at h
    cases h

theorem obstacle_of_eval_plan (h : (r.plan settings).eval k.answers = .error f) : Obstacle k r f := by
  cases r with
  | replicate target asked ignoreFactor =>
    rw [Request.plan, planReplicate_eq] at h
    obtain met | ⟨p, names, ring, resolved, chosen, around, c, inside, s, stuck, rfl⟩ :=
      obstacle_or_stuck (r := .replicate target asked ignoreFactor) rfl
        (fun p => .replicate ⟨p.peer, ignoreFactor, settings.copyMethod⟩)
        (fun c hc => eval_topology ignoreFactor hc) h
    · exact met
    obtain ⟨known, needed, none⟩ := Planning.ReplicateRequest.of_draft_stuck stuck
    obtain ⟨few, lacking⟩ := Planning.ReplicateRequest.skip?_eq_none_iff.1 needed
    rw [Ring.peers_of_ofPeers? around] at none
    rw [Ring.size, Ring.peers_of_ofPeers? around]
    refine .unsupplied resolved chosen inside known lacking (fun respected => ?_) none
    subst respected
    exact few rfl
  | drain source asked =>
    rw [Request.plan, planDrain_eq] at h
    obtain met | ⟨p, names, ring, resolved, chosen, around, c, inside, s, stuck, rfl⟩ :=
      obstacle_or_stuck (r := .drain source asked) rfl (fun p => .drain ⟨p.peer, settings.moveMethod⟩)
        (fun c hc => eval_topologyWithoutFactor hc) h
    · exact met
    obtain ⟨held, all⟩ := Planning.DrainRequest.of_draft_stuck stuck
    rw [Ring.peers_of_ofPeers? around] at all
    rw [Ring.size, Ring.peers_of_ofPeers? around]
    exact .saturated resolved chosen inside held all
  | equalize source target asked =>
    unfold Request.plan planEqualize at h
    rcases eval_bind_eq_error_iff.1 h with h | ⟨_, ⟨⟩, h⟩
    · cases h
    rcases eval_bind_eq_error_iff.1 h with h | ⟨p, -, h⟩
    · rw [eval_resolveIn] at h
      exact .selector List.mem_cons_self h
    rcases eval_bind_eq_error_iff.1 h with h | ⟨q, -, h⟩
    · rw [eval_resolveIn] at h
      exact .selector (List.mem_cons_of_mem _ List.mem_cons_self) h
    rcases eval_bind_eq_error_iff.1 h with h | ⟨names, chosen, h⟩
    · obtain ⟨missing, unknown, rfl⟩ := eval_selected_eq_error_iff.1 h
      exact .collections unknown
    rw [eval_selected_eq_ok_iff] at chosen
    have drafted := eval_each_equalize (r := ⟨p.peer, q.peer, settings.copyMethod⟩)
      fun c hc => eval_topologyWithoutFactor (Collections.mem_of_select chosen hc)
    split at h
    · simp only [eval_bind_eq_error_iff, eval_note, drafted, eval_completed] at h
      simp at h
    · simp only [eval_bind_eq_error_iff, drafted, eval_completed] at h
      simp at h

theorem resolved_of_plan {plan : Plan} (planned : (r.plan settings).eval k.answers = .ok plan) :
    ∀ s ∈ r.selectors, ∃ p, k.peers.resolve s = .ok p ∧ (r.centre? = some s → p.others ≠ []) := by
  have nonempty : ∀ {p : Resolved} {ring : Ring}, Ring.ofPeers? p.others = some ring → p.others ≠ [] := by
    intro p ring around none
    rw [none] at around
    cases around
  cases r with
  | replicate target asked ignoreFactor =>
    obtain ⟨p, names, ring, resolved, -, around, -⟩ := eval_planReplicate_eq_ok_iff.1 planned
    exact List.forall_mem_singleton.2 ⟨p, resolved, fun _ => nonempty around⟩
  | drain source asked =>
    obtain ⟨p, names, ring, resolved, -, around, -⟩ := eval_planDrain_eq_ok_iff.1 planned
    exact List.forall_mem_singleton.2 ⟨p, resolved, fun _ => nonempty around⟩
  | equalize source target asked =>
    obtain ⟨p, q, names, first, second, -⟩ := eval_planEqualize_eq_ok_iff.1 planned
    exact List.forall_mem_cons.2 ⟨⟨p, first, nofun⟩, List.forall_mem_singleton.2 ⟨q, second, nofun⟩⟩

theorem selected_of_plan {plan : Plan} (planned : (r.plan settings).eval k.answers = .ok plan) :
    ∃ names, Collections.select r.asked k.names = .ok names := by
  cases r with
  | replicate target asked ignoreFactor =>
    obtain ⟨-, names, -, -, chosen, -⟩ := eval_planReplicate_eq_ok_iff.1 planned
    exact ⟨names, chosen⟩
  | drain source asked =>
    obtain ⟨-, names, -, -, chosen, -⟩ := eval_planDrain_eq_ok_iff.1 planned
    exact ⟨names, chosen⟩
  | equalize source target asked =>
    obtain ⟨-, -, names, -, -, chosen, -⟩ := eval_planEqualize_eq_ok_iff.1 planned
    exact ⟨names, chosen⟩

theorem not_obstacle_of_plan {plan : Plan} (planned : (r.plan settings).eval k.answers = .ok plan) :
    ¬Obstacle k r f := by
  intro met
  cases met with
  | selector named unresolved =>
    obtain ⟨p, resolved, -⟩ := resolved_of_plan planned _ named
    rw [resolved] at unresolved
    cases unresolved
  | collections unknown =>
    obtain ⟨names, chosen⟩ := selected_of_plan planned
    rw [chosen] at unknown
    cases unknown
  | alone centre resolved none =>
    obtain ⟨p, resolved', others⟩ := resolved_of_plan planned _ (Request.centre_mem_selectors centre)
    rw [resolved] at resolved'
    cases resolved'
    exact others centre none
  | @unsupplied target asked ignoreFactor p names c s resolved chosen inside known lacking few missing =>
    obtain ⟨ring, around, free, -⟩ := (eval_planReplicate_eq_ok_iff_of resolved chosen).1 planned
    have needed : Planning.ReplicateRequest.skip? ⟨p.peer, ignoreFactor, settings.copyMethod⟩
        (k.topology (!ignoreFactor) c) s = none := by
      refine Planning.ReplicateRequest.skip?_eq_none_iff.2 ⟨fun respected => ?_, lacking⟩
      subst respected
      exact few rfl
    obtain ⟨q, hq, holds⟩ := Planning.ReplicateRequest.draft_stuck_eq_none_iff.1 (free c inside) s known needed
    rw [Ring.peers_of_ofPeers? around] at hq
    exact Bool.false_ne_true ((missing q hq).symm.trans holds)
  | @saturated source asked p names c s resolved chosen inside held all =>
    obtain ⟨p', names', ring, resolved', chosen', around, free, -⟩ := eval_planDrain_eq_ok_iff.1 planned
    rw [resolved] at resolved'
    rw [chosen] at chosen'
    cases resolved'
    cases chosen'
    have waits : s ∈ (k.placement c).shardsOn p.peer := Placement.mem_shardsOn.2 (Placement.holds_iff.1 held)
    obtain ⟨q, hq, lacks⟩ := Planning.DrainRequest.draft_stuck_eq_none_iff.1 (free c inside) s waits
    rw [Ring.peers_of_ofPeers? around] at hq
    exact Bool.false_ne_true (lacks.symm.trans (all q hq))

end Eval

section Runs

variable {settings : TransferSettings} {r : Request} {s : Session World} {f : Failure}

theorem obstacle_of_failed_plan (failed : ((r.plan settings).run.run World.react s).value = .error f) :
    f ∈ (r.plan settings).run.failures World.react s ∨ Obstacle s.world.cluster r f := by
  have reads := reads_plan settings r
  cases calls : (r.plan settings).run.failures World.react s with
  | nil =>
    have said := reads.eval_of_failures_eq_nil calls
    exact .inr (obstacle_of_eval_plan (said.symm.trans failed))
  | cons g rest =>
    have first : g ∈ (r.plan settings).run.failures World.react s := calls ▸ List.mem_cons_self
    obtain rfl := Except.error.inj (failed.symm.trans (reads.value_of_mem_failures first))
    exact .inl List.mem_cons_self

theorem plan_fails (fails : f ∈ (r.plan settings).run.failures World.react s ∨ Obstacle s.world.cluster r f) :
    ∃ g, ((r.plan settings).run.run World.react s).value = .error g := by
  have reads := reads_plan settings r
  rcases fails with failing | met
  · exact ⟨f, reads.value_of_mem_failures failing⟩
  · cases planned : ((r.plan settings).run.run World.react s).value with
    | ok plan => exact absurd met (not_obstacle_of_plan (reads.eval_of_run planned))
    | error g => exact ⟨g, rfl⟩

theorem untouched_of_failed_plan (dry : Bool)
    (failed : ((r.plan settings).run.run World.react s).value = .error f) :
    ((r.run settings dry).run World.react s).session.world.updates = s.world.updates ∧
      ((r.run settings dry).run World.react s).session.world.cluster = s.world.cluster := by
  have quiet := ((reads_plan settings r).undisturbed s).final s List.mem_cons_self
  rw [(run_of_unplanned dry failed).2]
  exact ⟨quiet.updates, quiet.cluster⟩

theorem raised_of_run_eq_error {dry : Bool} (raised : ((r.run settings dry).run World.react s).value = .error f) :
    f.Raised ∧ ((r.plan settings).run.run World.react s).value = .error f := by
  cases made : ((r.plan settings).run.run World.react s).value with
  | ok plan =>
    rw [(run_of_planned dry made).1] at raised
    cases raised
  | error g =>
    rw [(run_of_unplanned dry made).1] at raised
    split at raised
    next fatal =>
      cases raised
      exact ⟨Failure.isFatal_iff.1 fatal, rfl⟩
    next => cases raised

/-- A request that a failing call or an obstacle keeps from being planned sends nothing and changes nothing.
The caller's and the topology's failures are raised; the others become outcomes, as do all plans. -/
theorem failed_planning_sends_nothing (settings : TransferSettings) (dry : Bool) (r : Request)
    (s : Session World) :
    let planning := (r.plan settings).run
    let planned := (planning.run World.react s).value
    let run := (r.run settings dry).run World.react s
    let fails f := f ∈ planning.failures World.react s ∨ Obstacle s.world.cluster r f
    let untouched := run.session.world.updates = s.world.updates ∧
      run.session.world.cluster = s.world.cluster
    ((∃ f, fails f) ↔ ∃ f, planned = .error f) ∧
      (∀ f ∈ planning.failures World.react s, planned = .error f) ∧
      (∀ f, planned = .error f → fails f ∧ untouched ∧
        (f.Raised → run.value = .error f) ∧
        (¬f.Raised → ∃ o, run.value = .ok o ∧ o.success = false ∧ o.planned = 0 ∧ o.issued = 0 ∧
          o.error = some f.message ∧ (∀ n message, f = .client (.refused n message) → o.status = message) ∧
          (f = .cancelled → o.status = "cancelled") ∧
          (∀ cause, f = .client cause → (∀ n message, cause ≠ .refused n message) →
            o.status = f.message))) ∧
      (∀ plan, planned = .ok plan → ∃ o, run.value = .ok o) ∧
      ∀ f, run.value = .error f → f.Raised ∧ planned = .error f ∧ untouched := by
  intro planning planned run fails untouched
  refine ⟨⟨fun ⟨f, hf⟩ => plan_fails hf, fun ⟨f, failed⟩ => ⟨f, obstacle_of_failed_plan failed⟩⟩,
    fun f => (reads_plan settings r).value_of_mem_failures, fun f failed => ?_,
    fun plan made => ⟨_, (run_of_planned dry made).1⟩, fun f raised => ?_⟩
  · have value : run.value = _ := (run_of_unplanned dry failed).1
    refine ⟨obstacle_of_failed_plan failed, untouched_of_failed_plan dry failed, fun raised => ?_, fun kept => ?_⟩
    · rw [value, if_pos (Failure.isFatal_iff.2 raised)]
    · rw [if_neg (mt Failure.isFatal_iff.1 kept)] at value
      refine ⟨_, value, rfl, rfl, rfl, rfl, ?_, ?_, ?_⟩
      · rintro n message rfl
        rfl
      · rintro rfl
        rfl
      · rintro cause rfl other
        cases cause with
        | refused n message => exact absurd rfl (other n message)
        | _ => rfl
  · obtain ⟨kind, failed⟩ := raised_of_run_eq_error raised
    exact ⟨kind, failed, untouched_of_failed_plan dry failed⟩

end Runs

end Rebalance
end ShardBalance
