import ShardBalance.Proofs.Cancellations
import ShardBalance.Proofs.Courses

/-!
The order in which a compound operation makes its calls: it looks up the peers and lists the collections, looks at each
collection that it is about, and only then sends what it planned. It makes no call after one that does not succeed.
-/

namespace ShardBalance

open Scripted

theorem Reaction.not_raised_of_result_eq_error {α : Type} {r : Reaction α} {f : Failure}
    (h : r.result = .error f) : ¬f.Raised := by
  rcases r with ⟨e | a, cancels⟩ | _ <;> cases h <;> rintro ⟨⟩

theorem Session.not_raised_of_failure? {σ : Type} {b : Backend σ} {s : Session σ} {l : List Call} {f : Failure}
    (h : s.failure? b l = some f) : ¬f.Raised := by
  induction l generalizing s with
  | nil => cases h
  | cons c rest ih =>
    unfold failure? at h
    cases told : (s.call b c).1 with
    | ok a =>
      rw [told] at h
      exact ih h
    | error g =>
      rw [told] at h
      cases h
      cases token : s.cancelled with
      | true =>
        rw [call_of_cancelled token] at told
        cases told
        rintro ⟨⟩
      | false =>
        rw [call_of_alive token] at told
        exact Reaction.not_raised_of_result_eq_error told

namespace Rebalance

theorem exchanges_issueAll_eq_trail {σ : Type} (b : Backend σ) (l : List Transfer) (s : Session σ) :
    (issueAll l).exchanges b s = s.trail b (l.map Transfer.call) := by
  induction l generalizing s with
  | nil => rfl
  | cons t rest ih =>
    cases token : s.cancelled with
    | true => rw [Session.trail_of_cancelled token, (Procedure.exchanges_of_cancelled _ token).1]
    | false =>
      rw [exchanges_issueAll token, List.map_cons, Session.trail_cons_of_alive token, ← ih, Session.call_of_alive token]
      have accepted := ofAnswer_eq_none_iff (r := (b t.call s.world).1)
      cases answer : Stop.ofAnswer (b t.call s.world).1.result with
      | none =>
        have succeeds : (Exchange.mk t.call (b t.call s.world).1).succeeds = true := accepted.1 answer
        rw [if_pos succeeds]
      | some stop =>
        have fails : ¬(Exchange.mk t.call (b t.call s.world).1).succeeds = true := fun succeeds =>
          Option.some_ne_none stop (answer.symm.trans (accepted.2 succeeds))
        rw [if_neg fails]

variable {settings : TransferSettings} {dry : Bool} {r : Request} {k : Cluster}

/-- The collections that a request is about; none if one that is asked for does not exist. -/
def Request.names (k : Cluster) (r : Request) : List String :=
  match Collections.select r.asked k.names with
  | .ok names => names
  | .error _ => []

/-- The updates that a request leads to if no call fails. -/
def Request.updates (settings : TransferSettings) (dry : Bool) (k : Cluster) (r : Request) : List Call :=
  match (r.plan settings).eval k.answers with
  | .ok plan => if dry then [] else plan.transfers.map Transfer.call
  | .error _ => []

/-- The calls of a request in order. -/
def Request.protocol (settings : TransferSettings) (dry : Bool) (k : Cluster) (r : Request) : List Call :=
  .peers :: .collections :: (r.names k).flatMap r.surveys ++ r.updates settings dry k

/-- The calls that a request has made once it raises a failure. -/
def Request.Reveals (k : Cluster) (r : Request) : Failure → List Call → Prop
  | .noPeer .., calls | .ambiguous .., calls => calls = [.peers]
  | .unknownCollections _, calls | .noOtherPeer _, calls => calls = [.peers, .collections]
  | .noQualifyingPeer c .., calls => ∃ before after, r.names k = before ++ c :: after ∧ c ∉ before ∧
      calls = .peers :: .collections :: (before ++ [c]).flatMap r.surveys
  | .client _, _ | .cancelled, _ => False

theorem Request.names_of_select {names : List String} (chosen : Collections.select r.asked k.names = .ok names) :
    r.names k = names := by
  rw [Request.names, chosen]

theorem Course.isPrefix {v : Except Failure Plan} {calls : List Call} (h : Course k r v calls) :
    calls <+: .peers :: .collections :: (r.names k).flatMap r.surveys := by
  cases h with
  | unresolved named unresolved => exact ⟨_, rfl⟩
  | unknown unknown => exact ⟨_, rfl⟩
  | alone p => exact ⟨_, rfl⟩
  | @stuck before after c chosen first x n =>
    refine ⟨after.flatMap r.surveys, ?_⟩
    simp [Request.names_of_select chosen]
  | planned chosen plan => rw [Request.names_of_select chosen]

theorem Course.eq_of_planned {plan : Plan} {calls : List Call} (h : Course k r (.ok plan) calls) :
    calls = .peers :: .collections :: (r.names k).flatMap r.surveys := by
  cases h with
  | planned chosen plan => rw [Request.names_of_select chosen]

theorem Course.reveals {f : Failure} {calls : List Call} (h : Course k r (.error f) calls) : r.Reveals k f calls := by
  cases h with
  | @unresolved s f named unresolved =>
    rcases of_resolve_eq_error unresolved with ⟨known, rfl⟩ | ⟨candidates, rfl⟩ <;> rfl
  | unknown unknown => rfl
  | alone p => rfl
  | stuck chosen first x n => exact ⟨_, _, Request.names_of_select chosen, first, rfl⟩

theorem asked_append_updates_isPrefix (settings : TransferSettings) (dry : Bool) (r : Request) (k : Cluster) :
    (r.plan settings).asked k.answers ++ r.updates settings dry k <+: r.protocol settings dry k := by
  have course := course_plan settings k r
  unfold Request.protocol Request.updates
  cases said : (r.plan settings).eval k.answers with
  | ok plan =>
    rw [said] at course
    rw [course.eq_of_planned]
  | error f =>
    rw [List.append_nil, List.append_nil]
    exact course.isPrefix

variable {s : Session World}

theorem value_plan (settings : TransferSettings) (r : Request) (s : Session World) :
    ((r.plan settings).run.run World.react s).value =
      match s.failure? World.react ((r.plan settings).asked s.world.cluster.answers) with
      | some f => .error f
      | none => (r.plan settings).eval s.world.cluster.answers :=
  (reads_plan settings r).value_run s

theorem exchanges_run (settings : TransferSettings) (dry : Bool) (r : Request) (s : Session World) :
    (r.run settings dry).exchanges World.react s =
      s.trail World.react ((r.plan settings).asked s.world.cluster.answers ++
        r.updates settings dry s.world.cluster) := by
  have made := (reads_plan settings r).trail_asked_append (r.updates settings dry s.world.cluster) s
  have value := value_plan settings r s
  refine Eq.trans ?_ made.symm
  show _ = _ ++ match s.failure? World.react ((r.plan settings).asked s.world.cluster.answers) with
    | some _ => []
    | none => _
  cases failing : s.failure? World.react ((r.plan settings).asked s.world.cluster.answers) with
  | some f =>
    rw [failing] at value
    rw [exchanges_run_of_unplanned dry value]
    exact (List.append_nil _).symm
  | none =>
    rw [failing] at value
    unfold Request.updates
    cases said : (r.plan settings).eval s.world.cluster.answers with
    | error f => exact (exchanges_run_of_unplanned dry (value.trans said)).trans (List.append_nil _).symm
    | ok plan =>
      rw [exchanges_run_of_planned dry (value.trans said), exchanges_carryOut, exchanges_issueAll_eq_trail]
      cases dry <;> rfl

theorem updates_of_planned {plan : Plan} (planned : ((r.plan settings).run.run World.react s).value = .ok plan) :
    r.updates settings dry s.world.cluster = if dry then [] else plan.transfers.map Transfer.call := by
  have said : (r.plan settings).eval s.world.cluster.answers = .ok plan := (reads_plan settings r).eval_of_run planned
  rw [Request.updates, said]

theorem failure?_plan_of_run {f : Failure} (raised : ((r.run settings dry).run World.react s).value = .error f) :
    s.failure? World.react ((r.plan settings).asked s.world.cluster.answers) = none ∧
      (r.plan settings).eval s.world.cluster.answers = .error f := by
  obtain ⟨kind, failed⟩ := raised_of_run_eq_error raised
  rw [value_plan] at failed
  cases failing : s.failure? World.react ((r.plan settings).asked s.world.cluster.answers) with
  | some g =>
    rw [failing] at failed
    cases failed
    exact absurd kind (Session.not_raised_of_failure? failing)
  | none =>
    rw [failing] at failed
    exact ⟨rfl, failed⟩

theorem asked_append_updates_of_run {o : Outcome} (ended : ((r.run settings dry).run World.react s).value = .ok o)
    (answered : s.failure? World.react ((r.plan settings).asked s.world.cluster.answers) = none) :
    (r.plan settings).asked s.world.cluster.answers ++ r.updates settings dry s.world.cluster =
      r.protocol settings dry s.world.cluster := by
  have value := value_plan settings r s
  rw [answered] at value
  have course := course_plan settings s.world.cluster r
  cases said : (r.plan settings).eval s.world.cluster.answers with
  | ok plan =>
    rw [said] at course
    rw [course.eq_of_planned]
    rfl
  | error f =>
    have raised := (obstacle_of_eval_plan said).raised
    rw [(run_of_unplanned dry (value.trans said)).1, if_pos (Failure.isFatal_iff.2 raised)] at ended
    cases ended

theorem update?_updates (settings : TransferSettings) (dry : Bool) (k : Cluster) (r : Request) :
    ∀ c ∈ r.updates settings dry k, c.update?.isSome := by
  unfold Request.updates
  split
  next plan _ =>
    cases dry with
    | true => exact List.forall_mem_nil _
    | false => exact List.forall_mem_map.2 fun t _ => rfl
  next => exact List.forall_mem_nil _

theorem update?_asked_plan (settings : TransferSettings) (r : Request) (k : Cluster) :
    ∀ c ∈ (r.plan settings).asked k.answers, c.update? = none :=
  (reads_plan settings r).update?_asked _

theorem calls_of_raised {f : Failure} (raised : ((r.run settings dry).run World.react s).value = .error f) :
    r.Reveals s.world.cluster f (((r.run settings dry).exchanges World.react s).map Exchange.call) := by
  obtain ⟨answered, said⟩ := failure?_plan_of_run raised
  have quiet : r.updates settings dry s.world.cluster = [] := by rw [Request.updates, said]
  have course := course_plan settings s.world.cluster r
  rw [said] at course
  rw [exchanges_run, quiet, List.append_nil, Session.calls_trail_of_failure? (update?_asked_plan _ _ _) answered]
  exact course.reveals

theorem calls_of_outcome {o : Outcome} (ended : ((r.run settings dry).run World.react s).value = .ok o) :
    ((r.run settings dry).exchanges World.react s).map Exchange.call = r.protocol settings dry s.world.cluster ∨
      s.HeldUp ((r.run settings dry).exchanges World.react s) := by
  cases failing : s.failure? World.react ((r.plan settings).asked s.world.cluster.answers) with
  | some f =>
    have unplanned := value_plan settings r s
    rw [failing] at unplanned
    rw [exchanges_run_of_unplanned dry unplanned, (reads_plan settings r).exchanges_eq_trail]
    exact .inr (Session.heldUp_of_failure? (update?_asked_plan _ _ _) failing)
  | none =>
    rw [exchanges_run, ← asked_append_updates_of_run ended failing]
    exact Session.calls_trail_eq_or_heldUp ..

theorem updates_run_last (settings : TransferSettings) (dry : Bool) (r : Request) (s : Session World) :
    ((r.run settings dry).exchanges World.react s).Pairwise fun d e => d.isUpdate = true → e.isUpdate = true := by
  have reads := update?_asked_plan settings r s.world.cluster
  have sends := update?_updates settings dry s.world.cluster r
  have order : ((r.plan settings).asked s.world.cluster.answers ++ r.updates settings dry s.world.cluster).Pairwise
      fun c d => c.update?.isSome → d.update?.isSome := by
    refine List.pairwise_append.2 ⟨List.pairwise_of_forall_mem_list fun c hc d _ update => ?_,
      List.pairwise_of_forall_mem_list fun c _ d hd _ => sends d hd, fun c _ d hd _ => sends d hd⟩
    rw [reads c hc] at update
    cases update
  have made := order.sublist (Session.calls_trail World.react _ s).sublist
  rw [← exchanges_run, List.pairwise_map] at made
  exact made

/-- The calls of a compound operation are the first ones of its protocol. None is made after one that failed, was
rejected or was cancelled, not even the same again. A failure that is raised ends them where it is found out; otherwise
they are all made unless something holds them up. What comes after an update is another one. -/
theorem calls_follow_protocol (settings : TransferSettings) (dry : Bool) (r : Request) (s : Session World) :
    let k := s.world.cluster
    let run := (r.run settings dry).run World.react s
    let made := (r.run settings dry).exchanges World.react s
    run.session.world.calls = s.world.calls ++ made.map Exchange.call ∧
      made.map Exchange.call <+: r.protocol settings dry k ∧
      (∀ plan, ((r.plan settings).run.run World.react s).value = .ok plan →
        r.updates settings dry k = if dry then [] else plan.transfers.map Transfer.call) ∧
      (s.cancelled = true → made = []) ∧
      (∀ before e after, made = before ++ e :: after → e.succeeds = false ∨ e.cancels = true → after = []) ∧
      (∀ f, run.value = .error f → r.Reveals k f (made.map Exchange.call)) ∧
      (∀ o, run.value = .ok o → made.map Exchange.call = r.protocol settings dry k ∨ s.HeldUp made) ∧
      made.Pairwise fun d e => d.isUpdate = true → e.isUpdate = true := by
  intro k run made
  have trail : made = s.trail World.react _ := exchanges_run settings dry r s
  refine ⟨Procedure.calls_run _ s, ?_, fun plan => updates_of_planned,
    fun token => (Procedure.exchanges_of_cancelled _ token).1, ?_, fun f => calls_of_raised, fun o => calls_of_outcome,
    updates_run_last settings dry r s⟩
  · rw [trail]
    exact (Session.calls_trail ..).trans (asked_append_updates_isPrefix settings dry r k)
  · rintro before e after split (fails | cancels)
    · exact Session.last_of_fails (trail.symm.trans split) fails
    · exact Procedure.last_of_cancels _ split cancels

end Rebalance
end ShardBalance
