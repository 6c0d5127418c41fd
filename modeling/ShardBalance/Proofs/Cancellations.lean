import ShardBalance.Proofs.Emptiness
import ShardBalance.Proofs.Exchanges
import ShardBalance.Proofs.Executions

/-!
Operations that are cancelled, whatever the backend. None makes a call afterwards. One that is cut short says that it
was cancelled, and how many updates it asked for; any other ends as if it had not been cancelled.
-/

namespace ShardBalance.Rebalance

open Procedure

variable {σ : Type} {b : Backend σ} {s : Session σ} {t : Transfer} {l rest : List Transfer}

theorem prompt_account (t : Transfer) (stop : Option Stop) : (account t stop).Prompt := by
  cases stop <;> trivial

theorem prompt_issue (t : Transfer) : (issue t).Prompt := by
  rw [issue_eq]
  exact ⟨trivial, fun _ => prompt_account t _⟩

theorem prompt_issueAll (l : List Transfer) : (issueAll l).Prompt := by
  induction l with
  | nil => trivial
  | cons t rest ih =>
    rw [issueAll_cons]
    refine (prompt_issue t).bind fun stop => ?_
    cases stop with
    | none => exact ih.bind fun _ => trivial
    | some stop => trivial

theorem exchanges_issue (alive : s.cancelled = false) :
    (issue t).exchanges b s = [⟨t.call, (b t.call s.world).1⟩] := by
  rw [issue_eq]
  simp only [exchanges, alive, Bool.false_eq_true, ↓reduceIte, List.cons.injEq, true_and]
  cases Stop.ofAnswer (s.call b t.call).1 <;> rfl

theorem exchanges_issueAll (alive : s.cancelled = false) (rest : List Transfer) :
    (issueAll (t :: rest)).exchanges b s = ⟨t.call, (b t.call s.world).1⟩ ::
      match Stop.ofAnswer (s.call b t.call).1 with
      | none => (issueAll rest).exchanges b (s.call b t.call).2
      | some _ => [] := by
  obtain ⟨value, session, -⟩ := issue_of_alive (b := b) (t := t) alive
  rw [issueAll_cons, exchanges_bind, exchanges_issue alive, value, session]
  cases Stop.ofAnswer (s.call b t.call).1 with
  | none => exact congrArg _ (exchanges_bind_of_quiet (fun _ _ => rfl) _ _)
  | some stop => rfl

theorem count_issueAll (l : List Transfer) (s : Session σ) :
    ((issueAll l).run b s).value.count = ((issueAll l).exchanges b s).countP Exchange.isUpdate := by
  induction l generalizing s with
  | nil => rfl
  | cons t rest ih =>
    cases alive : s.cancelled with
    | true => rw [(issueAll_of_cancelled rest alive).1, (exchanges_of_cancelled _ alive).1, List.countP_nil]
    | false =>
      have update : (⟨t.call, (b t.call s.world).1⟩ : Exchange).isUpdate = true := rfl
      rw [exchanges_issueAll alive, List.countP_cons_of_pos update]
      cases answer : Stop.ofAnswer (s.call b t.call).1 with
      | none => rw [(issueAll_of_taken rest alive answer).1, ih]
      | some stop => rw [(issueAll_of_stop rest alive answer).1, List.countP_nil]

theorem stop_of_cutShort (cut : CutShort b (issueAll l) s) :
    ∃ t sent, ((issueAll l).run b s).value.stop = some (t, .cancelled sent) := by
  induction l generalizing s with
  | nil => exact absurd cut (not_cutShort_of_quiet fun _ _ => rfl)
  | cons t rest ih =>
    cases alive : s.cancelled with
    | true => exact ⟨t, false, by rw [(issueAll_of_cancelled rest alive).1]⟩
    | false =>
      cases told : (b t.call s.world).1 with
      | abandoned =>
        have answer : Stop.ofAnswer (s.call b t.call).1 = some (.cancelled true) := by
          rw [Session.call_of_alive alive, told]
          rfl
        exact ⟨t, true, by rw [(issueAll_of_stop rest alive answer).1]⟩
      | answered r cancels =>
        obtain ⟨value, session, -⟩ := issue_of_alive (b := b) (t := t) alive
        -- this update was answered, so what is cut short is what follows it
        have whole : ¬CutShort b (issue t) s := by
          rw [CutShort, exchanges_issue alive, exchanges_issue rfl]
          simp [told]
        rw [issueAll_cons, cutShort_bind (prompt_issue t) whole, value, session] at cut
        cases answer : Stop.ofAnswer (s.call b t.call).1 with
        | none =>
          rw [answer] at cut
          have later := ih ((cutShort_bind_of_quiet (fun _ _ _ => rfl) _).1 cut)
          rw [(issueAll_of_taken rest alive answer).1]
          exact later
        | some stop =>
          rw [answer] at cut
          exact absurd cut (not_cutShort_of_quiet fun _ _ => rfl)

theorem exchanges_noteAll (l : List Note) : (noteAll l).exchanges b s = [] := by
  induction l with
  | nil => rfl
  | cons n l ih => exact ih

theorem exchanges_execute (b : Backend σ) (p : Plan) (s : Session σ) :
    (execute p).exchanges b s = (issueAll p.transfers).exchanges b s := by
  rcases p with ⟨goal, _ | ⟨t, rest⟩⟩
  · rfl
  · unfold execute
    simp only [List.isEmpty_cons, Bool.false_eq_true, ↓reduceIte]
    refine exchanges_bind_of_quiet (fun i u => ?_) _ _
    cases i.stop <;> rfl

theorem exchanges_carryOut (b : Backend σ) (p : Plan) (dry : Bool) (s : Session σ) :
    (carryOut p dry).exchanges b s = if dry then [] else (issueAll p.transfers).exchanges b s := by
  cases dry with
  | true => exact (exchanges_bind_of_quiet (fun _ _ => rfl) _ _).trans (exchanges_noteAll _)
  | false => exact exchanges_execute b p s

theorem prompt_execute (p : Plan) : (execute p).Prompt := by
  rcases p with ⟨goal, _ | ⟨t, rest⟩⟩
  · trivial
  · unfold execute
    simp only [List.isEmpty_cons, Bool.false_eq_true, ↓reduceIte]
    refine (prompt_issueAll _).bind fun i => ?_
    cases i.stop <;> trivial

theorem prompt_carryOut (p : Plan) (dry : Bool) : (carryOut p dry).Prompt := by
  cases dry with
  | true => exact (Prompt.noteAll _).bind fun _ => trivial
  | false => exact prompt_execute p

section Requests

variable {settings : TransferSettings} {dry : Bool} {r : Request}

theorem prompt_run (settings : TransferSettings) (dry : Bool) (r : Request) : (r.run settings dry).Prompt := by
  unfold Request.run
  refine (reads_plan settings r).prompt.bind fun planned => ?_
  cases planned with
  | ok plan => exact (prompt_carryOut plan dry).bind fun _ => trivial
  | error f =>
    simp only
    split <;> trivial

theorem exchanges_run_of_planned (dry : Bool) {plan : Plan}
    (h : ((r.plan settings).run.run b s).value = .ok plan) :
    (r.run settings dry).exchanges b s = (r.plan settings).run.exchanges b s ++
      (carryOut plan dry).exchanges b ((r.plan settings).run.run b s).session := by
  unfold Request.run
  rw [exchanges_bind, h]
  exact congrArg _ (exchanges_bind_of_quiet (fun _ _ => rfl) (carryOut plan dry) _)

theorem exchanges_run_of_unplanned (dry : Bool) {f : Failure}
    (h : ((r.plan settings).run.run b s).value = .error f) :
    (r.run settings dry).exchanges b s = (r.plan settings).run.exchanges b s := by
  unfold Request.run
  rw [exchanges_bind, h]
  cases f <;> exact List.append_nil _

theorem cutShort_of_run (cut : CutShort b (r.run settings dry) s) :
    CutShort b (r.plan settings).run s ∨ ∃ plan, ((r.plan settings).run.run b s).value = .ok plan ∧ dry = false ∧
      CutShort b (issueAll plan.transfers) ((r.plan settings).run.run b s).session := by
  by_cases whole : CutShort b (r.plan settings).run s
  · exact .inl whole
  · unfold Request.run at cut
    rw [cutShort_bind (reads_plan settings r).prompt whole] at cut
    cases planned : ((r.plan settings).run.run b s).value with
    | ok plan =>
      rw [planned] at cut
      have executing : CutShort b (carryOut plan dry) ((r.plan settings).run.run b s).session :=
        (cutShort_bind_of_quiet (fun _ _ _ => rfl) (carryOut plan dry)).1 cut
      unfold CutShort at executing
      rw [exchanges_carryOut, exchanges_carryOut] at executing
      cases dry with
      | true => simp at executing
      | false => exact .inr ⟨plan, rfl, rfl, executing⟩
    | error f =>
      rw [planned] at cut
      cases f <;> exact absurd cut (not_cutShort_of_quiet fun _ _ => rfl)

theorem outcome_of_cutShort (cut : CutShort b (r.run settings dry) s) :
    ∃ o, ((r.run settings dry).run b s).value = .ok o ∧ o.success = false ∧ o.status = "cancelled" ∧
      o.issued = ((r.run settings dry).exchanges b s).countP Exchange.isUpdate := by
  have reads := reads_plan settings r
  have unsent : ((r.plan settings).run.exchanges b s).countP Exchange.isUpdate = 0 :=
    List.countP_eq_zero.2 fun e he => by simp [reads.not_isUpdate e he]
  rcases cutShort_of_run cut with planning | ⟨plan, planned, rfl, sending⟩
  · have failed := reads.value_of_cutShort planning
    refine ⟨_, (run_of_unplanned dry failed).1, rfl, rfl, ?_⟩
    rw [exchanges_run_of_unplanned dry failed, unsent]
    rfl
  · obtain ⟨value, -⟩ := run_of_planned false planned
    obtain ⟨outcome, -, -⟩ := execute_run (b := b) (s := ((r.plan settings).run.run b s).session) plan
    obtain ⟨t, sent, stop⟩ := stop_of_cutShort sending
    have told : ((issueAll plan.transfers).run b ((r.plan settings).run.run b s).session).value.outcome plan =
        .failed "cancelled" (Stop.detail t (.cancelled sent)) plan.size
          ((issueAll plan.transfers).run b ((r.plan settings).run.run b s).session).value.count := by
      unfold Issued.outcome
      rw [stop]
      rfl
    refine ⟨_, value.trans (congrArg Except.ok (outcome.trans told)), rfl, rfl, ?_⟩
    rw [exchanges_run_of_planned false planned, exchanges_carryOut, List.countP_append, unsent, Nat.zero_add]
    exact count_issueAll plan.transfers _

end Requests

/-- What a cancellation comes to. Once it has taken place, no call is made by the operation or by any that comes after
it, whatever has become of the backend by then. -/
structure Obeys {α : Type} (b : Backend σ) (s : Session σ) (p : Procedure α) (ended : α → Prop) : Prop where
  silent : s.cancelled = true → p.exchanges b s = []
  last : ∀ before e after, p.exchanges b s = before ++ e :: after → e.cancels = true → after = []
  later : (s.cancelled = true ∨ ∃ e ∈ p.exchanges b s, e.cancels = true) →
    ∀ {β : Type} (q : Procedure β) (w : σ), q.exchanges b ⟨w, (p.run b s).session.cancelled⟩ = []
  cancelled : CutShort b p s → s.cancelled = true ∨ ∃ e ∈ p.exchanges b s, e.cancels = true
  cut : CutShort b p s → ended (p.run b s).value
  /-- The operation ends, and has noted down what it did, as if it had not been cancelled. -/
  whole : ¬CutShort b p s → p.run b.calm s.calm = { p.run b s with session := (p.run b s).session.calm }

theorem obeys_of_prompt {α : Type} {p : Procedure α} {ended : α → Prop} (prompt : p.Prompt)
    (cut : CutShort b p s → ended (p.run b s).value) : Obeys b s p ended where
  silent token := (exchanges_of_cancelled p token).1
  last _ _ _ := last_of_cancels p
  later cancelled _ q w := (exchanges_of_cancelled (s := ⟨w, _⟩) q ((cancelled_run_iff p s).2 cancelled)).1
  cancelled := cancelled_of_cutShort
  cut := cut
  whole uncut := (prompt.run_calm uncut).1

/-- No operation makes a call once it is cancelled. If that cuts it short, a lookup or a plan fails as cancelled, and
a compound operation has an outcome that says so and counts the updates asked for; else it ends as if not cancelled. -/
theorem cancellation_ends_calls (b : Backend σ) (s : Session σ) (settings : TransferSettings) (dry : Bool)
    (sel : Selector) (r : Request) :
    Obeys b s (resolve sel).run (· = .error .cancelled) ∧ Obeys b s (isEmpty sel).run (· = .error .cancelled) ∧
      Obeys b s (r.plan settings).run (· = .error .cancelled) ∧
      Obeys b s (r.run settings dry) fun v => ∃ o, v = .ok o ∧ o.success = false ∧ o.status = "cancelled" ∧
        o.issued = ((r.run settings dry).exchanges b s).countP Exchange.isUpdate := by
  have reading : ∀ {α : Type} {p : Attempt α}, Attempt.Reads p → Obeys b s p.run (· = .error .cancelled) :=
    fun reads => obeys_of_prompt reads.prompt reads.value_of_cutShort
  exact ⟨reading (reads_resolve sel), reading (reads_isEmpty sel), reading (reads_plan settings r),
    obeys_of_prompt (prompt_run settings dry r) outcome_of_cutShort⟩

end ShardBalance.Rebalance
