import ShardBalance.Proofs.Holders
import ShardBalance.Proofs.Runs
import ShardBalance.Rebalance.Basic

/-!
Executions, whatever the backend. A transfer whose turn comes after a cancellation is not sent; any other
is, and the next has its turn only if this one was taken.
-/

namespace ShardBalance

namespace Reaction

def accepts : Reaction Acknowledgement → Bool
  | answered (.ok a) _ => a.accepted
  | _ => false

/-- The status of an outcome that ends with this reaction. -/
def told : Reaction Acknowledgement → String
  | answered (.ok a) _ => a.status
  | answered (.error (.refused _ message)) _ => message
  | answered (.error f) _ => (Failure.client f).message
  | abandoned => "cancelled"

end Reaction

namespace Rebalance

open Procedure

variable {σ : Type} {b : Backend σ} {s : Session σ} {t : Transfer} {rest : List Transfer}

theorem sent_of_ofAnswer {r : Except Failure Acknowledgement} {stop : Stop}
    (h : Stop.ofAnswer r = some stop) : stop.sent = true := by
  unfold Stop.ofAnswer at h
  split at h
  · split at h
    · cases h
    · cases h; rfl
  · cases h; rfl
  · cases h; rfl

theorem ofAnswer_eq_none_iff {r : Reaction Acknowledgement} :
    Stop.ofAnswer r.result = none ↔ r.accepts = true := by
  rcases r with ⟨a | a, c⟩ | _
  · simp [Reaction.result, Except.mapError, Stop.ofAnswer, Reaction.accepts]
  · cases h : a.accepted <;> simp [Reaction.result, Except.mapError, Stop.ofAnswer, Reaction.accepts, h]
  · simp [Reaction.result, Stop.ofAnswer, Reaction.accepts]

theorem status_of_ofAnswer {r : Reaction Acknowledgement} {stop : Stop}
    (h : Stop.ofAnswer r.result = some stop) : stop.status = r.told := by
  rcases r with ⟨f | a, c⟩ | _
  · cases h
    cases f <;> rfl
  · cases ha : a.accepted with
    | true => simp [Reaction.result, Except.mapError, Stop.ofAnswer, ha] at h
    | false =>
      simp only [Reaction.result, Except.mapError, Stop.ofAnswer, ha, Bool.false_eq_true, ↓reduceIte,
        Option.some.injEq] at h
      cases h
      rfl
  · cases h
    rfl

/-- What is noted down of a transfer once its answer is in. -/
def account (t : Transfer) : Option Stop → Procedure (Option Stop)
  | none => enter (.measured (.issued t.collection t.kind)) (enter (.note (.issued t)) (done none))
  | some stop => enter (.measured (.failed t.collection stop.reason)) (done (some stop))

theorem issue_eq (t : Transfer) :
    issue t = poll fun cancelled =>
      if cancelled then done (some (.cancelled false))
      else enter (.note (.issuing t)) (ask t.call fun answer =>
        enter (.measured .requestTimed) (account t (Stop.ofAnswer answer))) := by
  unfold issue
  refine congrArg poll (funext fun cancelled => ?_)
  cases cancelled with
  | true => rfl
  | false =>
    refine congrArg (enter _ <| ask t.call ·) (funext fun answer => congrArg (enter _) ?_)
    show Procedure.bind _ _ = _
    cases Stop.ofAnswer answer <;> rfl

theorem issue_of_cancelled (h : s.cancelled = true) :
    ((issue t).run b s).value = some (.cancelled false) ∧ ((issue t).run b s).session = s ∧
      (issue t).sessions b s = [] := by
  rw [issue_eq]
  simp [run, sessions, h]

theorem issue_of_alive (h : s.cancelled = false) :
    ((issue t).run b s).value = Stop.ofAnswer (s.call b t.call).1 ∧
      ((issue t).run b s).session = (s.call b t.call).2 ∧
      (issue t).sessions b s = [(s.call b t.call).2] := by
  rw [issue_eq]
  simp only [run, sessions, h, Bool.false_eq_true, ↓reduceIte]
  cases Stop.ofAnswer (s.call b t.call).1 <;> simp [account, run, sessions]

section IssueAll

variable (rest : List Transfer)

theorem issueAll_cons (t : Transfer) (rest : List Transfer) :
    issueAll (t :: rest) = issue t >>= fun stop =>
      match stop with
      | none => issueAll rest >>= fun more => pure { more with count := more.count + 1 }
      | some stop => pure ⟨if stop.sent then 1 else 0, some (t, stop)⟩ := rfl

theorem issueAll_of_cancelled (h : s.cancelled = true) :
    ((issueAll (t :: rest)).run b s).value = ⟨0, some (t, .cancelled false)⟩ ∧
      ((issueAll (t :: rest)).run b s).session = s ∧ (issueAll (t :: rest)).sessions b s = [] := by
  obtain ⟨value, session, sessions⟩ := issue_of_cancelled (b := b) (t := t) h
  rw [issueAll_cons, value_bind, session_bind, sessions_bind, value, session, sessions]
  exact ⟨rfl, rfl, rfl⟩

theorem issueAll_of_stop (h : s.cancelled = false) {stop : Stop}
    (hs : Stop.ofAnswer (s.call b t.call).1 = some stop) :
    ((issueAll (t :: rest)).run b s).value = ⟨1, some (t, stop)⟩ ∧
      ((issueAll (t :: rest)).run b s).session = (s.call b t.call).2 ∧
      (issueAll (t :: rest)).sessions b s = [(s.call b t.call).2] := by
  obtain ⟨value, session, sessions⟩ := issue_of_alive (b := b) (t := t) h
  rw [issueAll_cons, value_bind, session_bind, sessions_bind, value, session, sessions, hs]
  simp only [sent_of_ofAnswer hs]
  exact ⟨rfl, rfl, rfl⟩

theorem issueAll_of_taken (h : s.cancelled = false)
    (hs : Stop.ofAnswer (s.call b t.call).1 = none) :
    ((issueAll (t :: rest)).run b s).value =
        { ((issueAll rest).run b (s.call b t.call).2).value with
          count := ((issueAll rest).run b (s.call b t.call).2).value.count + 1 } ∧
      ((issueAll (t :: rest)).run b s).session = ((issueAll rest).run b (s.call b t.call).2).session ∧
      (issueAll (t :: rest)).sessions b s =
        (s.call b t.call).2 :: (issueAll rest).sessions b (s.call b t.call).2 := by
  obtain ⟨value, session, sessions⟩ := issue_of_alive (b := b) (t := t) h
  rw [issueAll_cons, value_bind, session_bind, sessions_bind, value, session, sessions, hs]
  simp only [value_bind, session_bind, sessions_bind]
  exact ⟨rfl, rfl, by simp [Procedure.sessions, pure]⟩

end IssueAll

/-- The outcome that tells what was sent of a plan. -/
def Issued.outcome (p : Plan) (i : Issued) : Outcome :=
  match i.stop with
  | none =>
    .succeeded (if p.transfers.isEmpty then "No transfers needed" else s!"Executed {i.count} transfers")
      p.size i.count
  | some (t, stop) => .failed stop.status (stop.detail t) p.size i.count

theorem success_outcome {p : Plan} {i : Issued} : (i.outcome p).success = true ↔ i.stop = none := by
  unfold Issued.outcome
  cases i.stop with
  | none => exact ⟨fun _ => rfl, fun _ => rfl⟩
  | some stopped => exact ⟨nofun, nofun⟩

theorem issued_outcome (p : Plan) (i : Issued) : (i.outcome p).issued = i.count := by
  unfold Issued.outcome
  cases i.stop <;> rfl

theorem execute_run (p : Plan) :
    ((execute p).run b s).value = ((issueAll p.transfers).run b s).value.outcome p ∧
      ((execute p).run b s).session = ((issueAll p.transfers).run b s).session ∧
      (execute p).sessions b s = (issueAll p.transfers).sessions b s := by
  rcases p with ⟨goal, _ | ⟨t, rest⟩⟩
  · exact ⟨rfl, rfl, rfl⟩
  · unfold execute
    simp only [List.isEmpty_cons, Bool.false_eq_true, ↓reduceIte]
    rw [value_bind, session_bind, sessions_bind]
    unfold Issued.outcome
    cases ((issueAll (t :: rest)).run b s).value.stop with
    | none => exact ⟨rfl, rfl, List.append_nil _⟩
    | some stopped => exact ⟨rfl, rfl, List.append_nil _⟩

section Requests

variable {settings : TransferSettings} {dry : Bool} {r : Request}

theorem run_of_planned (dry : Bool) {plan : Plan} (h : ((r.plan settings).run.run b s).value = .ok plan) :
    ((r.run settings dry).run b s).value =
        .ok ((carryOut plan dry).run b ((r.plan settings).run.run b s).session).value ∧
      ((r.run settings dry).run b s).session =
        ((carryOut plan dry).run b ((r.plan settings).run.run b s).session).session := by
  unfold Request.run
  rw [value_bind, session_bind, h]
  constructor
  · simp only [value_bind, value_pure, session_measure]
  · simp only [session_bind, session_pure, session_measure]

theorem run_of_unplanned (dry : Bool) {f : Failure} (h : ((r.plan settings).run.run b s).value = .error f) :
    ((r.run settings dry).run b s).value =
        (if f.isFatal then .error f else .ok (.failed f.status f.message 0 0)) ∧
      ((r.run settings dry).run b s).session = ((r.plan settings).run.run b s).session := by
  unfold Request.run
  rw [value_bind, session_bind, h]
  cases fatal : f.isFatal with
  | true => simp [fatal, value_bind, session_bind]
  | false => simp [fatal, value_bind, session_bind]

theorem journal_run_of_planned (dry : Bool) {plan : Plan}
    (h : ((r.plan settings).run.run b s).value = .ok plan) :
    ((r.run settings dry).run b s).journal =
      ((r.plan settings).run.run b s).journal ++ .measured (.planned r.goal plan.size) ::
        ((carryOut plan dry).run b ((r.plan settings).run.run b s).session).journal ++
          [.measured (.completed r.goal
            ((carryOut plan dry).run b ((r.plan settings).run.run b s).session).value.success)] := by
  unfold Request.run
  rw [journal_bind, h]
  refine (congrArg _ ?_).trans (List.append_assoc ..).symm
  exact congrArg (_ :: ·) (journal_bind (carryOut plan dry) _)

theorem journal_run_of_unplanned (dry : Bool) {f : Failure}
    (h : ((r.plan settings).run.run b s).value = .error f) :
    ((r.run settings dry).run b s).journal = ((r.plan settings).run.run b s).journal ++
      ((if f.isFatal then [] else [.note (.planningFailed r.goal f)]) ++ [.measured (.completed r.goal false)]) := by
  unfold Request.run
  rw [journal_bind, h]
  cases f <;> rfl

theorem planned_of_success {o : Outcome} (h : ((r.run settings dry).run b s).value = .ok o)
    (success : o.success = true) : ∃ plan, ((r.plan settings).run.run b s).value = .ok plan := by
  unfold Request.run at h
  rw [value_bind] at h
  cases planned : ((r.plan settings).run.run b s).value with
  | ok plan => exact ⟨plan, rfl⟩
  | error f =>
    rw [planned] at h
    cases fatal : f.isFatal with
    | true =>
      simp only [fatal] at h
      cases h
    | false =>
      simp only [fatal] at h
      cases h
      cases success

end Requests

end Rebalance
end ShardBalance
