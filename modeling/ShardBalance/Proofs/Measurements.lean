import Mathlib.Algebra.GroupWithZero.Nat
import ShardBalance.Proofs.Previews

/-!
What is measured of a compound operation, whatever the backend: how many transfers were planned, each update and what
came of it, and how the operation ended. Nothing is left out or counted twice.
-/

namespace ShardBalance

/-- What a measurement adds to the series of a name, with their labels. -/
def Measurement.added (name : String) (m : Measurement) : List (List (String × String) × Nat) :=
  m.series.filterMap fun a => if a.1.name = name then some (a.1.labels, a.2) else none

namespace Journal

/-- What is added to the series of a name, in order. -/
def added (j : Journal) (name : String) : List (List (String × String) × Nat) :=
  j.measurements.flatMap (Measurement.added name)

/-- How much is added to all series of a name. -/
def total (j : Journal) (name : String) : Nat := ((j.added name).map Prod.snd).sum

/-- How much is added to one series. -/
def reading (j : Journal) (s : Series) : Nat := (((j.added s.name).filter (·.1 = s.labels)).map Prod.snd).sum

theorem measurements_append (j j' : Journal) : measurements (j ++ j') = j.measurements ++ j'.measurements :=
  List.filterMap_append

theorem measurements_eq_nil {j : Journal} (h : ∀ e ∈ j, ∃ n, e = .note n) : j.measurements = [] := by
  refine List.filterMap_eq_nil_iff.2 fun e he => ?_
  obtain ⟨n, rfl⟩ := h e he
  rfl

end Journal

namespace Exchange

/-- Whether a call is an update that was accepted. -/
def taken (e : Exchange) : Bool := e.isUpdate && e.succeeds

/-- Whether a call is an update that was not accepted. -/
def lost (e : Exchange) : Bool := e.isUpdate && !e.succeeds

/-- Whether a call is an accepted update of a collection and kind. -/
def issues (collection : String) (kind : TransferKind) (e : Exchange) : Bool :=
  e.succeeds && e.call.update?.any fun u => u.1 = collection ∧ u.2.kind = kind

/-- What is measured of a call. -/
def measured : Exchange → List Measurement
  | ⟨.update c o, r⟩ =>
    [.requestTimed,
      match Rebalance.Stop.ofAnswer r.result with
      | none => .issued c o.kind
      | some stop => .failed c stop.reason]
  | _ => []

theorem measured_update (c : String) (o : Operation) (r : Reaction Acknowledgement) :
    measured ⟨.update c o, r⟩ = [.requestTimed,
      match Rebalance.Stop.ofAnswer r.result with
      | none => .issued c o.kind
      | some stop => .failed c stop.reason] := rfl

section Update

variable {c d : String} {o : Operation} {kind : TransferKind} {r : Reaction Acknowledgement}

@[simp] theorem isUpdate_update : isUpdate ⟨.update c o, r⟩ = true := rfl

@[simp] theorem taken_update : taken ⟨.update c o, r⟩ = r.accepts := rfl

@[simp] theorem lost_update : lost ⟨.update c o, r⟩ = !r.accepts := rfl

@[simp] theorem issues_update :
    issues c kind ⟨.update d o, r⟩ = (r.accepts && decide (d = c ∧ o.kind = kind)) := rfl

end Update

end Exchange

namespace Rebalance

open Procedure

variable {σ : Type} {b : Backend σ} {s : Session σ} {t : Transfer} {l : List Transfer}

theorem measurements_issue (alive : s.cancelled = false) :
    ((issue t).run b s).journal.measurements = Exchange.measured ⟨t.call, (b t.call s.world).1⟩ := by
  have answer : (s.call b t.call).1 = (b t.call s.world).1.result := by rw [Session.call_of_alive alive]
  rw [issue_eq]
  simp only [run, alive]
  refine Eq.trans ?_ (Exchange.measured_update t.collection t.operation _).symm
  show Journal.measurements (.note _ :: .measured _ :: _) = _
  rw [← answer]
  cases Stop.ofAnswer (s.call b t.call).1 <;> rfl

theorem measurements_issueAll (b : Backend σ) (l : List Transfer) (s : Session σ) :
    ((issueAll l).run b s).journal.measurements = ((issueAll l).exchanges b s).flatMap Exchange.measured := by
  induction l generalizing s with
  | nil => rfl
  | cons t rest ih =>
    rw [issueAll_cons, journal_bind, Journal.measurements_append]
    cases alive : s.cancelled with
    | true =>
      obtain ⟨value, -⟩ := issue_of_cancelled (b := b) (t := t) alive
      rw [value, ← issueAll_cons, (exchanges_of_cancelled _ alive).1, issue_eq]
      simp [run, alive, Journal.measurements]
    | false =>
      obtain ⟨value, session, -⟩ := issue_of_alive (b := b) (t := t) alive
      rw [value, session, ← issueAll_cons, exchanges_issueAll alive, measurements_issue alive, List.flatMap_cons]
      refine congrArg (_ ++ ·) ?_
      cases Stop.ofAnswer (s.call b t.call).1 with
      | none =>
        simp only
        rw [journal_bind, journal_pure, List.append_nil]
        exact ih _
      | some stop => rfl

theorem measurements_execute (b : Backend σ) (p : Plan) (s : Session σ) :
    ((execute p).run b s).journal.measurements = ((execute p).exchanges b s).flatMap Exchange.measured := by
  rw [exchanges_execute, ← measurements_issueAll]
  rcases p with ⟨goal, _ | ⟨t, rest⟩⟩
  · rfl
  · unfold execute
    simp only [List.isEmpty_cons, Bool.false_eq_true, ↓reduceIte]
    rw [journal_bind, Journal.measurements_append]
    refine (congrArg (_ ++ ·) ?_).trans (List.append_nil _)
    cases ((issueAll (t :: rest)).run b s).value.stop <;> rfl

theorem measurements_carryOut (b : Backend σ) (p : Plan) (dry : Bool) (s : Session σ) :
    ((carryOut p dry).run b s).journal.measurements = ((carryOut p dry).exchanges b s).flatMap Exchange.measured := by
  cases dry with
  | false => exact measurements_execute b p s
  | true =>
    rw [exchanges_carryOut]
    refine Journal.measurements_eq_nil fun e he => ?_
    have noted : ((carryOut p true).run b s).journal = (p.transfers.map Note.wouldMake).map .note :=
      congrArg Run.journal (run_dryRun ..)
    rw [noted] at he
    obtain ⟨n, -, rfl⟩ := List.mem_map.1 he
    exact ⟨n, rfl⟩

section Requests

variable {settings : TransferSettings} {dry : Bool} {r : Request}

/-- Whether an operation succeeded. -/
def succeeded : Except Failure Outcome → Bool
  | .ok o => o.success
  | .error _ => false

/-- What is measured of a plan that came about. -/
def measuredPlan (goal : Goal) : Except Failure Plan → List Measurement
  | .ok plan => [.planned goal plan.size]
  | .error _ => []

theorem measured_exchanges_plan (b : Backend σ) (settings : TransferSettings) (r : Request) (s : Session σ) :
    ((r.plan settings).run.exchanges b s).flatMap Exchange.measured = [] := by
  refine List.flatMap_eq_nil_iff.2 fun e he => ?_
  have read := (reads_plan settings r).not_isUpdate e he
  rcases e with ⟨_ | _ | _ | _ | ⟨c, o⟩, reaction⟩ <;> first | rfl | cases read

theorem measurements_run (b : Backend σ) (settings : TransferSettings) (dry : Bool) (r : Request) (s : Session σ) :
    ((r.run settings dry).run b s).journal.measurements =
      measuredPlan r.goal ((r.plan settings).run.run b s).value ++
        ((r.run settings dry).exchanges b s).flatMap Exchange.measured ++
          [.completed r.goal (succeeded ((r.run settings dry).run b s).value)] := by
  have planning : ((r.plan settings).run.run b s).journal.measurements = [] :=
    Journal.measurements_eq_nil fun e he =>
      let ⟨n, noted, _⟩ := (inspects_plan settings r).journal b s e he
      ⟨n, noted⟩
  cases planned : ((r.plan settings).run.run b s).value with
  | ok plan =>
    rw [journal_run_of_planned dry planned, exchanges_run_of_planned dry planned, (run_of_planned dry planned).1,
      Journal.measurements_append, Journal.measurements_append, planning, List.flatMap_append,
      measured_exchanges_plan, ← measurements_carryOut]
    rfl
  | error f =>
    rw [journal_run_of_unplanned dry planned, exchanges_run_of_unplanned dry planned, (run_of_unplanned dry planned).1,
      Journal.measurements_append, Journal.measurements_append, planning, measured_exchanges_plan]
    cases f <;> rfl

end Requests

end Rebalance

theorem sum_flatMap_eq_countP {α β : Type} {f : α → List (β × Nat)} {p : α → Bool}
    (once : ∀ a, ((f a).map Prod.snd).sum = if p a then 1 else 0) (l : List α) :
    ((l.flatMap f).map Prod.snd).sum = l.countP p := by
  induction l with
  | nil => rfl
  | cons a l ih =>
    rw [List.flatMap_cons, List.map_append, List.sum_append, once, ih, List.countP_cons, Nat.add_comm]

namespace Exchange

theorem measured_cases (e : Exchange) :
    (e.isUpdate = false ∧ e.measured = []) ∨
      ∃ c o, ∃ r : Reaction Acknowledgement, e = ⟨.update c o, r⟩ ∧
        ((r.accepts = true ∧ e.measured = [.requestTimed, .issued c o.kind]) ∨
          (r.accepts = false ∧ ∃ reason, e.measured = [.requestTimed, .failed c reason])) := by
  rcases e with ⟨_ | _ | _ | _ | ⟨c, o⟩, r⟩
  case update =>
    refine .inr ⟨c, o, r, rfl, ?_⟩
    have accepted := Rebalance.ofAnswer_eq_none_iff (r := r)
    rw [measured_update]
    cases answer : Rebalance.Stop.ofAnswer r.result with
    | none => exact .inl ⟨accepted.1 answer, rfl⟩
    | some stop =>
      refine .inr ⟨?_, stop.reason, rfl⟩
      rw [Bool.eq_false_iff]
      exact fun h => Option.some_ne_none stop (answer.symm.trans (accepted.2 h))
  all_goals exact .inl ⟨rfl, rfl⟩

/-- What a call adds to the series of a name. -/
def added (name : String) (e : Exchange) : List (List (String × String) × Nat) :=
  e.measured.flatMap (Measurement.added name)

variable (e : Exchange)

theorem sum_added_issued :
    ((e.added "quiver_shard_transfers_total").map Prod.snd).sum = if e.taken then 1 else 0 := by
  rcases e.measured_cases with ⟨read, quiet⟩ | ⟨c, o, r, rfl, ⟨h, told⟩ | ⟨h, reason, told⟩⟩
  · simp [added, taken, read, quiet]
  · simp [added, told, h, Measurement.added, Measurement.series]
  · simp [added, told, h, Measurement.added, Measurement.series]

theorem sum_added_failed :
    ((e.added "quiver_shard_transfer_errors_total").map Prod.snd).sum = if e.lost then 1 else 0 := by
  rcases e.measured_cases with ⟨read, quiet⟩ | ⟨c, o, r, rfl, ⟨h, told⟩ | ⟨h, reason, told⟩⟩
  · simp [added, lost, read, quiet]
  · simp [added, told, h, Measurement.added, Measurement.series]
  · simp [added, told, h, Measurement.added, Measurement.series]

theorem sum_added_timed :
    ((e.added "quiver_shard_transfer_request_duration_seconds").map Prod.snd).sum = if e.isUpdate then 1 else 0 := by
  rcases e.measured_cases with ⟨read, quiet⟩ | ⟨c, o, r, rfl, ⟨h, told⟩ | ⟨h, reason, told⟩⟩
  · simp [added, read, quiet]
  · simp [added, told, Measurement.added, Measurement.series]
  · simp [added, told, Measurement.added, Measurement.series]

theorem sum_added_issued_labels (c : String) (kind : TransferKind) :
    (((e.added "quiver_shard_transfers_total").filter (·.1 = [("collection", c), ("kind", kind.name)])).map
      Prod.snd).sum = if e.issues c kind then 1 else 0 := by
  have name_inj : ∀ k : TransferKind, k.name = kind.name ↔ k = kind := by
    intro k
    cases k <;> cases kind <;> simp [TransferKind.name]
  rcases e.measured_cases with ⟨read, quiet⟩ | ⟨d, o, r, rfl, ⟨h, told⟩ | ⟨h, reason, told⟩⟩
  · have none : e.call.update? = none := by simpa [isUpdate] using read
    simp [added, issues, quiet, none]
  · by_cases same : d = c ∧ o.kind = kind
    · simp [added, told, h, Measurement.added, Measurement.series, same]
    · simp [added, told, h, Measurement.added, Measurement.series, name_inj, same]
  · simp [added, told, h, Measurement.added, Measurement.series]

theorem added_eq_nil {name : String} (other : name ≠ "quiver_shard_transfers_total" ∧
    name ≠ "quiver_shard_transfer_errors_total" ∧ name ≠ "quiver_shard_transfer_request_duration_seconds") :
    e.added name = [] := by
  obtain ⟨issued, failed, timed⟩ := other
  rcases e.measured_cases with ⟨-, quiet⟩ | ⟨c, o, r, rfl, ⟨-, told⟩ | ⟨-, reason, told⟩⟩
  · simp [added, quiet]
  · simp [added, told, Measurement.added, Measurement.series, issued.symm, timed.symm]
  · simp [added, told, Measurement.added, Measurement.series, failed.symm, timed.symm]

end Exchange

theorem countP_of_last {α : Type} {p : α → Bool} {l : List α}
    (last : ∀ before a after, l = before ++ a :: after → p a = true → after = []) :
    l.countP p ≤ 1 ∧ (l.countP p = 1 ↔ ∃ before a, l = before ++ [a] ∧ p a = true) := by
  rcases forall_or_first p l with none | ⟨before, a, after, rfl, first, ha⟩
  · have zero : l.countP p = 0 := List.countP_eq_zero.2 fun a h => by simp [none a h]
    refine ⟨by omega, fun one => by omega, ?_⟩
    rintro ⟨before, a, rfl, ha⟩
    exact absurd (none a (by simp)) (by simp [ha])
  · obtain rfl := last before a after rfl ha
    have one : (before ++ [a]).countP p = 1 := by
      have zero : before.countP p = 0 := List.countP_eq_zero.2 fun b h => by simp [first b h]
      simp [List.countP_append, zero, ha]
    exact ⟨one.le, fun _ => ⟨before, a, rfl, ha⟩, fun _ => one⟩

theorem countP_taken_add_countP_lost (l : List Exchange) :
    l.countP Exchange.taken + l.countP Exchange.lost = l.countP Exchange.isUpdate := by
  induction l with
  | nil => rfl
  | cons e l ih =>
    have taken : e.taken = (e.isUpdate && e.succeeds) := rfl
    have lost : e.lost = (e.isUpdate && !e.succeeds) := rfl
    rw [List.countP_cons, List.countP_cons, List.countP_cons, taken, lost, ← ih]
    cases e.isUpdate <;> cases e.succeeds <;> simp <;> omega

namespace Rebalance

open Procedure

variable {σ : Type} {b : Backend σ} {s : Session σ} {settings : TransferSettings} {dry : Bool} {r : Request}

theorem added_run (b : Backend σ) (settings : TransferSettings) (dry : Bool) (r : Request) (s : Session σ)
    (name : String) :
    ((r.run settings dry).run b s).journal.added name =
      (measuredPlan r.goal ((r.plan settings).run.run b s).value).flatMap (Measurement.added name) ++
        ((r.run settings dry).exchanges b s).flatMap (Exchange.added name) ++
          Measurement.added name (.completed r.goal (succeeded ((r.run settings dry).run b s).value)) := by
  rw [Journal.added, measurements_run, List.flatMap_append, List.flatMap_append, List.flatMap_assoc]
  exact congrArg _ (List.append_nil _)

theorem added_run_of_operation {name : String} (other : name ≠ "quiver_shard_transfers_total" ∧
    name ≠ "quiver_shard_transfer_errors_total" ∧ name ≠ "quiver_shard_transfer_request_duration_seconds") :
    ((r.run settings dry).run b s).journal.added name =
      (measuredPlan r.goal ((r.plan settings).run.run b s).value).flatMap (Measurement.added name) ++
        Measurement.added name (.completed r.goal (succeeded ((r.run settings dry).run b s).value)) := by
  have none : ((r.run settings dry).exchanges b s).flatMap (Exchange.added name) = [] :=
    List.flatMap_eq_nil_iff.2 fun e _ => e.added_eq_nil other
  rw [added_run, none, List.append_nil]

theorem added_run_of_update {name : String} (other : name ≠ "quiver_rebalance_planned_transfers_total" ∧
    name ≠ "quiver_rebalance_completed_total" ∧ name ≠ "quiver_rebalance_duration_seconds") :
    ((r.run settings dry).run b s).journal.added name =
      ((r.run settings dry).exchanges b s).flatMap (Exchange.added name) := by
  obtain ⟨planned, completed, timed⟩ := other
  have ended : Measurement.added name (.completed r.goal (succeeded ((r.run settings dry).run b s).value)) = [] := by
    simp [Measurement.added, Measurement.series, completed.symm, timed.symm]
  have begun : (measuredPlan r.goal ((r.plan settings).run.run b s).value).flatMap (Measurement.added name) = [] := by
    cases ((r.plan settings).run.run b s).value <;>
      simp [measuredPlan, Measurement.added, Measurement.series, planned.symm]
  rw [added_run, ended, begun, List.append_nil, List.nil_append]

theorem issued_run {o : Outcome} (ended : ((r.run settings dry).run b s).value = .ok o) :
    o.issued = ((r.run settings dry).exchanges b s).countP Exchange.isUpdate := by
  have unsent : ((r.plan settings).run.exchanges b s).countP Exchange.isUpdate = 0 :=
    List.countP_eq_zero.2 fun e he => by simp [(reads_plan settings r).not_isUpdate e he]
  cases planned : ((r.plan settings).run.run b s).value with
  | error f =>
    rw [(run_of_unplanned dry planned).1] at ended
    rw [exchanges_run_of_unplanned dry planned, unsent]
    split at ended
    · cases ended
    · cases ended
      rfl
  | ok plan =>
    cases dry with
    | true =>
      rw [value_dry_of_planned planned] at ended
      rw [(run_dry b settings r s).2, unsent]
      cases ended
      rfl
    | false =>
      rw [(run_of_planned false planned).1] at ended
      have value := (execute_run (b := b) (s := ((r.plan settings).run.run b s).session) plan).1
      rw [exchanges_run_of_planned false planned, List.countP_append, unsent, Nat.zero_add, exchanges_carryOut]
      rw [← Except.ok.inj ended]
      exact (congrArg Outcome.issued value).trans ((issued_outcome ..).trans (count_issueAll ..))

theorem exchanges_run_eq_append (b : Backend σ) (settings : TransferSettings) (dry : Bool) (r : Request)
    (s : Session σ) :
    ∃ reads l t, (r.run settings dry).exchanges b s = reads ++ Session.trail b (l.map Transfer.call) t ∧
      (∀ e ∈ reads, e.isUpdate = false) ∧
      (l = [] ∨ ∃ plan, ((r.plan settings).run.run b s).value = .ok plan ∧ l = plan.transfers) := by
  have quiet := (reads_plan settings r).not_isUpdate (b := b) (s := s)
  cases planned : ((r.plan settings).run.run b s).value with
  | error f => exact ⟨_, [], s, by rw [exchanges_run_of_unplanned dry planned]; simp [Session.trail], quiet, .inl rfl⟩
  | ok plan =>
    have made := exchanges_run_of_planned dry planned
    rw [exchanges_carryOut] at made
    cases dry with
    | true => exact ⟨_, [], s, made, quiet, .inl rfl⟩
    | false =>
      rw [if_neg Bool.false_ne_true, exchanges_issueAll_eq_trail] at made
      exact ⟨_, plan.transfers, _, made, quiet, .inr ⟨plan, rfl, rfl⟩⟩

theorem last_of_lost {before after : List Exchange} {e : Exchange}
    (made : (r.run settings dry).exchanges b s = before ++ e :: after) (lost : e.lost = true) :
    after = [] ∧ ∃ plan, ((r.plan settings).run.run b s).value = .ok plan ∧ ∃ t ∈ plan.transfers, e.call = t.call := by
  obtain ⟨update, fails⟩ : e.isUpdate = true ∧ e.succeeds = false := by simpa [Exchange.lost] using lost
  obtain ⟨reads, l, t, sent, quiet, planned⟩ := exchanges_run_eq_append b settings dry r s
  have late : ∃ first, t.trail b (l.map Transfer.call) = first ++ e :: after := by
    rcases List.append_eq_append_iff.1 (sent.symm.trans made) with ⟨first, -, later⟩ | ⟨rest, split, later⟩
    · exact ⟨first, later⟩
    · cases rest with
      | nil => exact ⟨[], later.symm⟩
      | cons d rest =>
        obtain ⟨rfl, -⟩ := List.cons.inj later
        rw [quiet e (by simp [split])] at update
        cases update
  obtain ⟨first, late⟩ := late
  refine ⟨Session.last_of_fails late fails, ?_⟩
  have called : e.call ∈ l.map Transfer.call :=
    (Session.calls_trail b _ t).subset (List.mem_map_of_mem (by rw [late]; simp))
  obtain ⟨u, hu, call⟩ := List.mem_map.1 called
  rcases planned with rfl | ⟨plan, planned, rfl⟩
  · cases hu
  · exact ⟨plan, planned, u, hu, call.symm⟩

/-- Each operation counts its end once, with whether it succeeded, and its duration; each plan its size; each update
its duration and either what it issued or why it was not accepted, which ends the operation. -/
theorem measurements_conserve (b : Backend σ) (settings : TransferSettings) (dry : Bool) (r : Request)
    (s : Session σ) :
    let planned := ((r.plan settings).run.run b s).value
    let run := (r.run settings dry).run b s
    let made := (r.run settings dry).exchanges b s
    let updates := made.countP Exchange.isUpdate
    (∃ status, run.journal.added "quiver_rebalance_completed_total" =
        [([("operation", r.goal.name), ("status", status)], 1)] ∧
      (status = "success" ↔ ∃ o, run.value = .ok o ∧ o.success = true)) ∧
    run.journal.added "quiver_rebalance_duration_seconds" = [([("operation", r.goal.name)], 1)] ∧
    (∀ plan, planned = .ok plan → run.journal.added "quiver_rebalance_planned_transfers_total" =
      [([("operation", r.goal.name)], plan.size)]) ∧
    (∀ f, planned = .error f → run.journal.added "quiver_rebalance_planned_transfers_total" = []) ∧
    run.journal.total "quiver_shard_transfers_total" + run.journal.total "quiver_shard_transfer_errors_total" =
      updates ∧
    run.journal.total "quiver_shard_transfer_request_duration_seconds" = updates ∧
    (∀ o, run.value = .ok o → o.issued = updates) ∧
    run.journal.total "quiver_shard_transfer_errors_total" ≤ 1 ∧
    (run.journal.total "quiver_shard_transfer_errors_total" = 1 ↔ ∃ plan before t, ∃ reaction : Reaction Acknowledgement,
      planned = .ok plan ∧ t ∈ plan.transfers ∧ made = before ++ [⟨t.call, reaction⟩] ∧ reaction.accepts = false) ∧
    ∀ c kind, run.journal.reading ⟨"quiver_shard_transfers_total", [("collection", c), ("kind", kind.name)]⟩ =
      made.countP (Exchange.issues c kind) := by
  intro planned run made updates
  have issued : run.journal.total "quiver_shard_transfers_total" = made.countP Exchange.taken := by
    rw [Journal.total, added_run_of_update (by decide), sum_flatMap_eq_countP Exchange.sum_added_issued]
  have failed : run.journal.total "quiver_shard_transfer_errors_total" = made.countP Exchange.lost := by
    rw [Journal.total, added_run_of_update (by decide), sum_flatMap_eq_countP Exchange.sum_added_failed]
  have timed : run.journal.total "quiver_shard_transfer_request_duration_seconds" = updates := by
    rw [Journal.total, added_run_of_update (by decide), sum_flatMap_eq_countP Exchange.sum_added_timed]
  obtain ⟨once, one⟩ := countP_of_last (l := made) fun before e after split lost => (last_of_lost split lost).1
  refine ⟨⟨if succeeded run.value then "success" else "failure", ?_, ?_⟩, ?_, fun plan made => ?_, fun f unmade => ?_,
    ?_, timed, fun o => issued_run, failed ▸ once, ?_, fun c kind => ?_⟩
  · rw [added_run_of_operation (by decide)]
    cases ((r.plan settings).run.run b s).value <;> simp [measuredPlan, Measurement.added, Measurement.series, run]
  · cases run.value with
    | ok o => cases h : o.success <;> simp [succeeded, h]
    | error f => simp [succeeded]
  · rw [added_run_of_operation (by decide)]
    cases ((r.plan settings).run.run b s).value <;> simp [measuredPlan, Measurement.added, Measurement.series]
  · have made : ((r.plan settings).run.run b s).value = .ok plan := made
    rw [added_run_of_operation (by decide), made]
    simp [measuredPlan, Measurement.added, Measurement.series]
  · have unmade : ((r.plan settings).run.run b s).value = .error f := unmade
    rw [added_run_of_operation (by decide), unmade]
    simp [measuredPlan, Measurement.added, Measurement.series]
  · rw [issued, failed]
    exact countP_taken_add_countP_lost made
  · rw [failed, one]
    constructor
    · rintro ⟨before, ⟨c, reaction⟩, split, lost⟩
      obtain ⟨-, plan, planned, t, ht, rfl⟩ := last_of_lost split lost
      have refused : reaction.accepts = false := by simpa [Transfer.call] using lost
      exact ⟨plan, before, t, reaction, planned, ht, split, refused⟩
    · rintro ⟨plan, before, t, reaction, -, -, split, refused⟩
      exact ⟨before, _, split, by simp [Transfer.call, refused]⟩
  · show (((run.journal.added "quiver_shard_transfers_total").filter _).map Prod.snd).sum = _
    rw [added_run_of_update (by decide), List.filter_flatMap]
    exact sum_flatMap_eq_countP (fun e => e.sum_added_issued_labels c kind) made

end Rebalance
end ShardBalance
