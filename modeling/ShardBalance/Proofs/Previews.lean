import ShardBalance.Proofs.Deliveries
import ShardBalance.Proofs.Protocol
import ShardBalance.Proofs.Safety

/-!
Dry runs. They read as a real run does and send nothing; what they say they would do is what a real run then does.
-/

namespace ShardBalance

def previewMark : List Char := "[dry run] Would ".toList

/-- What a note says would be done. -/
def Note.preview? (n : Note) : Option String := (Text.after? previewMark n.text.toList).map String.ofList

def Journal.previews (j : Journal) : List String := j.notes.filterMap Note.preview?

/-- A text that starts with a character other than the first of the mark. -/
def Unmarked (s : String) : Prop := ∃ c ∈ s.toList.head?, c ≠ '['

theorem Unmarked.append {s : String} (h : Unmarked s) (t : String) : Unmarked (s ++ t) := by
  obtain ⟨c, hc, other⟩ := h
  refine ⟨c, ?_, other⟩
  rw [Option.mem_def] at hc ⊢
  rw [String.toList_append, List.head?_append, hc]
  rfl

theorem Unmarked.after? {s : String} (h : Unmarked s) : Text.after? previewMark s.toList = none := by
  obtain ⟨c, hc, other⟩ := h
  rw [Option.eq_none_iff_forall_ne_some]
  intro rest marked
  rw [Text.after?_eq_some_iff.1 marked] at hc
  exact other (Option.some.inj hc).symm

namespace Note

theorem unmarked_stepText (c : String) (s : Step) : Unmarked (stepText c s) := by
  cases s <;> dsimp only [stepText] <;> (repeat' with_reducible refine Unmarked.append ?_ _) <;>
    exact ⟨_, rfl, by decide⟩

theorem unmarked_text {n : Note} (h : n.ofExecution = false) : Unmarked n.text := by
  cases n with
  | step c s => exact unmarked_stepText c s
  | wouldMake | nothingToDo | issuing | issued | executed | stopped => cases h
  | _ =>
    dsimp only [text]
    repeat' with_reducible refine Unmarked.append ?_ _
    exact ⟨_, rfl, by decide⟩

theorem preview?_of_not_ofExecution {n : Note} (h : n.ofExecution = false) : n.preview? = none := by
  rw [preview?, (unmarked_text h).after?]
  rfl

theorem preview?_wouldMake (t : Transfer) : (wouldMake t).preview? = some t.text := by
  have marked : (wouldMake t).text.toList = previewMark ++ t.text.toList := String.toList_append
  rw [preview?, Text.after?_eq_some_iff.2 marked, Option.map_some, String.ofList_toList]

end Note

namespace Journal

theorem previews_append (j j' : Journal) : previews (j ++ j') = previews j ++ previews j' := by
  simp [previews, notes]

theorem previews_eq_nil {j : Journal} (h : ∀ e ∈ j, ∃ n, e = .note n ∧ n.ofExecution = false) : previews j = [] := by
  refine List.filterMap_eq_nil_iff.2 fun n hn => ?_
  obtain ⟨e, he, said⟩ := List.mem_filterMap.1 hn
  obtain ⟨m, rfl, before⟩ := h e he
  cases said
  exact Note.preview?_of_not_ofExecution before

theorem previews_wouldMake (l : List Transfer) :
    previews ((l.map Note.wouldMake).map .note) = l.map Transfer.text := by
  induction l with
  | nil => rfl
  | cons t rest ih =>
    show (Note.wouldMake t :: _).filterMap Note.preview? = _
    rw [List.filterMap_cons_some (Note.preview?_wouldMake t)]
    exact congrArg (t.text :: ·) ih

end Journal

namespace Rebalance

open Procedure Scripted

section Dry

variable {σ : Type} {b : Backend σ} {s : Session σ} {settings : TransferSettings} {r : Request}

theorem run_dryRun (b : Backend σ) (p : Plan) (s : Session σ) :
    (dryRun p).run b s = ⟨.succeeded s!"Dry run: {p.size} transfers planned" p.size 0,
      (p.transfers.map Note.wouldMake).map .note, s⟩ := by
  simp [dryRun, run_bind]

theorem run_dry (b : Backend σ) (settings : TransferSettings) (r : Request) (s : Session σ) :
    ((r.run settings true).run b s).session = ((r.plan settings).run.run b s).session ∧
      (r.run settings true).exchanges b s = (r.plan settings).run.exchanges b s := by
  cases planned : ((r.plan settings).run.run b s).value with
  | ok plan =>
    rw [(run_of_planned true planned).2, exchanges_run_of_planned true planned, exchanges_carryOut]
    exact ⟨congrArg Run.session (run_dryRun ..), List.append_nil _⟩
  | error f => exact ⟨(run_of_unplanned true planned).2, exchanges_run_of_unplanned true planned⟩

theorem value_dry_of_planned {plan : Plan} (planned : ((r.plan settings).run.run b s).value = .ok plan) :
    ((r.run settings true).run b s).value =
      .ok (.succeeded s!"Dry run: {plan.size} transfers planned" plan.size 0) := by
  rw [(run_of_planned true planned).1]
  exact congrArg (Except.ok <| Run.value ·) (run_dryRun ..)

theorem previews_dry_of_planned {plan : Plan} (planned : ((r.plan settings).run.run b s).value = .ok plan) :
    ((r.run settings true).run b s).journal.previews = plan.transfers.map Transfer.text := by
  have carried : ((carryOut plan true).run b ((r.plan settings).run.run b s).session).journal =
      (plan.transfers.map Note.wouldMake).map .note := congrArg Run.journal (run_dryRun ..)
  rw [journal_run_of_planned true planned, carried, Journal.previews_append, Journal.previews_append,
    Journal.previews_eq_nil ((inspects_plan settings r).journal b s)]
  exact (List.append_nil _).trans (Journal.previews_wouldMake plan.transfers)

theorem dry_succeeds_iff {n : Nat} :
    (∃ o, ((r.run settings true).run b s).value = .ok o ∧ o.success = true ∧ o.issued = 0 ∧ o.planned = n) ↔
      ∃ plan, ((r.plan settings).run.run b s).value = .ok plan ∧ plan.size = n := by
  constructor
  · rintro ⟨o, ended, success, -, count⟩
    obtain ⟨plan, planned⟩ := planned_of_success ended success
    rw [value_dry_of_planned planned] at ended
    cases ended
    exact ⟨plan, planned, count⟩
  · rintro ⟨plan, planned, count⟩
    exact ⟨_, value_dry_of_planned planned, rfl, rfl, count⟩

end Dry

theorem calls_issueAll {σ : Type} {b : Backend σ} {l : List Transfer} {s : Session σ}
    (taken : ((issueAll l).run b s).value.stop = none) :
    ((issueAll l).exchanges b s).map Exchange.call = l.map Transfer.call := by
  induction l generalizing s with
  | nil => rfl
  | cons t rest ih =>
    cases alive : s.cancelled with
    | true =>
      rw [(issueAll_of_cancelled rest alive).1] at taken
      cases taken
    | false =>
      rw [exchanges_issueAll alive]
      cases answer : Stop.ofAnswer (s.call b t.call).1 with
      | none =>
        rw [(issueAll_of_taken rest alive answer).1] at taken
        exact congrArg (t.call :: ·) (ih taken)
      | some stop =>
        rw [(issueAll_of_stop rest alive answer).1] at taken
        cases taken

variable {s : Session World} {settings : TransferSettings} {r : Request} {plan : Plan}

theorem calls_of_planned (planned : ((r.plan settings).run.run World.react s).value = .ok plan) :
    ((r.plan settings).run.exchanges World.react s).map Exchange.call =
      (r.plan settings).asked s.world.cluster.answers := by
  have answered : s.failure? World.react ((r.plan settings).asked s.world.cluster.answers) = none := by
    rw [value_plan] at planned
    cases failing : s.failure? World.react ((r.plan settings).asked s.world.cluster.answers) with
    | none => rfl
    | some f =>
      rw [failing] at planned
      cases planned
  rw [(reads_plan settings r).exchanges_eq_trail]
  exact Session.calls_trail_of_failure? (update?_asked_plan _ _ _) answered

theorem calls_run_of_planned (planned : ((r.plan settings).run.run World.react s).value = .ok plan)
    (alive : ((r.plan settings).run.run World.react s).session.cancelled = false)
    (spared : s.world.Spares plan.size) :
    ((r.run settings false).run World.react s).session.world.calls =
      s.world.calls ++ (r.plan settings).asked s.world.cluster.answers ++ plan.transfers.map Transfer.call := by
  have quiet := ((reads_plan settings r).undisturbed s).final s List.mem_cons_self
  have existing : ∀ t ∈ plan.transfers, t.collection ∈ s.world.cluster.names :=
    existing_of_plan ((reads_plan settings r).eval_of_run planned)
  have later : ((r.plan settings).run.run World.react s).session.world.Spares plan.size := by
    unfold World.Spares
    rw [quiet.faults, quiet.updates]
    exact spared
  have taken := issueAll_of_spared later alive (by rwa [quiet.cluster])
  rw [calls_run, exchanges_run_of_planned false planned, exchanges_carryOut, if_neg Bool.false_ne_true,
    List.map_append, calls_of_planned planned, calls_issueAll taken, List.append_assoc]

/-- A dry run sends nothing. It succeeds, with the size of the plan, if there is one, and otherwise ends as a real run
does. It says what would be done of a plan in order; a real run on the same cluster whose planning succeeds as well,
and which no fault concerns and nothing cancels after that, makes the same reads and then does just that. -/
theorem dry_run_previews (settings : TransferSettings) (r : Request) (s : Session World) :
    let planned := ((r.plan settings).run.run World.react s).value
    let dry := (r.run settings true).run World.react s
    (∀ e ∈ (r.run settings true).exchanges World.react s, e.isUpdate = false) ∧
      dry.session.world.updates = s.world.updates ∧ dry.session.world.cluster = s.world.cluster ∧
      (∀ n, (∃ o, dry.value = .ok o ∧ o.success = true ∧ o.issued = 0 ∧ o.planned = n) ↔
        ∃ plan, planned = .ok plan ∧ plan.size = n) ∧
      (∀ f, planned = .error f → dry.value = ((r.run settings false).run World.react s).value) ∧
      ∀ plan, planned = .ok plan → dry.journal.previews = plan.transfers.map Transfer.text ∧
        ∃ reads, (∀ c ∈ reads, c.update? = none) ∧ dry.session.world.calls = s.world.calls ++ reads ∧
          ∀ s' : Session World, s'.world.cluster = s.world.cluster →
            let replanning := (r.plan settings).run.run World.react s'
            (∃ plan', replanning.value = .ok plan') → replanning.session.cancelled = false →
              s'.world.Spares plan.size →
              ((r.run settings false).run World.react s').session.world.calls =
                s'.world.calls ++ reads ++ plan.transfers.map Transfer.call := by
  intro planned dry
  have reads := reads_plan settings r
  obtain ⟨session, exchanges⟩ := run_dry World.react settings r s
  have quiet := (reads.undisturbed s).final s List.mem_cons_self
  refine ⟨?_, ?_, ?_, fun n => dry_succeeds_iff, fun f failed => ?_, fun plan made => ?_⟩
  · rw [exchanges]
    exact reads.not_isUpdate
  · exact (congrArg (·.world.updates) session).trans quiet.updates
  · exact (congrArg (·.world.cluster) session).trans quiet.cluster
  · exact (run_of_unplanned true failed).1.trans (run_of_unplanned false failed).1.symm
  · have calls : dry.session.world.calls = _ := calls_run _ s
    rw [exchanges, calls_of_planned made] at calls
    refine ⟨previews_dry_of_planned made, _, reads.update?_asked _, calls, ?_⟩
    rintro s' same replanning ⟨plan', again⟩ alive spared
    have first : (r.plan settings).run.eval s.world.cluster.answers = .ok plan := reads.eval_of_run made
    have second : (r.plan settings).run.eval s'.world.cluster.answers = .ok plan' := reads.eval_of_run again
    rw [same, first] at second
    cases second
    rw [calls_run_of_planned again alive spared, same]
    rfl

end Rebalance
end ShardBalance
