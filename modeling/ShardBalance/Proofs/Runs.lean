import ShardBalance.Procedure

/-!
Runs of procedures, whatever the backend. A run is followed through the sessions after its calls. An
attempt that only reads gives up at the first call that fails, and comes to what the answers say.
-/

namespace ShardBalance

/-- The operation that a call asks for, and where. -/
def Call.update? : Call → Option (String × Operation)
  | update c o => some (c, o)
  | _ => none

/-- Whether a note tells of transfers that are made, or would be. -/
def Note.ofExecution : Note → Bool
  | wouldMake _ | nothingToDo _ | issuing _ | issued _ | executed _ | stopped .. => true
  | _ => false

/-- One answer to each call. -/
abbrev Answers := (c : Call) → Except ClientFailure c.Answer

namespace Procedure

variable {σ α β : Type} {b : Backend σ} {s : Session σ}

theorem value_bind (p : Procedure α) (f : α → Procedure β) :
    ((p >>= f).run b s).value = ((f (p.run b s).value).run b (p.run b s).session).value := by
  rw [run_bind]

theorem session_bind (p : Procedure α) (f : α → Procedure β) :
    ((p >>= f).run b s).session = ((f (p.run b s).value).run b (p.run b s).session).session := by
  rw [run_bind]

theorem journal_bind (p : Procedure α) (f : α → Procedure β) :
    ((p >>= f).run b s).journal =
      (p.run b s).journal ++ ((f (p.run b s).value).run b (p.run b s).session).journal := by
  rw [run_bind]

@[simp] theorem value_pure (a : α) : ((pure a : Procedure α).run b s).value = a := rfl

@[simp] theorem session_pure (a : α) : ((pure a : Procedure α).run b s).session = s := rfl

@[simp] theorem journal_pure (a : α) : ((pure a : Procedure α).run b s).journal = [] := rfl

@[simp] theorem session_note (n : Note) : ((note n).run b s).session = s := rfl

@[simp] theorem session_measure (m : Measurement) : ((measure m).run b s).session = s := rfl

@[simp] theorem journal_noteAll (l : List Note) : ((noteAll l).run b s).journal = l.map .note := by
  induction l with
  | nil => rfl
  | cons n l ih => exact congrArg (.note n :: ·) ih

@[simp] theorem session_noteAll (l : List Note) : ((noteAll l).run b s).session = s := by
  induction l with
  | nil => rfl
  | cons n l ih => exact ih

/-- The session after each call that a run comes to. -/
def sessions (b : Backend σ) : Procedure α → Session σ → List (Session σ)
  | done _, _ => []
  | enter _ p, s => p.sessions b s
  | poll next, s => (next s.cancelled).sessions b s
  | ask c next, s => (s.call b c).2 :: (next (s.call b c).1).sessions b (s.call b c).2

theorem sessions_bind (p : Procedure α) (f : α → Procedure β) (s : Session σ) :
    (p >>= f).sessions b s =
      p.sessions b s ++ (f (p.run b s).value).sessions b (p.run b s).session := by
  show (p.bind f).sessions b s = _
  induction p generalizing s with
  | done a => rfl
  | enter e p ih => exact ih s
  | poll next ih => exact ih s.cancelled s
  | ask c next ih => simp [Procedure.bind, sessions, run, ih]

@[simp] theorem sessions_noteAll (l : List Note) : (noteAll l).sessions b s = [] := by
  induction l with
  | nil => rfl
  | cons n l ih => exact ih

theorem pairwise_through {γ : Type} {R : γ → γ → Prop} {x y : γ} {l m : List γ}
    (hl : (x :: l).Pairwise R) (hy : ∀ z ∈ x :: l, R z y) (hm : (y :: m).Pairwise R)
    (trans : ∀ {x y z}, R x y → R y z → R x z) : (x :: (l ++ m)).Pairwise R := by
  rw [← List.cons_append, List.pairwise_append]
  refine ⟨hl, (List.pairwise_cons.1 hm).2, fun z hz a ha => ?_⟩
  exact trans (hy z hz) ((List.pairwise_cons.1 hm).1 a ha)

/-- `R` leads from each session of a run to all later ones. -/
structure Keeps (b : Backend σ) (R : Session σ → Session σ → Prop) (p : Procedure α)
    (s : Session σ) : Prop where
  pairwise : (s :: p.sessions b s).Pairwise R
  final : ∀ t ∈ s :: p.sessions b s, R t (p.run b s).session

namespace Keeps

variable {R : Session σ → Session σ → Prop}

theorem quiet (refl : ∀ s, R s s) {p : Procedure α} (hs : p.sessions b s = [])
    (hf : (p.run b s).session = s) : Keeps b R p s := by
  refine ⟨hs ▸ List.pairwise_singleton R s, fun t ht => ?_⟩
  rw [hs, List.mem_singleton] at ht
  rw [hf, ht]
  exact refl s

theorem enter {p : Procedure α} (e : Entry) (h : Keeps b R p s) : Keeps b R (Procedure.enter e p) s :=
  ⟨h.pairwise, h.final⟩

theorem step (trans : ∀ {s t u}, R s t → R t u → R s u) {p : Procedure α} {q : Procedure β}
    {u : Session σ} (hs : p.sessions b s = u :: q.sessions b u)
    (hf : (p.run b s).session = (q.run b u).session) (hu : R s u) (h : Keeps b R q u) :
    Keeps b R p s := by
  have later : ∀ t ∈ u :: q.sessions b u, R s t := by
    intro t ht
    rcases List.mem_cons.1 ht with rfl | ht
    · exact hu
    · exact trans hu ((List.pairwise_cons.1 h.pairwise).1 t ht)
  constructor
  · rw [hs]
    exact List.pairwise_cons.2 ⟨later, h.pairwise⟩
  · intro t ht
    rw [hs] at ht
    rw [hf]
    rcases List.mem_cons.1 ht with rfl | ht
    · exact trans hu (h.final _ List.mem_cons_self)
    · exact h.final t ht

theorem bind (trans : ∀ {s t u}, R s t → R t u → R s u) {p : Procedure α} {f : α → Procedure β}
    (hp : Keeps b R p s) (hf : Keeps b R (f (p.run b s).value) (p.run b s).session) :
    Keeps b R (p >>= f) s := by
  constructor
  · rw [sessions_bind]
    exact pairwise_through hp.pairwise hp.final hf.pairwise trans
  · intro t ht
    rw [sessions_bind, ← List.cons_append, List.mem_append] at ht
    rw [session_bind]
    rcases ht with ht | ht
    · exact trans (hp.final t ht) (hf.final _ List.mem_cons_self)
    · exact hf.final t (List.mem_cons_of_mem _ ht)

theorem mono {R' : Session σ → Session σ → Prop} (imp : ∀ {s t}, R s t → R' s t) {p : Procedure α}
    (h : Keeps b R p s) : Keeps b R' p s :=
  ⟨h.pairwise.imp imp, fun t ht => imp (h.final t ht)⟩

end Keeps

/-- What a procedure comes to that is never cancelled and gets these answers. -/
def eval (answer : Answers) : Procedure α → α
  | done a => a
  | enter _ p => p.eval answer
  | poll next => (next false).eval answer
  | ask c next => (next ((answer c).mapError .client)).eval answer

theorem eval_bind (answer : Answers) (p : Procedure α) (f : α → Procedure β) :
    (p >>= f).eval answer = (f (p.eval answer)).eval answer := by
  show (p.bind f).eval answer = _
  induction p with
  | done a => rfl
  | enter e p ih => exact ih
  | poll next ih => exact ih false
  | ask c next ih => exact ih _

@[simp] theorem eval_noteAll (answer : Answers) (l : List Note) : (noteAll l).eval answer = () := rfl

/-- A procedure that makes no update, does not look whether it was cancelled, and ends with the first
failure of a call. -/
def Reads : Procedure (Except Failure α) → Prop
  | done _ => True
  | enter _ p => p.Reads
  | poll _ => False
  | ask c next => c.update? = none ∧ (∀ f, next (.error f) = done (.error f)) ∧ ∀ a, (next (.ok a)).Reads

/-- The failures of the calls that a run comes to. -/
def failures (b : Backend σ) : Procedure α → Session σ → List Failure
  | done _, _ => []
  | enter _ p, s => p.failures b s
  | poll next, s => (next s.cancelled).failures b s
  | ask c next, s =>
    match (s.call b c).1 with
    | .ok a => (next (.ok a)).failures b (s.call b c).2
    | .error f => f :: (next (.error f)).failures b (s.call b c).2

theorem Reads.value_of_mem_failures {p : Procedure (Except Failure α)} (h : p.Reads) {f : Failure}
    (hf : f ∈ p.failures b s) : (p.run b s).value = .error f := by
  induction p generalizing s with
  | done r => cases hf
  | enter e p ih => exact ih h hf
  | poll next => exact h.elim
  | ask c next ih =>
    unfold failures at hf
    unfold run
    cases answer : (s.call b c).1 with
    | ok a =>
      rw [answer] at hf
      exact ih _ (h.2.2 a) hf
    | error g =>
      have stop := h.2.1 g
      simp only [answer, stop, failures, List.mem_singleton] at hf
      rw [stop, hf]
      rfl

end Procedure

namespace Attempt

variable {α β : Type}

def eval (answer : Answers) (p : Attempt α) : Except Failure α := Procedure.eval answer p.run

section Eval

variable {answer : Answers}

@[simp] theorem eval_pure (a : α) : eval answer (pure a) = .ok a := rfl

@[simp] theorem eval_throw (f : Failure) : eval answer (throw f : Attempt α) = .error f := rfl

@[simp] theorem eval_ofExcept (r : Except Failure α) : eval answer (ofExcept r) = r := rfl

@[simp] theorem eval_call (c : Call) : eval answer (call c) = (answer c).mapError .client := rfl

@[simp] theorem eval_note (n : Note) : eval answer (note n) = .ok () := rfl

@[simp] theorem eval_noteAll (l : List Note) : eval answer (noteAll l) = .ok () :=
  Procedure.eval_bind answer (Procedure.noteAll l) _

@[simp] theorem eval_bind (p : Attempt α) (f : α → Attempt β) :
    eval answer (p >>= f) = (eval answer p).bind fun a => eval answer (f a) := by
  show Procedure.eval answer (p.run >>= ExceptT.bindCont f) = _
  rw [Procedure.eval_bind]
  show _ = (Procedure.eval answer p.run).bind _
  cases Procedure.eval answer p.run <;> rfl

theorem eval_bind_eq_ok_iff {p : Attempt α} {f : α → Attempt β} {a : β} :
    eval answer (p >>= f) = .ok a ↔ ∃ x, eval answer p = .ok x ∧ eval answer (f x) = .ok a := by
  rw [eval_bind]
  cases eval answer p with
  | ok x => simp [Except.bind]
  | error e => simp [Except.bind]

theorem eval_bind_eq_error_iff {p : Attempt α} {f : α → Attempt β} {e : Failure} :
    eval answer (p >>= f) = .error e ↔
      eval answer p = .error e ∨ ∃ x, eval answer p = .ok x ∧ eval answer (f x) = .error e := by
  rw [eval_bind]
  cases eval answer p with
  | ok x => simp [Except.bind]
  | error e => simp [Except.bind]

end Eval

/-- An attempt that only reads. -/
def Reads (p : Attempt α) : Prop := p.run.Reads

theorem reads_ofExcept (r : Except Failure α) : Reads (ofExcept r) := trivial

theorem reads_call {c : Call} (h : c.update? = none) : Reads (call c) := ⟨h, fun _ => rfl, fun _ => trivial⟩

theorem reads_noteAll (l : List Note) : Reads (noteAll l) := by
  induction l with
  | nil => trivial
  | cons n l ih => exact ih

theorem Reads.bind {p : Attempt α} {f : α → Attempt β} (hp : Reads p) (hf : ∀ a, Reads (f a)) :
    Reads (p >>= f) := by
  show Procedure.Reads (Procedure.bind p.run (ExceptT.bindCont f))
  unfold Reads at hp
  generalize p.run = q at hp
  induction q with
  | done r =>
    cases r with
    | ok a => exact hf a
    | error e => trivial
  | enter e q ih => exact ih hp
  | poll next => exact hp.elim
  | ask c next ih =>
    refine ⟨hp.1, fun e => ?_, fun a => ih _ (hp.2.2 a)⟩
    simp only [hp.2.1 e]
    rfl

/-- An attempt that reads and notes down what it comes across, before anything is sent. -/
inductive Inspects : {α : Type} → Attempt α → Prop
  | result {α : Type} (r : Except Failure α) : Inspects (ofExcept r)
  | read {c : Call} (h : c.update? = none) : Inspects (call c)
  | notes {l : List Note} (h : ∀ n ∈ l, n.ofExecution = false) : Inspects (noteAll l)
  | bind {α β : Type} {p : Attempt α} {f : α → Attempt β} (hp : Inspects p) (hf : ∀ a, Inspects (f a)) :
      Inspects (p >>= f)

namespace Inspects

theorem pure (a : α) : Inspects (pure a : Attempt α) := .result (.ok a)

theorem throw (f : Failure) : Inspects (throw f : Attempt α) := .result (.error f)

theorem note {n : Note} (h : n.ofExecution = false) : Inspects (note n) := .notes (List.forall_mem_singleton.2 h)

theorem reads {p : Attempt α} (h : Inspects p) : Reads p := by
  induction h with
  | result r => exact reads_ofExcept r
  | read h => exact reads_call h
  | notes => exact reads_noteAll _
  | bind _ _ hp hf => exact hp.bind hf

theorem journal {σ : Type} {p : Attempt α} (h : Inspects p) (b : Backend σ) (s : Session σ) :
    ∀ e ∈ (p.run.run b s).journal, ∃ n, e = .note n ∧ n.ofExecution = false := by
  induction h generalizing s with
  | result r => exact List.forall_mem_nil _
  | read h => exact List.forall_mem_nil _
  | @notes l h =>
    show ∀ e ∈ ((Procedure.noteAll l >>= fun _ => Procedure.done (Except.ok ())).run b s).journal, _
    rw [Procedure.journal_bind, Procedure.journal_noteAll]
    simpa [Procedure.run] using h
  | @bind α β p f _ _ hp hf =>
    show ∀ e ∈ ((p.run >>= ExceptT.bindCont f).run b s).journal, _
    rw [Procedure.journal_bind]
    refine List.forall_mem_append.2 ⟨hp s, ?_⟩
    cases (p.run.run b s).value with
    | ok a => exact hf a _
    | error e => exact List.forall_mem_nil _

end Inspects

end Attempt
end ShardBalance
