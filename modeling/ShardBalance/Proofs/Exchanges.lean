import ShardBalance.Proofs.Runs

/-!
The calls that a run really makes. A cancelled run makes no more of them. Either that cuts it short, in a call that
got no answer or before one that it would have made, or the run ends as if it had not been cancelled.
-/

namespace ShardBalance

/-- A call that was made, and what became of it. -/
structure Exchange where
  call : Call
  reaction : Reaction call.Answer

namespace Exchange

def cancels (e : Exchange) : Bool := e.reaction.cancels

def isUpdate (e : Exchange) : Bool := e.call.update?.isSome

end Exchange

/-- The same without the cancellation that came with an answer. -/
def Reaction.calm {α : Type} : Reaction α → Reaction α
  | answered r _ => answered r false
  | abandoned => abandoned

/-- The same backend, which cancels only calls that it does not answer. -/
def Backend.calm {σ : Type} (b : Backend σ) : Backend σ := fun c w => ((b c w).1.calm, (b c w).2)

namespace Session

variable {σ : Type} {b : Backend σ} {s : Session σ}

/-- The same session, not cancelled. -/
def calm (s : Session σ) : Session σ := ⟨s.world, false⟩

section Answered

variable {c : Call} {r : Except ClientFailure c.Answer} {cancels : Bool}

theorem call_of_answered (alive : s.cancelled = false) (told : (b c s.world).1 = .answered r cancels) :
    s.call b c = (r.mapError .client, ⟨(b c s.world).2, cancels⟩) := by
  rw [call_of_alive alive, told]
  rfl

theorem call_calm_of_answered (told : (b c s.world).1 = .answered r cancels) :
    s.calm.call b.calm c = (r.mapError .client, ⟨(b c s.world).2, false⟩) := by
  have calm : (b.calm c s.world).1 = .answered r false := congrArg Reaction.calm told
  exact call_of_answered rfl calm

end Answered

end Session

namespace Procedure

variable {σ α β : Type} {b : Backend σ} {s : Session σ}

/-- The calls that a run makes. -/
def exchanges (b : Backend σ) : Procedure α → Session σ → List Exchange
  | done _, _ => []
  | enter _ p, s => p.exchanges b s
  | poll next, s => (next s.cancelled).exchanges b s
  | ask c next, s =>
    if s.cancelled then (next (s.call b c).1).exchanges b (s.call b c).2
    else ⟨c, (b c s.world).1⟩ :: (next (s.call b c).1).exchanges b (s.call b c).2

theorem exchanges_ask_of_alive (alive : s.cancelled = false) (c : Call)
    (next : Except Failure c.Answer → Procedure α) :
    (ask c next).exchanges b s = ⟨c, (b c s.world).1⟩ ::
      (next (b c s.world).1.result).exchanges b ⟨(b c s.world).2, (b c s.world).1.cancels⟩ := by
  simp [exchanges, alive, Session.call_of_alive]

theorem exchanges_bind (p : Procedure α) (f : α → Procedure β) (s : Session σ) :
    (p >>= f).exchanges b s =
      p.exchanges b s ++ (f (p.run b s).value).exchanges b (p.run b s).session := by
  show (p.bind f).exchanges b s = _
  induction p generalizing s with
  | done a => rfl
  | enter e p ih => exact ih s
  | poll next ih => exact ih s.cancelled s
  | ask c next ih =>
    simp only [Procedure.bind, exchanges, run, ih]
    split <;> rfl

theorem exchanges_bind_of_quiet {f : α → Procedure β} (quiet : ∀ a (t : Session σ), (f a).exchanges b t = [])
    (p : Procedure α) (s : Session σ) : (p >>= f).exchanges b s = p.exchanges b s := by
  rw [exchanges_bind, quiet, List.append_nil]

theorem exchanges_of_cancelled (p : Procedure α) (h : s.cancelled = true) :
    p.exchanges b s = [] ∧ (p.run b s).session = s := by
  induction p with
  | done a => exact ⟨rfl, rfl⟩
  | enter e p ih => exact ih
  | poll next ih => exact ih s.cancelled
  | ask c next ih =>
    simp only [exchanges, run, h, ↓reduceIte, Session.call_of_cancelled h]
    exact ih _

theorem last_of_cancels (p : Procedure α) {before after : List Exchange} {e : Exchange}
    (h : p.exchanges b s = before ++ e :: after) (cancels : e.cancels = true) : after = [] := by
  induction p generalizing s before with
  | done a => cases before <;> cases h
  | enter x p ih => exact ih h
  | poll next ih => exact ih s.cancelled h
  | ask c next ih =>
    cases token : s.cancelled with
    | true =>
      rw [(exchanges_of_cancelled _ token).1] at h
      cases before <;> cases h
    | false =>
      rw [exchanges_ask_of_alive token] at h
      cases before with
      | nil =>
        obtain ⟨rfl, rfl⟩ := List.cons.inj h
        exact (exchanges_of_cancelled _ cancels).1
      | cons d before => exact ih _ (List.cons.inj h).2

theorem cancelled_run_iff (p : Procedure α) (s : Session σ) :
    (p.run b s).session.cancelled = true ↔
      s.cancelled = true ∨ ∃ e ∈ p.exchanges b s, e.cancels = true := by
  induction p generalizing s with
  | done a => simp [run, exchanges]
  | enter e p ih => exact ih s
  | poll next ih => exact ih s.cancelled s
  | ask c next ih =>
    cases token : s.cancelled with
    | true => simp [exchanges_of_cancelled (ask c next) token, token]
    | false =>
      rw [exchanges_ask_of_alive token, run, Session.call_of_alive token, ih]
      simp [Exchange.cancels]

/-- Whether a run got no answer to a call, or had to do without one that it would have made. -/
def CutShort (b : Backend σ) (p : Procedure α) (s : Session σ) : Prop :=
  (∃ e ∈ p.exchanges b s, e.reaction = .abandoned) ∨
    (p.exchanges b s).length < (p.exchanges b.calm s.calm).length

section CutShort

variable {c : Call} {next : Except Failure c.Answer → Procedure α}

theorem not_cutShort_of_quiet {p : Procedure α} (quiet : ∀ (b : Backend σ) s, p.exchanges b s = []) :
    ¬CutShort b p s := by
  simp [CutShort, quiet]

theorem cutShort_ask_of_cancelled (h : s.cancelled = true) : CutShort b (ask c next) s := by
  refine .inr ?_
  rw [(exchanges_of_cancelled _ h).1, exchanges_ask_of_alive rfl]
  exact Nat.zero_lt_succ _

theorem cutShort_ask_of_abandoned (alive : s.cancelled = false) (h : (b c s.world).1 = .abandoned) :
    CutShort b (ask c next) s := by
  refine .inl ⟨⟨c, (b c s.world).1⟩, ?_, h⟩
  rw [exchanges_ask_of_alive alive]
  exact List.mem_cons_self

theorem cutShort_ask_of_answered (alive : s.cancelled = false) {r : Except ClientFailure c.Answer} {cancels : Bool}
    (h : (b c s.world).1 = .answered r cancels) :
    CutShort b (ask c next) s ↔ CutShort b (next (r.mapError .client)) ⟨(b c s.world).2, cancels⟩ := by
  unfold CutShort
  rw [exchanges_ask_of_alive alive, exchanges_ask_of_alive rfl]
  simp [Session.calm, Backend.calm, h, Reaction.calm, Reaction.result, Reaction.cancels]

end CutShort

theorem length_exchanges_calm (p : Procedure α) (h : (p.run b s).session.cancelled = false) :
    (p.exchanges b.calm s.calm).length = (p.exchanges b s).length := by
  induction p generalizing s with
  | done a => rfl
  | enter e p ih => exact ih h
  | poll next ih =>
    cases token : s.cancelled with
    | true =>
      rw [(exchanges_of_cancelled _ token).2, token] at h
      cases h
    | false =>
      rw [run, token] at h
      simp only [exchanges, token]
      exact ih false h
  | ask c next ih =>
    cases token : s.cancelled with
    | true =>
      rw [(exchanges_of_cancelled _ token).2, token] at h
      cases h
    | false =>
      cases told : (b c s.world).1 with
      | abandoned =>
        have lost : ⟨c, (b c s.world).1⟩ ∈ (ask c next).exchanges b s := by
          rw [exchanges_ask_of_alive token]
          exact List.mem_cons_self
        have ended := (cancelled_run_iff (ask c next) s).2 (.inr ⟨_, lost, congrArg Reaction.cancels told⟩)
        rw [h] at ended
        cases ended
      | answered r cancels =>
        rw [run, Session.call_of_answered token told] at h
        simp only [exchanges, token, Session.call_of_answered token told, Session.call_calm_of_answered told]
        exact congrArg (· + 1) (ih _ h)

theorem cancelled_of_cutShort {p : Procedure α} (cut : CutShort b p s) :
    s.cancelled = true ∨ ∃ e ∈ p.exchanges b s, e.cancels = true := by
  rw [← cancelled_run_iff]
  rcases cut with ⟨e, he, lost⟩ | fewer
  · exact (cancelled_run_iff p s).2 (.inr ⟨e, he, congrArg Reaction.cancels lost⟩)
  · cases ended : (p.run b s).session.cancelled with
    | true => rfl
    | false =>
      rw [length_exchanges_calm p ended] at fewer
      exact absurd fewer (Nat.lt_irrefl _)

/-- A procedure that makes a call, if it is not cancelled. -/
def Calls : Procedure α → Prop
  | done _ => False
  | enter _ p => p.Calls
  | poll next => (next false).Calls
  | ask .. => True

/-- A procedure that looks only before calls whether it was cancelled. -/
def Prompt : Procedure α → Prop
  | done _ => True
  | enter _ p => p.Prompt
  | poll next => (next false).Calls ∧ (next false).Prompt
  | ask _ next => ∀ r, (next r).Prompt

theorem Calls.bind {p : Procedure α} (h : p.Calls) (f : α → Procedure β) : (p >>= f).Calls := by
  show (p.bind f).Calls
  induction p with
  | done a => exact h.elim
  | enter e p ih => exact ih h
  | poll next ih => exact ih false h
  | ask c next ih => trivial

theorem Calls.pos {p : Procedure α} (h : p.Calls) (alive : s.cancelled = false) :
    0 < (p.exchanges b s).length := by
  induction p with
  | done a => exact h.elim
  | enter e p ih => exact ih h
  | poll next ih =>
    rw [exchanges, alive]
    exact ih false h
  | ask c next ih =>
    rw [exchanges_ask_of_alive alive]
    exact Nat.zero_lt_succ _

namespace Prompt

theorem bind {p : Procedure α} {f : α → Procedure β} (hp : p.Prompt) (hf : ∀ a, (f a).Prompt) :
    (p >>= f).Prompt := by
  show (p.bind f).Prompt
  induction p with
  | done a => exact hf a
  | enter e p ih => exact ih hp
  | poll next ih => exact ⟨hp.1.bind f, ih false hp.2⟩
  | ask c next ih => exact fun r => ih r (hp r)

theorem noteAll (l : List Note) : (Procedure.noteAll l).Prompt := by
  induction l with
  | nil => trivial
  | cons n l ih => exact ih

theorem run_calm {p : Procedure α} (h : p.Prompt) (whole : ¬CutShort b p s) :
    p.run b.calm s.calm = { p.run b s with session := (p.run b s).session.calm } ∧
      (p.exchanges b.calm s.calm).length = (p.exchanges b s).length := by
  -- step by step the two runs ask the same, since only what cuts a run short may be answered otherwise
  induction p generalizing s with
  | done a => exact ⟨rfl, rfl⟩
  | enter e p ih =>
    obtain ⟨run, length⟩ := ih h whole
    simp only [Procedure.run, run]
    exact ⟨trivial, length⟩
  | poll next ih =>
    cases token : s.cancelled with
    | true =>
      -- not cancelled, it would have gone on to a call
      refine absurd (.inr ?_) whole
      rw [(exchanges_of_cancelled _ token).1]
      exact Calls.pos (p := poll next) h.1 rfl
    | false =>
      have run : (poll next).run b s = (next false).run b s := by rw [Procedure.run, token]
      have exchanges : (poll next).exchanges b s = (next false).exchanges b s := by
        rw [Procedure.exchanges, token]
      rw [run, exchanges]
      rw [CutShort, exchanges] at whole
      exact ih false h.2 whole
  | ask c next ih =>
    cases token : s.cancelled with
    | true => exact absurd (cutShort_ask_of_cancelled token) whole
    | false =>
      cases told : (b c s.world).1 with
      | abandoned => exact absurd (cutShort_ask_of_abandoned token told) whole
      | answered r cancels =>
        rw [cutShort_ask_of_answered token told] at whole
        obtain ⟨run, length⟩ := ih _ (h _) whole
        have real := Session.call_of_answered token told
        have calm := Session.call_calm_of_answered told
        constructor
        · rw [Procedure.run, Procedure.run, calm, real]
          exact run
        · simp only [Procedure.exchanges, token, calm, real]
          exact congrArg (· + 1) length

end Prompt

theorem cutShort_bind {p : Procedure α} (prompt : p.Prompt) (whole : ¬CutShort b p s) (f : α → Procedure β) :
    CutShort b (p >>= f) s ↔ CutShort b (f (p.run b s).value) (p.run b s).session := by
  obtain ⟨run, length⟩ := prompt.run_calm whole
  have answered : ¬∃ e ∈ p.exchanges b s, e.reaction = .abandoned := fun h => whole (.inl h)
  unfold CutShort
  rw [exchanges_bind, exchanges_bind, run, List.length_append, List.length_append, length]
  simp only [List.mem_append, or_and_right, exists_or, answered, false_or, Nat.add_lt_add_iff_left]

theorem cutShort_bind_of_quiet {f : α → Procedure β}
    (quiet : ∀ a (b : Backend σ) (t : Session σ), (f a).exchanges b t = []) (p : Procedure α) :
    CutShort b (p >>= f) s ↔ CutShort b p s := by
  unfold CutShort
  rw [exchanges_bind_of_quiet fun a => quiet a b, exchanges_bind_of_quiet fun a => quiet a b.calm]

namespace Reads

variable {p : Procedure (Except Failure α)}

theorem prompt (h : p.Reads) : p.Prompt := by
  induction p with
  | done r => trivial
  | enter e p ih => exact ih h
  | poll next => exact h.elim
  | ask c next ih =>
    intro r
    cases r with
    | ok a => exact ih _ (h.2.2 a)
    | error f =>
      rw [h.2.1 f]
      trivial

theorem not_isUpdate (h : p.Reads) : ∀ e ∈ p.exchanges b s, e.isUpdate = false := by
  induction p generalizing s with
  | done r => exact List.forall_mem_nil _
  | enter e p ih => exact ih h
  | poll next => exact h.elim
  | ask c next ih =>
    cases token : s.cancelled with
    | true =>
      rw [(exchanges_of_cancelled _ token).1]
      exact List.forall_mem_nil _
    | false =>
      rw [exchanges_ask_of_alive token]
      refine List.forall_mem_cons.2 ⟨by simp [Exchange.isUpdate, h.1], ?_⟩
      cases (b c s.world).1.result with
      | ok a => exact ih _ (h.2.2 a)
      | error f =>
        rw [h.2.1 f]
        exact List.forall_mem_nil _

theorem value_of_cutShort (h : p.Reads) (cut : CutShort b p s) : (p.run b s).value = .error .cancelled := by
  induction p generalizing s with
  | done r => exact absurd cut (not_cutShort_of_quiet fun _ _ => rfl)
  | enter e p ih => exact ih h cut
  | poll next => exact h.elim
  | ask c next ih =>
    cases token : s.cancelled with
    | true =>
      rw [run, Session.call_of_cancelled token, h.2.1]
      rfl
    | false =>
      cases told : (b c s.world).1 with
      | abandoned =>
        rw [run, Session.call_of_alive token, told]
        show ((next (.error .cancelled)).run b _).value = _
        rw [h.2.1]
        rfl
      | answered r cancels =>
        rw [cutShort_ask_of_answered token told] at cut
        rw [run, Session.call_of_answered token told]
        cases r with
        | ok a => exact ih _ (h.2.2 a) cut
        | error f =>
          have stop : next ((Except.error f).mapError .client) = done (.error (.client f)) := h.2.1 _
          rw [stop] at cut
          exact absurd cut (not_cutShort_of_quiet fun _ _ => rfl)

end Reads

end Procedure
end ShardBalance
