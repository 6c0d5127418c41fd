import ShardBalance.Proofs.Exchanges
import ShardBalance.Proofs.Executions
import ShardBalance.Proofs.Worlds

/-!
Calls made one after the other, up to the first that does not succeed, and none once they are cancelled. What a
procedure that only reads calls is such a list, the one that the cluster's answers lead it through; the first failure
is what it comes to, or else what the answers say.
-/

namespace ShardBalance

/-- Whether what was asked for was told. -/
def Reaction.answers {α : Type} : Reaction α → Bool
  | answered (.ok _) _ => true
  | _ => false

/-- Whether a call got what it was made for: an update has to be accepted. -/
def Exchange.succeeds : Exchange → Bool
  | ⟨.update _ _, r⟩ => r.accepts
  | ⟨_, r⟩ => r.answers

theorem Exchange.succeeds_of_read {c : Call} (h : c.update? = none) (r : Reaction c.Answer) :
    (mk c r).succeeds = r.answers := by
  cases c <;> first | rfl | cases h

theorem Reaction.answers_of_result_eq_ok {α : Type} {r : Reaction α} {a : α} (h : r.result = .ok a) :
    r.answers = true := by
  rcases r with ⟨f | b, cancels⟩ | _
  · cases h
  · rfl
  · cases h

theorem Reaction.answers_of_result_eq_error {α : Type} {r : Reaction α} {f : Failure} (h : r.result = .error f) :
    r.answers = false := by
  rcases r with ⟨f | b, cancels⟩ | _
  · rfl
  · cases h
  · rfl

/-- The elements of a list up to the first that satisfies `p`, which is the last of them. -/
def upTo {α : Type} (p : α → Bool) : List α → List α
  | [] => []
  | a :: l => if p a then [a] else a :: upTo p l

section UpTo

variable {α : Type} {p : α → Bool}

theorem upTo_of_forall {l : List α} (h : ∀ a ∈ l, p a = false) : upTo p l = l := by
  induction l with
  | nil => rfl
  | cons a l ih =>
    obtain ⟨ha, hl⟩ := List.forall_mem_cons.1 h
    simp [upTo, ha, ih hl]

theorem upTo_append_cons {before : List α} (h : ∀ b ∈ before, p b = false) {a : α} (ha : p a = true)
    (after : List α) : upTo p (before ++ a :: after) = before ++ [a] := by
  induction before with
  | nil => simp [upTo, ha]
  | cons b before ih =>
    obtain ⟨hb, hl⟩ := List.forall_mem_cons.1 h
    simp [upTo, hb, ih hl]

theorem forall_or_first (p : α → Bool) (l : List α) :
    (∀ a ∈ l, p a = false) ∨
      ∃ before a after, l = before ++ a :: after ∧ (∀ b ∈ before, p b = false) ∧ p a = true := by
  cases found : l.find? p with
  | none => exact .inl fun a ha => by simpa using List.find?_eq_none.1 found a ha
  | some a =>
    obtain ⟨ha, before, after, rfl, hb⟩ := List.find?_eq_some_iff_append.1 found
    exact .inr ⟨before, a, after, rfl, fun b h => by simpa using hb b h, ha⟩

end UpTo

namespace Session

variable {σ : Type} {b : Backend σ} {s : Session σ} {c : Call} {l : List Call}

/-- What goes wrong first if calls are made one after the other. -/
def failure? (b : Backend σ) : List Call → Session σ → Option Failure
  | [], _ => none
  | c :: rest, s =>
    match (s.call b c).1 with
    | .ok _ => failure? b rest (s.call b c).2
    | .error f => some f

/-- The calls that are made of a list: up to the first that does not succeed, and none once they are cancelled. -/
def trail (b : Backend σ) : List Call → Session σ → List Exchange
  | [], _ => []
  | c :: rest, s =>
    if s.cancelled then []
    else
      let e : Exchange := ⟨c, (b c s.world).1⟩
      e :: if e.succeeds then trail b rest (s.call b c).2 else []

theorem failure?_append (h : s.failure? b l = some f) (m : List Call) : s.failure? b (l ++ m) = some f := by
  induction l generalizing s with
  | nil => cases h
  | cons c rest ih =>
    rw [List.cons_append]
    unfold failure? at h ⊢
    cases told : (s.call b c).1 with
    | ok a =>
      rw [told] at h
      exact ih h
    | error g =>
      rw [told] at h
      exact h

theorem trail_of_cancelled (h : s.cancelled = true) (l : List Call) : s.trail b l = [] := by
  cases l with
  | nil => rfl
  | cons c rest => simp [trail, h]

theorem trail_cons_of_alive (h : s.cancelled = false) (c : Call) (rest : List Call) :
    s.trail b (c :: rest) = ⟨c, (b c s.world).1⟩ ::
      if (Exchange.mk c (b c s.world).1).succeeds then (s.call b c).2.trail b rest else [] := by
  simp [trail, h]

theorem calls_trail (b : Backend σ) (l : List Call) (s : Session σ) :
    (s.trail b l).map Exchange.call <+: l := by
  induction l generalizing s with
  | nil => exact List.nil_prefix
  | cons c rest ih =>
    cases token : s.cancelled with
    | true =>
      rw [trail_of_cancelled token]
      exact List.nil_prefix
    | false =>
      rw [trail_cons_of_alive token, List.map_cons, List.cons_prefix_cons]
      refine ⟨rfl, ?_⟩
      split
      · exact ih _
      · exact List.nil_prefix

theorem last_of_fails {before after : List Exchange} {e : Exchange} (h : s.trail b l = before ++ e :: after)
    (fails : e.succeeds = false) : after = [] := by
  induction l generalizing s before with
  | nil => cases before <;> cases h
  | cons c rest ih =>
    cases token : s.cancelled with
    | true =>
      rw [trail_of_cancelled token] at h
      cases before <;> cases h
    | false =>
      rw [trail_cons_of_alive token] at h
      cases before with
      | nil =>
        obtain ⟨rfl, rfl⟩ := List.cons.inj h
        simp [fails]
      | cons d before =>
        have later := (List.cons.inj h).2
        split at later
        · exact ih later
        · cases before <;> cases later

/-- Calls after which no other is made: they were cancelled, or the last one did not succeed. -/
def HeldUp (s : Session σ) (made : List Exchange) : Prop :=
  s.cancelled = true ∨ ∃ e ∈ made.getLast?, e.succeeds = false ∨ e.cancels = true

theorem HeldUp.cons {made : List Exchange} (alive : s.cancelled = false)
    (h : (s.call b c).2.HeldUp made) (quiet : (s.call b c).2.cancelled = true → made = []) :
    s.HeldUp (⟨c, (b c s.world).1⟩ :: made) := by
  refine .inr ?_
  rcases h with cancelled | ⟨e, last, h⟩
  · rw [quiet cancelled]
    rw [call_of_alive alive] at cancelled
    exact ⟨_, rfl, .inr cancelled⟩
  · refine ⟨e, ?_, h⟩
    rw [Option.mem_def] at last ⊢
    rw [List.getLast?_cons, last]
    rfl

theorem calls_trail_eq_or_heldUp (b : Backend σ) (l : List Call) (s : Session σ) :
    (s.trail b l).map Exchange.call = l ∨ s.HeldUp (s.trail b l) := by
  induction l generalizing s with
  | nil => exact .inl rfl
  | cons c rest ih =>
    cases token : s.cancelled with
    | true => exact .inr (.inl token)
    | false =>
      rw [trail_cons_of_alive token]
      split
      next =>
        rcases ih (s.call b c).2 with all | held
        · exact .inl (congrArg (c :: ·) all)
        · exact .inr (held.cons token fun cancelled => trail_of_cancelled cancelled rest)
      next fails => exact .inr (.inr ⟨_, rfl, .inl (by simpa using fails)⟩)

theorem calls_trail_of_failure? (reads : ∀ c ∈ l, c.update? = none) (h : s.failure? b l = none) :
    (s.trail b l).map Exchange.call = l := by
  induction l generalizing s with
  | nil => rfl
  | cons c rest ih =>
    obtain ⟨read, reads⟩ := List.forall_mem_cons.1 reads
    unfold failure? at h
    cases told : (s.call b c).1 with
    | error f =>
      rw [told] at h
      cases h
    | ok a =>
      rw [told] at h
      cases token : s.cancelled with
      | true =>
        rw [call_of_cancelled token] at told
        cases told
      | false =>
        have call := congrArg Prod.fst (call_of_alive (b := b) token c)
        rw [trail_cons_of_alive token, Exchange.succeeds_of_read read,
          Reaction.answers_of_result_eq_ok (call.symm.trans told), if_pos rfl, List.map_cons, ih reads h]

theorem heldUp_of_failure? {f : Failure} (reads : ∀ c ∈ l, c.update? = none) (h : s.failure? b l = some f) :
    s.HeldUp (s.trail b l) := by
  induction l generalizing s with
  | nil => cases h
  | cons c rest ih =>
    obtain ⟨read, reads⟩ := List.forall_mem_cons.1 reads
    cases token : s.cancelled with
    | true => exact .inl token
    | false =>
      rw [trail_cons_of_alive token, Exchange.succeeds_of_read read]
      unfold failure? at h
      cases told : (s.call b c).1 with
      | ok a =>
        rw [told] at h
        split
        next => exact (ih reads h).cons token fun cancelled => trail_of_cancelled cancelled rest
        next fails => exact .inr ⟨_, rfl, .inl (by simpa [Exchange.succeeds_of_read read] using fails)⟩
      | error g =>
        rw [call_of_alive token] at told
        have fails := Reaction.answers_of_result_eq_error told
        rw [fails]
        exact .inr ⟨_, rfl, .inl ((Exchange.succeeds_of_read read _).trans fails)⟩

end Session

namespace Procedure

variable {α β : Type}

/-- The calls of a procedure that is never cancelled and gets these answers. -/
def asked (answer : Answers) : Procedure α → List Call
  | done _ => []
  | enter _ p => p.asked answer
  | poll next => (next false).asked answer
  | ask c next => c :: (next ((answer c).mapError .client)).asked answer

theorem asked_bind (answer : Answers) (p : Procedure α) (f : α → Procedure β) :
    (p >>= f).asked answer = p.asked answer ++ (f (p.eval answer)).asked answer := by
  show (p.bind f).asked answer = _
  induction p with
  | done a => rfl
  | enter e p ih => exact ih
  | poll next ih => exact ih false
  | ask c next ih => exact congrArg (c :: ·) (ih _)

theorem asked_noteAll (answer : Answers) (l : List Note) : (noteAll l).asked answer = [] := by
  induction l with
  | nil => rfl
  | cons n l ih => exact ih

theorem Reads.update?_asked {p : Procedure (Except Failure α)} (h : p.Reads) (answer : Answers) :
    ∀ c ∈ p.asked answer, c.update? = none := by
  induction p with
  | done r => exact List.forall_mem_nil _
  | enter e p ih => exact ih h
  | poll next => exact h.elim
  | ask c next ih =>
    refine List.forall_mem_cons.2 ⟨h.1, ?_⟩
    generalize (answer c).mapError Failure.client = r
    cases r with
    | ok a => exact ih _ (h.2.2 a)
    | error f =>
      rw [h.2.1 f]
      exact List.forall_mem_nil _

end Procedure

namespace Attempt

variable {α β : Type} {answer : Answers}

def asked (answer : Answers) (p : Attempt α) : List Call := Procedure.asked answer p.run

@[simp] theorem asked_pure (a : α) : asked answer (pure a) = [] := rfl

theorem asked_noteAll (l : List Note) : asked answer (noteAll l) = [] :=
  (Procedure.asked_bind answer (Procedure.noteAll l) _).trans
    ((List.append_nil _).trans (Procedure.asked_noteAll answer l))

theorem asked_bind_of_ok {p : Attempt α} {a : α} (h : eval answer p = .ok a) (f : α → Attempt β) :
    asked answer (p >>= f) = asked answer p ++ asked answer (f a) := by
  show Procedure.asked answer (p.run >>= ExceptT.bindCont f) = _
  have said : Procedure.eval answer p.run = .ok a := h
  rw [Procedure.asked_bind, said]
  rfl

theorem asked_bind_of_error {p : Attempt α} {e : Failure} (h : eval answer p = .error e) (f : α → Attempt β) :
    asked answer (p >>= f) = asked answer p := by
  show Procedure.asked answer (p.run >>= ExceptT.bindCont f) = _
  have said : Procedure.eval answer p.run = .error e := h
  rw [Procedure.asked_bind, said]
  exact List.append_nil _

/-- What an attempt comes to that is never cancelled and gets these answers, and the calls it makes for it. -/
structure Goes (answer : Answers) (p : Attempt α) (r : Except Failure α) (calls : List Call) : Prop where
  value : eval answer p = r
  calls : asked answer p = calls

namespace Goes

variable {p : Attempt α} {f : α → Attempt β} {l m : List Call}

theorem bind {a : α} {r : Except Failure β} (hp : Goes answer p (.ok a) l) (hf : Goes answer (f a) r m) :
    Goes answer (p >>= f) r (l ++ m) where
  value := by
    rw [eval_bind, hp.value]
    exact hf.value
  calls := by rw [asked_bind_of_ok hp.value, hp.calls, hf.calls]

theorem fail {e : Failure} (hp : Goes answer p (.error e) l) (f : α → Attempt β) :
    Goes answer (p >>= f) (.error e) l where
  value := by
    rw [eval_bind, hp.value]
    rfl
  calls := (asked_bind_of_error hp.value f).trans hp.calls

theorem map {r : Except Failure α} (h : Goes answer p r l) (f : α → β) :
    Goes answer (p >>= fun a => pure (f a)) (r.map f) l := by
  cases r with
  | ok a => exact List.append_nil l ▸ h.bind (f := fun a => pure (f a)) ⟨rfl, rfl⟩
  | error e => exact h.fail _

end Goes

end Attempt

theorem Scripted.World.calls_react (c : Call) (w : World) : (react c w).2.calls = w.calls ++ [c] := by
  unfold react
  split
  next => rfl
  next => rfl
  next => rfl
  next => rfl
  next a _ => cases c <;> rfl
  next => rfl

namespace Procedure

open Scripted

theorem calls_run {α : Type} (p : Procedure α) (s : Session World) :
    (p.run World.react s).session.world.calls =
      s.world.calls ++ (p.exchanges World.react s).map Exchange.call := by
  induction p generalizing s with
  | done a => exact (List.append_nil _).symm
  | enter e p ih => exact ih s
  | poll next ih => exact ih s.cancelled s
  | ask c next ih =>
    cases token : s.cancelled with
    | true =>
      rw [(exchanges_of_cancelled _ token).2, (exchanges_of_cancelled _ token).1]
      exact (List.append_nil _).symm
    | false =>
      rw [exchanges_ask_of_alive token, run, Session.call_of_alive token, ih, World.calls_react, List.append_assoc]
      rfl

namespace Reads

variable {α : Type} {p : Procedure (Except Failure α)} {s : Session World}

theorem value_run (h : p.Reads) (s : Session World) :
    (p.run World.react s).value =
      match s.failure? World.react (p.asked s.world.cluster.answers) with
      | some f => .error f
      | none => p.eval s.world.cluster.answers := by
  induction p generalizing s with
  | done r => rfl
  | enter e p ih => exact ih h s
  | poll next => exact h.elim
  | ask c next ih =>
    unfold run asked eval Session.failure?
    cases told : (s.call World.react c).1 with
    | ok a =>
      have later := ih (.ok a) (h.2.2 a) (s.call World.react c).2
      rw [(call_undisturbed h.1).cluster] at later
      rw [answers_of_call h.1 told]
      exact later
    | error f =>
      rw [h.2.1 f]
      rfl

theorem trail_asked_append (h : p.Reads) (l : List Call) (s : Session World) :
    s.trail World.react (p.asked s.world.cluster.answers ++ l) =
      p.exchanges World.react s ++
        match s.failure? World.react (p.asked s.world.cluster.answers) with
        | some _ => []
        | none => (p.run World.react s).session.trail World.react l := by
  -- reading changes nothing, so what is asked next is answered by the cluster as it was
  induction p generalizing s with
  | done r => rfl
  | enter e p ih => exact ih h s
  | poll next => exact h.elim
  | ask c next ih =>
    cases token : s.cancelled with
    | true =>
      rw [Session.trail_of_cancelled token, (exchanges_of_cancelled _ token).1]
      simp [asked, Session.failure?, Session.call_of_cancelled token]
    | false =>
      have read := Exchange.succeeds_of_read h.1 (World.react c s.world).1
      have call := congrArg Prod.fst (Session.call_of_alive (b := World.react) token c)
      unfold asked run exchanges Session.failure?
      rw [List.cons_append, Session.trail_cons_of_alive token, read, token]
      cases told : (s.call World.react c).1 with
      | ok a =>
        have later := ih (.ok a) (h.2.2 a) (s.call World.react c).2
        rw [(call_undisturbed h.1).cluster] at later
        rw [Reaction.answers_of_result_eq_ok (call.symm.trans told), answers_of_call h.1 told]
        exact congrArg (_ :: ·) later
      | error f =>
        rw [Reaction.answers_of_result_eq_error (call.symm.trans told), h.2.1 f]
        rfl

theorem exchanges_eq_trail (h : p.Reads) (s : Session World) :
    p.exchanges World.react s = s.trail World.react (p.asked s.world.cluster.answers) := by
  have all := h.trail_asked_append [] s
  rw [List.append_nil] at all
  rw [all]
  cases s.failure? World.react (p.asked s.world.cluster.answers) <;> exact (List.append_nil _).symm

end Reads
end Procedure
end ShardBalance
