import ShardBalance.Proofs.Holders
import ShardBalance.Proofs.Runs
import ShardBalance.Scripted.Basic

/-!
How a cluster in memory reacts, whatever goes wrong. Calls other than updates change nothing, and are
answered as the cluster is or not at all.
-/

namespace ShardBalance.Scripted

/-- What a cluster answers where nothing goes wrong. -/
def Cluster.answers (k : Cluster) : Answers := fun c => (Cluster.answer c k).1

/-- The updates asked for so far. -/
def World.updates (w : World) : List (String × Operation) := w.calls.filterMap Call.update?

/-- From `s` to `t` no update was made. -/
structure Undisturbed (s t : Session World) : Prop where
  cluster : t.world.cluster = s.world.cluster
  faults : t.world.faults = s.world.faults
  updates : t.world.updates = s.world.updates

theorem Undisturbed.refl (s : Session World) : Undisturbed s s := ⟨rfl, rfl, rfl⟩

theorem Undisturbed.trans {s t u : Session World} (h : Undisturbed s t) (h' : Undisturbed t u) :
    Undisturbed s u :=
  ⟨h'.cluster.trans h.cluster, h'.faults.trans h.faults, h'.updates.trans h.updates⟩

namespace World

variable {w : World} {c : Call}

@[simp] theorem cluster_record (w : World) (c : Call) : (w.record c).cluster = w.cluster := rfl

theorem updates_record (h : c.update? = none) : (w.record c).updates = w.updates := by
  simp [updates, record, h]

theorem updates_record_call (t : Transfer) :
    (w.record t.call).updates = w.updates ++ [(t.collection, t.operation)] := by
  simp [updates, record, Transfer.call, Call.update?]

theorem respond_read (h : c.update? = none) (cancels : Bool) :
    respond cancels c w = (.answered (w.cluster.answers c) cancels, w) := by
  cases c <;> first | rfl | cases h

theorem acknowledge_read (h : c.update? = none) (a : Acknowledgement) :
    acknowledge a c w = respond false c w := by
  cases c <;> first | rfl | cases h

theorem react_read (h : c.update? = none) :
    (react c w).2 = w.record c ∧
      ∀ a, (react c w).1.result = .ok a → w.cluster.answers c = .ok a := by
  have told : ∀ cancels, (respond cancels c (w.record c)).2 = w.record c ∧
      ∀ a, (respond cancels c (w.record c)).1.result = .ok a → w.cluster.answers c = .ok a := by
    intro cancels
    rw [respond_read h]
    refine ⟨rfl, fun a ha => ?_⟩
    simp only [Reaction.result, cluster_record] at ha
    cases hc : w.cluster.answers c with
    | ok b => rw [hc] at ha; cases ha; rfl
    | error f => rw [hc] at ha; cases ha
  unfold react
  split
  next => exact told false
  next f _ => exact ⟨rfl, fun a ha => by cases ha⟩
  next => exact ⟨rfl, fun a ha => by cases ha⟩
  next => exact told true
  next a _ =>
    rw [acknowledge_read h]
    exact told false
  next f _ => exact ⟨(told false).1, fun a ha => by cases f <;> cases ha⟩

theorem react_of_faultless (h : w.faults = []) (c : Call) : react c w = respond false c (w.record c) := by
  simp [react, action?, h]

end World

variable {s : Session World} {c : Call}

theorem call_undisturbed (h : c.update? = none) : Undisturbed s (s.call World.react c).2 := by
  unfold Session.call
  split
  · exact .refl s
  · have after := (World.react_read (w := s.world) h).1
    simp only
    exact ⟨by rw [after]; rfl, by rw [after]; rfl, by rw [after, World.updates_record h]⟩

theorem answers_of_call (h : c.update? = none) {a : c.Answer}
    (ok : (s.call World.react c).1 = .ok a) : s.world.cluster.answers c = .ok a := by
  unfold Session.call at ok
  split at ok
  · cases ok
  · exact (World.react_read h).2 a ok

theorem call_of_faultless (h : c.update? = none) (faultless : s.world.faults = [])
    (alive : s.cancelled = false) :
    s.call World.react c = ((s.world.cluster.answers c).mapError .client, ⟨s.world.record c, false⟩) := by
  simp [Session.call, alive, World.react_of_faultless faultless, World.respond_read h, Reaction.result,
    Reaction.cancels]

end ShardBalance.Scripted

namespace ShardBalance.Procedure.Reads

open Scripted

variable {α : Type} {p : Procedure (Except Failure α)} {s : Session World}

theorem undisturbed (h : p.Reads) (s : Session World) : Keeps World.react Undisturbed p s := by
  induction p generalizing s with
  | done r => exact .quiet .refl rfl rfl
  | enter e p ih => exact (ih h s).enter e
  | poll next => exact h.elim
  | ask c next ih =>
    refine .step (q := next (s.call World.react c).1) .trans rfl rfl (call_undisturbed h.1) ?_
    cases hr : (s.call World.react c).1 with
    | ok a => exact ih _ (h.2.2 a) _
    | error f => exact h.2.1 f ▸ .quiet .refl rfl rfl

theorem eval_of_run (h : p.Reads) {a : α} (ok : (p.run World.react s).value = .ok a) :
    p.eval s.world.cluster.answers = .ok a := by
  induction p generalizing s with
  | done r => exact ok
  | enter e p ih => exact ih h ok
  | poll next => exact h.elim
  | ask c next ih =>
    unfold run at ok
    cases hr : (s.call World.react c).1 with
    | ok b =>
      rw [hr] at ok
      have said := ih _ (h.2.2 b) ok
      rw [(call_undisturbed h.1).cluster] at said
      rw [eval, answers_of_call h.1 hr]
      exact said
    | error f =>
      rw [hr, h.2.1 f] at ok
      cases ok

theorem eval_of_failures_eq_nil (h : p.Reads) (none : p.failures World.react s = []) :
    (p.run World.react s).value = p.eval s.world.cluster.answers := by
  induction p generalizing s with
  | done r => rfl
  | enter e p ih => exact ih h none
  | poll next => exact h.elim
  | ask c next ih =>
    unfold failures at none
    unfold run eval
    cases answer : (s.call World.react c).1 with
    | ok a =>
      rw [answer] at none
      have said := ih _ (h.2.2 a) none
      rw [(call_undisturbed h.1).cluster] at said
      rw [answers_of_call h.1 answer]
      exact said
    | error f =>
      rw [answer] at none
      cases none

theorem run_of_faultless (h : p.Reads) (faultless : s.world.faults = []) (alive : s.cancelled = false) :
    (p.run World.react s).value = p.eval s.world.cluster.answers ∧
      (p.run World.react s).session.cancelled = false := by
  induction p generalizing s with
  | done r => exact ⟨rfl, alive⟩
  | enter e p ih => exact ih h faultless alive
  | poll next => exact h.elim
  | ask c next ih =>
    unfold run eval
    rw [call_of_faultless h.1 faultless alive]
    cases hc : s.world.cluster.answers c with
    | ok b => exact ih _ (h.2.2 b) faultless rfl
    | error f =>
      have stop : next ((Except.error f).mapError .client) = done (.error (.client f)) := h.2.1 _
      simp only [stop]
      exact ⟨rfl, rfl⟩

end ShardBalance.Procedure.Reads
