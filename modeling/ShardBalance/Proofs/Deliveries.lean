import ShardBalance.Proofs.Executions
import ShardBalance.Proofs.Plans

/-!
Executions on a cluster in memory. An update changes the cluster by its transfer or not at all; unless a
fault says it was accepted without being made, or hides that it was made, what is accepted is made and nothing else.
-/

namespace ShardBalance.Scripted

/-- Whether updates are made under an action just where they are said to be accepted. -/
def Action.tellsTruth : Action → Bool
  | .acknowledge a => !a.accepted
  | .lose _ => false
  | .fail _ | .stall | .cancel => true

namespace World

variable {w : World} {t : Transfer}

/-- Every update that is said to be accepted is made, and no other. -/
def Honest (w : World) : Prop := ∀ f ∈ w.faults, f.action.tellsTruth = true

theorem honest_of_faultless (h : w.faults = []) : w.Honest := by
  intro f hf
  rw [h] at hf
  cases hf

theorem mem_of_action? {e : Endpoint} {a : Action} (h : w.action? e = some a) :
    ∃ f ∈ w.faults, f.action = a := by
  obtain ⟨f, hf, rfl⟩ := Option.map_eq_some_iff.1 h
  exact ⟨f, List.mem_of_find?_eq_some hf, rfl⟩

theorem respond_update (cancels : Bool) (t : Transfer) (w : World) :
    (respond cancels t.call w).2 = { w with cluster := w.cluster.apply t } ∧
      ((respond cancels t.call w).1.accepts = true ↔ t.collection ∈ w.cluster.names) := by
  refine ⟨rfl, ?_⟩
  rw [← Cluster.find?_isSome_iff]
  unfold respond
  cases h : w.cluster.find? t.collection <;>
    simp [Cluster.answer, Cluster.lookUp, h, Reaction.accepts, Acknowledgement.ok]

theorem react_update (t : Transfer) (w : World) :
    (react t.call w).2.faults = w.faults ∧
      (react t.call w).2.updates = w.updates ++ [(t.collection, t.operation)] ∧
      ((react t.call w).2.cluster = w.cluster ∨ (react t.call w).2.cluster = w.cluster.apply t) := by
  have noted := updates_record_call (w := w) t
  unfold react
  split
  next => exact ⟨rfl, noted, .inr rfl⟩
  next => exact ⟨rfl, noted, .inl rfl⟩
  next => exact ⟨rfl, noted, .inl rfl⟩
  next => exact ⟨rfl, noted, .inr rfl⟩
  next => exact ⟨rfl, noted, .inl rfl⟩
  next => exact ⟨rfl, noted, .inr rfl⟩

theorem cluster_react_update (honest : w.Honest) (t : Transfer) :
    (react t.call w).2.cluster =
      if (react t.call w).1.accepts then w.cluster.apply t else w.cluster := by
  have responded : ∀ cancels, (respond cancels t.call (w.record t.call)).2.cluster =
      if (respond cancels t.call (w.record t.call)).1.accepts then w.cluster.apply t
      else w.cluster := by
    intro cancels
    obtain ⟨after, accepts⟩ := respond_update cancels t (w.record t.call)
    rw [after]
    split
    next => rfl
    next refused =>
      have missing : w.cluster.find? t.collection = none := by
        rw [← Option.not_isSome_iff_eq_none, Cluster.find?_isSome_iff]
        exact fun h => refused (accepts.2 h)
      exact Cluster.modify_of_find?_eq_none missing
  unfold react
  split
  next => exact responded false
  next => rfl
  next => rfl
  next => exact responded true
  next a h =>
    obtain ⟨f, hf, named⟩ := mem_of_action? h
    have refused : a.accepted = false := by simpa [named, Action.tellsTruth] using honest f hf
    show w.cluster = if a.accepted then _ else _
    simp [refused]
  next h =>
    obtain ⟨f, hf, named⟩ := mem_of_action? h
    have told := honest f hf
    simp [named, Action.tellsTruth] at told

/-- No fault concerns any of the next `n` updates. -/
def Spares (w : World) (n : Nat) : Prop :=
  ∀ f ∈ w.faults, f.endpoint = .update → f.count < w.updates.length ∨ w.updates.length + n ≤ f.count

namespace Spares

variable {n : Nat}

theorem of_faultless (h : w.faults = []) (n : Nat) : w.Spares n := by
  intro f hf
  rw [h] at hf
  cases hf

theorem action? (h : w.Spares (n + 1)) : w.action? .update = none := by
  have count : (w.calls.filter (Endpoint.ofCall · = .update)).length = w.updates.length := by
    rw [World.updates, List.length_filterMap_eq_countP, List.countP_eq_length_filter]
    congr
    funext c
    cases c <;> rfl
  unfold World.action?
  rw [count, Option.map_eq_none_iff, List.find?_eq_none]
  intro f hf hits
  obtain ⟨endpoint, count⟩ := of_decide_eq_true hits
  rcases h f hf endpoint with before | after <;> omega

theorem react (h : w.Spares (n + 1)) (t : Transfer) :
    World.react t.call w = respond false t.call (w.record t.call) := by
  have quiet : w.action? (.ofCall t.call) = none := h.action?
  simp [World.react, quiet]

theorem next (h : w.Spares (n + 1)) (t : Transfer) : (World.react t.call w).2.Spares n := by
  obtain ⟨faults, updates, -⟩ := react_update t w
  intro f hf endpoint
  rw [faults] at hf
  rw [updates, List.length_append, List.length_singleton]
  rcases h f hf endpoint with before | after
  · exact .inl (Nat.lt_succ_of_lt before)
  · exact .inr (by omega)

end Spares

end World

open Rebalance

variable {s : Session World} {t : Transfer} {l : List Transfer}

theorem call_update (alive : s.cancelled = false) (t : Transfer) :
    (s.call World.react t.call).2.world.faults = s.world.faults ∧
      (s.call World.react t.call).2.world.updates =
        s.world.updates ++ [(t.collection, t.operation)] := by
  obtain ⟨faults, updates, -⟩ := World.react_update t s.world
  rw [Session.call_of_alive alive]
  exact ⟨faults, updates⟩

theorem cluster_call_update (honest : s.world.Honest) (alive : s.cancelled = false) (t : Transfer) :
    (s.call World.react t.call).2.world.cluster =
      if Stop.ofAnswer (s.call World.react t.call).1 = none then s.world.cluster.apply t
      else s.world.cluster := by
  rw [Session.call_of_alive alive]
  simp only [ofAnswer_eq_none_iff]
  exact World.cluster_react_update honest t

/-- How some transfers came out of which the first were made. -/
structure Delivered (l : List Transfer) (made : Nat) (s t : Session World) (i : Issued) : Prop where
  cluster : t.world.cluster = (l.take made).foldl Cluster.apply s.world.cluster
  faults : t.world.faults = s.world.faults
  updates : t.world.updates =
    s.world.updates ++ (l.take i.count).map fun t => (t.collection, t.operation)
  all : i.stop = none → made = l.length ∧ i.count = l.length
  part : i.stop ≠ none → made < l.length ∧ (i.count = made ∨ i.count = made + 1)

namespace Delivered

variable {rest : List Transfer} {u : Session World} {made : Nat} {i : Issued}

theorem nil : Delivered [] 0 s s ⟨0, none⟩ where
  cluster := rfl
  faults := rfl
  updates := (List.append_nil _).symm
  all _ := ⟨rfl, rfl⟩
  part h := absurd rfl h

theorem unsent : Delivered (t :: rest) 0 s s ⟨0, some (t, .cancelled false)⟩ where
  cluster := rfl
  faults := rfl
  updates := (List.append_nil _).symm
  all := nofun
  part _ := ⟨Nat.zero_lt_succ _, .inl rfl⟩

theorem refused (honest : s.world.Honest) (alive : s.cancelled = false) {stop : Stop}
    (answer : Stop.ofAnswer (s.call World.react t.call).1 = some stop) :
    Delivered (t :: rest) 0 s (s.call World.react t.call).2 ⟨1, some (t, stop)⟩ where
  cluster := by
    rw [cluster_call_update honest alive, answer]
    rfl
  faults := (call_update alive t).1
  updates := (call_update alive t).2
  all := nofun
  part _ := ⟨Nat.zero_lt_succ _, .inr rfl⟩

theorem taken (honest : s.world.Honest) (alive : s.cancelled = false)
    (answer : Stop.ofAnswer (s.call World.react t.call).1 = none)
    (h : Delivered rest made (s.call World.react t.call).2 u i) :
    Delivered (t :: rest) (made + 1) s u { i with count := i.count + 1 } where
  cluster := by
    rw [h.cluster, cluster_call_update honest alive, if_pos answer]
    rfl
  faults := h.faults.trans (call_update alive t).1
  updates := by
    rw [h.updates, (call_update alive t).2]
    simp
  all none := by simpa using h.all none
  part some := by simpa using h.part some

theorem progress (h : Delivered l made s u i) :
    made ≤ l.length ∧ (i.stop = none ↔ made = l.length) ∧ (i.count = made ∨ i.count = made + 1) := by
  cases stop : i.stop with
  | none =>
    obtain ⟨rfl, count⟩ := h.all stop
    exact ⟨Nat.le_refl _, ⟨fun _ => rfl, fun _ => rfl⟩, .inl count⟩
  | some stopped =>
    have stops : i.stop ≠ none := by
      rw [stop]
      nofun
    obtain ⟨less, count⟩ := h.part stops
    exact ⟨Nat.le_of_lt less, ⟨nofun, fun all => absurd all (Nat.ne_of_lt less)⟩, count⟩

end Delivered

theorem issueAll_delivers (honest : s.world.Honest) (l : List Transfer) :
    ∃ made, Delivered l made s ((issueAll l).run World.react s).session
      ((issueAll l).run World.react s).value := by
  induction l generalizing s with
  | nil => exact ⟨0, .nil⟩
  | cons t rest ih =>
    cases alive : s.cancelled with
    | true =>
      obtain ⟨value, session, -⟩ := issueAll_of_cancelled (b := World.react) (t := t) rest alive
      rw [value, session]
      exact ⟨0, .unsent⟩
    | false =>
      cases answer : Stop.ofAnswer (s.call World.react t.call).1 with
      | some stop =>
        obtain ⟨value, session, -⟩ := issueAll_of_stop (t := t) rest alive answer
        rw [value, session]
        exact ⟨0, .refused honest alive answer⟩
      | none =>
        obtain ⟨value, session, -⟩ := issueAll_of_taken (t := t) rest alive answer
        have later : (s.call World.react t.call).2.world.Honest := by
          unfold World.Honest
          rw [(call_update alive t).1]
          exact honest
        obtain ⟨made, delivered⟩ := ih later
        rw [value, session]
        exact ⟨made + 1, delivered.taken honest alive answer⟩

theorem issueAll_of_spared (spared : s.world.Spares l.length) (alive : s.cancelled = false)
    (existing : ∀ t ∈ l, t.collection ∈ s.world.cluster.names) :
    ((issueAll l).run World.react s).value.stop = none := by
  induction l generalizing s with
  | nil => rfl
  | cons t rest ih =>
    have call := Session.call_of_alive (b := World.react) alive t.call
    have react := spared.react t
    have later := spared.next t
    obtain ⟨made, accepts⟩ := World.respond_update false t (s.world.record t.call)
    have taken : (World.react t.call s.world).1.accepts = true := by
      rw [react]
      exact accepts.2 (existing t List.mem_cons_self)
    have answer : Stop.ofAnswer (s.call World.react t.call).1 = none := by
      rw [call, ofAnswer_eq_none_iff]
      exact taken
    obtain ⟨value, -, -⟩ := issueAll_of_taken (t := t) rest alive answer
    rw [value, call]
    refine ih later (by rw [react]; rfl) fun u hu => ?_
    rw [react, made]
    show u.collection ∈ (s.world.cluster.apply t).names
    rw [Cluster.names_apply]
    exact existing u (List.mem_cons_of_mem _ hu)

section Requests

variable {settings : TransferSettings} {r : Request} {plan : Plan}

theorem request_delivers (honest : s.world.Honest)
    (planned : ((r.plan settings).run.run World.react s).value = .ok plan) :
    ∃ made i, ((r.run settings false).run World.react s).value = .ok (i.outcome plan) ∧
      Delivered plan.transfers made s ((r.run settings false).run World.react s).session i := by
  obtain ⟨value, session⟩ := run_of_planned false planned
  have before := ((reads_plan settings r).undisturbed s).final s List.mem_cons_self
  generalize ((r.plan settings).run.run World.react s).session = u at *
  obtain ⟨outcome, final, -⟩ := execute_run (b := World.react) (s := u) plan
  have later : u.world.Honest := by
    unfold World.Honest
    rw [before.faults]
    exact honest
  obtain ⟨made, delivered⟩ := issueAll_delivers later plan.transfers
  refine ⟨made, ((issueAll plan.transfers).run World.react u).value, ?_, ?_⟩
  · rw [value]
    exact congrArg Except.ok outcome
  · have ended : ((r.run settings false).run World.react s).session = _ := session.trans final
    rw [ended]
    refine ⟨?_, ?_, ?_, delivered.all, delivered.part⟩
    · rw [delivered.cluster, before.cluster]
    · rw [delivered.faults, before.faults]
    · rw [delivered.updates, before.updates]

theorem request_of_faultless {w : World} (faultless : w.faults = [])
    (planned : (r.plan settings).eval w.cluster.answers = .ok plan)
    (existing : ∀ t ∈ plan.transfers, t.collection ∈ w.cluster.names) :
    ((r.plan settings).run.run World.react ⟨w, false⟩).value = .ok plan ∧
      ∃ i, ((r.run settings false).run World.react ⟨w, false⟩).value = .ok (i.outcome plan) ∧
        i.stop = none ∧ Delivered plan.transfers plan.size ⟨w, false⟩
          ((r.run settings false).run World.react ⟨w, false⟩).session i := by
  have reads := reads_plan settings r
  obtain ⟨same, alive⟩ := reads.run_of_faultless (s := ⟨w, false⟩) faultless rfl
  have told := same.trans planned
  have before := (reads.undisturbed ⟨w, false⟩).final _ List.mem_cons_self
  obtain ⟨made, i, value, delivered⟩ := request_delivers (World.honest_of_faultless faultless) told
  obtain ⟨value', -⟩ := run_of_planned false told
  obtain ⟨outcome, -, -⟩ := execute_run (b := World.react)
    (s := ((r.plan settings).run.run World.react ⟨w, false⟩).session) plan
  have taken := issueAll_of_spared (l := plan.transfers) (.of_faultless (before.faults.trans faultless) _) alive
    (by rwa [before.cluster])
  have success : (i.outcome plan).success = true := by
    have same := Except.ok.inj (value.symm.trans value')
    rw [same]
    show ((execute plan).run _ _).value.success = true
    rw [outcome]
    exact success_outcome.2 taken
  have done := success_outcome.1 success
  obtain rfl : made = plan.size := (delivered.all done).1
  exact ⟨told, i, value, done, delivered⟩

end Requests

end ShardBalance.Scripted
