import ShardBalance.Proofs.Executions

/-!
Executions stop at the first transfer that is not accepted. Reactions to updates are arbitrary and may
depend on all calls before; what is sent is a prefix of the plan, and the outcome counts it exactly.
-/

namespace ShardBalance

/-- A reaction to each call in view of the calls before it. -/
abbrev Reactions := List Call → (c : Call) → Reaction c.Answer

/-- The backend that reacts so and remembers all calls. -/
def Reactions.backend (react : Reactions) : Backend (List Call) := fun c past => (react past c, past ++ [c])

namespace Rebalance

section Turns

variable (react : Reactions) (past : List Call) (token : Bool) (l : List Transfer)

/-- The reaction to the transfer at `i` of a list, all before it having been sent. -/
def reactionTo (i : Nat) : Option (Reaction Acknowledgement) :=
  match l[i]? with
  | some t => some (react (past ++ (l.take i).map Transfer.call) t.call)
  | none => none

def AcceptedAt (i : Nat) : Prop := ∃ r, reactionTo react past l i = some r ∧ r.accepts = true

/-- Whether it is cancelled when the transfer at `i` has its turn, all before it having been sent. -/
def CancelledAt (i : Nat) : Prop :=
  token = true ∨ ∃ j < i, ∃ r, reactionTo react past l j = some r ∧ r.cancels = true

variable (t : Transfer)

theorem reactionTo_zero : reactionTo react past (t :: l) 0 = some (react past t.call) := by
  simp [reactionTo]

theorem reactionTo_succ (i : Nat) :
    reactionTo react past (t :: l) (i + 1) = reactionTo react (past ++ [t.call]) l i := by
  simp [reactionTo]

theorem acceptedAt_zero : AcceptedAt react past (t :: l) 0 ↔ (react past t.call).accepts = true := by
  simp [AcceptedAt, reactionTo_zero]

theorem acceptedAt_succ (i : Nat) :
    AcceptedAt react past (t :: l) (i + 1) ↔ AcceptedAt react (past ++ [t.call]) l i := by
  simp only [AcceptedAt, reactionTo_succ]

theorem not_acceptedAt {react : Reactions} {past : List Call} {l : List Transfer} {i : Nat}
    {r : Reaction Acknowledgement} (h : reactionTo react past l i = some r) (refused : r.accepts = false) :
    ¬AcceptedAt react past l i := by
  rintro ⟨q, hq, accepted⟩
  rw [h] at hq
  cases hq
  rw [refused] at accepted
  cases accepted

theorem cancelledAt_zero : CancelledAt react past token l 0 ↔ token = true := by simp [CancelledAt]

theorem cancelledAt_succ (i : Nat) :
    CancelledAt react past false (t :: l) (i + 1) ↔
      CancelledAt react (past ++ [t.call]) (react past t.call).cancels l i := by
  simp only [CancelledAt, Bool.false_eq_true, false_or]
  constructor
  · rintro ⟨j, hj, r, hr, hc⟩
    cases j with
    | zero =>
      rw [reactionTo_zero] at hr
      cases hr
      exact Or.inl hc
    | succ j => exact Or.inr ⟨j, by omega, r, reactionTo_succ .. ▸ hr, hc⟩
  · rintro (hc | ⟨j, hj, r, hr, hc⟩)
    · exact ⟨0, by omega, _, reactionTo_zero .., hc⟩
    · exact ⟨j + 1, by omega, r, (reactionTo_succ ..).trans hr, hc⟩

/-- How a list of transfers is sent up to its first `m`. -/
structure SentUpTo (m : Nat) (i : Issued) (calls : List Call) : Prop where
  bound : m ≤ l.length
  calls : calls = past ++ (l.take m).map Transfer.call
  count : i.count = m
  alive : ∀ j < m, ¬CancelledAt react past token l j
  accepted : ∀ j, j + 1 < m → AcceptedAt react past l j
  ending :
    match i.stop with
    | none => m = l.length ∧ ∀ j < m, AcceptedAt react past l j
    | some (_, stop) =>
      (∃ j r, m = j + 1 ∧ reactionTo react past l j = some r ∧ r.accepts = false ∧
        stop.status = r.told) ∨
      m < l.length ∧ CancelledAt react past token l m ∧ (∀ j < m, AcceptedAt react past l j) ∧
        stop.status = "cancelled"

end Turns

namespace SentUpTo

variable {react : Reactions} {past : List Call} {t : Transfer} {rest : List Transfer}

theorem nil {token : Bool} : SentUpTo react past token [] 0 ⟨0, none⟩ past where
  bound := by simp
  calls := by simp
  count := rfl
  alive := by simp
  accepted := by simp
  ending := ⟨rfl, by simp⟩

theorem cancelled : SentUpTo react past true (t :: rest) 0 ⟨0, some (t, .cancelled false)⟩ past where
  bound := by simp
  calls := by simp
  count := rfl
  alive := by simp
  accepted := by simp
  ending := .inr ⟨by simp, .inl rfl, by simp, rfl⟩

theorem refused {stop : Stop} (h : Stop.ofAnswer (react past t.call).result = some stop) :
    SentUpTo react past false (t :: rest) 1 ⟨1, some (t, stop)⟩ (past ++ [t.call]) := by
  have refused : (react past t.call).accepts = false := by
    rw [← Bool.not_eq_true, ← ofAnswer_eq_none_iff, h]
    simp
  refine ⟨by simp, by simp, rfl, ?_, by simp, .inl ⟨0, _, rfl, reactionTo_zero .., refused, ?_⟩⟩
  · intro j hj
    obtain rfl : j = 0 := by omega
    simp [cancelledAt_zero]
  · exact status_of_ofAnswer h

theorem taken (taken : (react past t.call).accepts = true) {m : Nat} {i : Issued} {calls : List Call}
    (h : SentUpTo react (past ++ [t.call]) (react past t.call).cancels rest m i calls) :
    SentUpTo react past false (t :: rest) (m + 1) { i with count := i.count + 1 } calls := by
  obtain ⟨bound, calls, count, alive, accepted, ending⟩ := h
  have earlier : ∀ {n}, (∀ j < n, AcceptedAt react (past ++ [t.call]) rest j) →
      ∀ j < n + 1, AcceptedAt react past (t :: rest) j := by
    intro n h j hj
    cases j with
    | zero => exact (acceptedAt_zero ..).2 taken
    | succ j => exact (acceptedAt_succ ..).2 (h j (by omega))
  refine ⟨by simpa using bound, by rw [calls]; simp, by rw [← count], ?_, ?_, ?_⟩
  · intro j hj
    cases j with
    | zero => simp [cancelledAt_zero]
    | succ j =>
      rw [cancelledAt_succ]
      exact alive j (by omega)
  · intro j hj
    exact earlier (n := m - 1) (fun i hi => accepted i (by omega)) j (by omega)
  · cases he : i.stop with
    | none =>
      simp only [he] at ending ⊢
      exact ⟨by simpa using ending.1, earlier ending.2⟩
    | some stopped =>
      simp only [he] at ending ⊢
      rcases ending with ⟨j, r, rfl, hr, refused, status⟩ | ⟨hm, cancelled, all, status⟩
      · exact .inl ⟨j + 1, r, rfl, (reactionTo_succ ..).trans hr, refused, status⟩
      · exact .inr ⟨by simpa using hm, (cancelledAt_succ ..).2 cancelled, earlier all, status⟩

end SentUpTo

theorem issueAll_sentUpTo (react : Reactions) (past : List Call) (token : Bool) (l : List Transfer) :
    ∃ m, SentUpTo react past token l m ((issueAll l).run react.backend ⟨past, token⟩).value
      ((issueAll l).run react.backend ⟨past, token⟩).session.world := by
  induction l generalizing past token with
  | nil => exact ⟨0, .nil⟩
  | cons t rest ih =>
    cases token with
    | true =>
      obtain ⟨value, session, -⟩ := issueAll_of_cancelled (b := react.backend) (t := t) (s := ⟨past, true⟩)
        rest rfl
      rw [value, session]
      exact ⟨0, .cancelled⟩
    | false =>
      have reply : (Session.call react.backend t.call ⟨past, false⟩) =
          ((react past t.call).result, ⟨past ++ [t.call], (react past t.call).cancels⟩) := rfl
      cases hs : Stop.ofAnswer (react past t.call).result with
      | some stop =>
        obtain ⟨value, session, -⟩ := issueAll_of_stop (b := react.backend) (t := t)
          (s := ⟨past, false⟩) rest rfl (by rw [reply]; exact hs)
        rw [value, session, reply]
        exact ⟨1, .refused hs⟩
      | none =>
        obtain ⟨value, session, -⟩ := issueAll_of_taken (b := react.backend) (t := t)
          (s := ⟨past, false⟩) rest rfl (by rw [reply]; exact hs)
        rw [value, session, reply]
        obtain ⟨m, sent⟩ := ih (past ++ [t.call]) (react past t.call).cancels
        exact ⟨m + 1, sent.taken (ofAnswer_eq_none_iff.1 hs)⟩

/-- What is sent is the plan up to the first transfer that is not accepted, or up to the first that finds
the operation cancelled; the outcome tells how much that is, and what the last answer said. -/
theorem execute_fails_fast (react : Reactions) (past : List Call) (token : Bool) (p : Plan) :
    let run := (carryOut p false).run react.backend ⟨past, token⟩
    let accepted := AcceptedAt react past p.transfers
    let cancelled := CancelledAt react past token p.transfers
    ∃ m ≤ p.size,
      run.session.world =
          past ++ (p.transfers.take m).map (fun t => Call.update t.collection t.operation) ∧
        (∀ i < m, ¬cancelled i) ∧ (∀ i, i + 1 < m → accepted i) ∧
        (m < p.size → cancelled m ∨ ∃ i, m = i + 1 ∧ ¬accepted i) ∧
        run.value.planned = p.size ∧ run.value.issued = m ∧
        (run.value.success = true ↔ m = p.size ∧ ∀ i < p.size, accepted i) ∧
        (∀ i r, m = i + 1 → reactionTo react past p.transfers i = some r → r.accepts = false →
          run.value.status = r.told) ∧
        (m < p.size → (∀ i < m, accepted i) → run.value.status = "cancelled") := by
  intro run accepted cancelled
  obtain ⟨value, session, -⟩ := execute_run (b := react.backend) (s := ⟨past, token⟩) p
  obtain ⟨m, bound, calls, count, alive, taken, ending⟩ := issueAll_sentUpTo react past token p.transfers
  have sent : run.session.world = _ := congrArg Session.world session
  generalize ((issueAll p.transfers).run react.backend ⟨past, token⟩).value = i at value count ending
  have outcome : run.value = i.outcome p := value
  rw [outcome]
  refine ⟨m, bound, sent.trans calls, alive, taken, ?_⟩
  obtain ⟨n, stop⟩ := i
  cases stop with
  | none =>
    obtain ⟨rfl, all⟩ := ending
    refine ⟨fun h => absurd h (Nat.lt_irrefl _), rfl, count, ⟨fun _ => ⟨rfl, all⟩, fun _ => rfl⟩, ?_,
      fun h => absurd h (Nat.lt_irrefl _)⟩
    intro i r hm hr refused
    exact absurd (all i (by omega)) (not_acceptedAt hr refused)
  | some stopped =>
    obtain ⟨t, stop⟩ := stopped
    rcases ending with ⟨j, r, rfl, hr, refused, status⟩ | ⟨hm, hc, all, status⟩
    · have last : ¬accepted j := not_acceptedAt hr refused
      refine ⟨fun _ => .inr ⟨j, rfl, last⟩, rfl, count, ⟨nofun, fun ⟨_, all⟩ => ?_⟩, ?_,
        fun _ all => absurd (all j (by omega)) last⟩
      · exact absurd (all j (by omega)) last
      · intro i q hi hq _
        obtain rfl : j = i := by omega
        rw [hr] at hq
        cases hq
        exact status
    · refine ⟨fun _ => .inl hc, rfl, count, ⟨nofun, fun ⟨h, _⟩ => ?_⟩, ?_, fun _ _ => status⟩
      · exact absurd h (Nat.ne_of_lt hm)
      · intro i r hi hr refused
        exact absurd (all i (by omega)) (not_acceptedAt hr refused)

end Rebalance
end ShardBalance
