import ShardBalance.Proofs.Courses
import ShardBalance.Proofs.Moves

/-!
Looking whether a peer is empty. Replicas count whatever their state, and the first collection with one on
the peer settles it. No answer is given that was not read, and a failure is the first that is met.
-/

namespace ShardBalance

namespace Scripted

/-- Whether no replica of a collection is on a peer. -/
def Collection.lacks (c : Collection) (p : PeerId) : Bool := c.replicas.all (·.peer ≠ p)

theorem Collection.lacks_iff {c : Collection} {p : PeerId} : c.lacks p = true ↔ ∀ x ∈ c.replicas, x.peer ≠ p := by
  simp [lacks]

theorem Collection.lacks_eq_false_iff {c : Collection} {p : PeerId} :
    c.lacks p = false ↔ ∃ x ∈ c.replicas, x.peer = p := by
  simp [lacks]

/-- What the serving peer tells of a collection: its replicas as its own, and all others as others. -/
structure Candid (serving : PeerId) (c : Collection) (report : PlacementReport) : Prop where
  reporter : report.reporter = serving
  own : ∀ x, x ∈ report.ownReplicas ↔ x ∈ c.replicas ∧ x.peer = serving
  others : ∀ x, x ∈ report.others ↔ x ∈ c.replicas ∧ x.peer ≠ serving

theorem Candid.showsNone {serving : PeerId} {c : Collection} {report : PlacementReport}
    (h : Candid serving c report) (p : PeerId) : report.showsNone p = c.lacks p := by
  rw [Bool.eq_iff_iff, Collection.lacks_iff, PlacementReport.showsNone, h.reporter]
  split
  next same =>
    have told : report.own.isEmpty = true ↔ ∀ x, x ∉ report.ownReplicas := by
      rw [List.isEmpty_iff, ← List.eq_nil_iff_forall_not_mem, PlacementReport.ownReplicas, List.map_eq_nil_iff]
    simp only [told, h.own, same, not_and]
  next other =>
    have told : (!report.others.any (·.peer = p)) = true ↔ ∀ x ∈ report.others, x.peer ≠ p := by simp
    simp only [told, h.others]
    exact ⟨fun apart x hx here => apart x ⟨hx, fun same => other (same.symm.trans here)⟩ here,
      fun apart x hx => apart x hx.1⟩

/-- All listed collections are told of as they are. -/
def Cluster.Candid (k : Cluster) : Prop :=
  ∀ c ∈ k.collections, ∃ report, k.answers (.placement c.name) = .ok report ∧ Scripted.Candid k.serving c report

theorem Cluster.Truthful.candid {k : Cluster} (truthful : k.Truthful) (distinct : k.names.Nodup) : k.Candid := by
  intro c hc
  have told : k.answers (.placement c.name) = .ok (c.placementReport k.serving) := by
    show k.lookUp c.name _ = _
    rw [Cluster.lookUp, Cluster.find?_of_mem distinct hc]
  refine ⟨_, told, ?_, fun x => ?_, fun x => ?_⟩
  · rw [Collection.placementReport, truthful c hc]
  · rw [Collection.placementReport, truthful c hc]
    constructor
    · intro hx
      obtain ⟨own, hown, rfl⟩ := List.mem_map.1 hx
      obtain ⟨⟨p, shard, state⟩, there, rfl⟩ := List.mem_map.1 hown
      obtain ⟨there, here⟩ := List.mem_filter.1 there
      obtain rfl := of_decide_eq_true here
      exact ⟨there, rfl⟩
    · rintro ⟨there, here⟩
      rcases x with ⟨p, shard, state⟩
      obtain rfl : p = k.serving := here
      exact List.mem_map.2 ⟨⟨shard, 0, state⟩, List.mem_map.2 ⟨_, List.mem_filter.2 ⟨there, by simp⟩, rfl⟩, rfl⟩
  · rw [Collection.placementReport, truthful c hc]
    simp

end Scripted

namespace Rebalance

open Attempt Scripted

variable {k : Cluster} {r : Resolved} {s : Selector}

theorem inspects_absentFrom (r : Resolved) (names : List String) : Inspects (absentFrom r names) := by
  induction names with
  | nil => exact .pure true
  | cons c rest ih =>
    refine (Inspects.read rfl).bind fun report => ?_
    split
    · exact ih
    · exact (Inspects.note rfl).bind fun _ => .pure false

theorem reads_isEmpty (s : Selector) : Reads (isEmpty s) := by
  refine Inspects.reads ((inspects_resolve s).bind fun r => (Inspects.read rfl).bind fun names =>
    (inspects_absentFrom r names).bind fun absent => ?_)
  cases absent with
  | true => exact (Inspects.note rfl).bind fun _ => .pure true
  | false => exact .pure false

/-- The reads that tell whether a peer is in some collections. -/
def survey (l : List Collection) : List Call := .peers :: .collections :: l.map fun c => .placement c.name

/-- The collections up to the first that has a replica on the peer. -/
def searched (p : PeerId) (l : List Collection) : List Collection := upTo (fun c => !c.lacks p) l

theorem goes_absentFrom {l : List Collection} (candid : ∀ c ∈ l, ∃ report,
      k.answers (.placement c.name) = .ok report ∧ Candid k.serving c report) :
    Goes k.answers (absentFrom r (l.map Collection.name)) (.ok (l.all (·.lacks r.peer)))
      ((searched r.peer l).map fun c => .placement c.name) := by
  induction l with
  | nil => exact ⟨rfl, rfl⟩
  | cons c rest ih =>
    obtain ⟨⟨report, told, shown⟩, candid⟩ := List.forall_mem_cons.1 candid
    have said : Goes k.answers (Attempt.call (.placement c.name)) (.ok report) [.placement c.name] :=
      ⟨congrArg (Except.mapError Failure.client) told, rfl⟩
    have next : Goes k.answers (if report.showsNone r.peer then absentFrom r (rest.map Collection.name)
        else Attempt.note (.notEmpty r.label c.name) >>= fun _ => pure false)
        (.ok (c.lacks r.peer && rest.all (·.lacks r.peer)))
        (if c.lacks r.peer then (searched r.peer rest).map fun c => .placement c.name else []) := by
      rw [shown.showsNone]
      cases c.lacks r.peer with
      | true => exact ih candid
      | false => exact ⟨rfl, rfl⟩
    have all : Goes k.answers (absentFrom r (c.name :: rest.map Collection.name)) _ _ := said.bind next
    cases lacks : c.lacks r.peer with
    | true => simpa [searched, upTo, lacks] using all
    | false => simpa [searched, upTo, lacks] using all

theorem goes_isEmpty (candid : k.Candid) (resolved : k.peers.resolve s = .ok r) :
    Goes k.answers (isEmpty s) (.ok (k.collections.all (·.lacks r.peer))) (survey (searched r.peer k.collections)) := by
  have found := goes_resolve (k := k) s
  rw [resolved] at found
  have listed : Goes k.answers (Attempt.call .collections) (.ok k.names) [.collections] := ⟨rfl, rfl⟩
  have all : Goes k.answers (isEmpty s) _ _ :=
    found.bind (listed.bind ((goes_absentFrom candid).bind (goes_note_if _ _ ⟨rfl, rfl⟩)))
  simpa [survey] using all

theorem goes_isEmpty_of_error {f : Failure} (unresolved : k.peers.resolve s = .error f) :
    Goes k.answers (isEmpty s) (.error f) [.peers] := by
  have found := goes_resolve (k := k) s
  rw [unresolved] at found
  exact found.fail _

theorem eval_isEmpty_of_candid (candid : k.Candid) (resolved : k.peers.resolve s = .ok r) :
    (isEmpty s).eval k.answers = .ok (decide (∀ c ∈ k.collections, ∀ x ∈ c.replicas, x.peer ≠ r.peer)) := by
  have everywhere : k.collections.all (·.lacks r.peer) =
      decide (∀ c ∈ k.collections, ∀ x ∈ c.replicas, x.peer ≠ r.peer) := by
    rw [Bool.eq_iff_iff]
    simp [Collection.lacks_iff]
  rw [(goes_isEmpty candid resolved).value, everywhere]

theorem eval_isEmpty (truthful : k.Truthful) (distinct : k.names.Nodup) (resolved : k.peers.resolve s = .ok r) :
    (isEmpty s).eval k.answers = .ok (decide (∀ c ∈ k.collections, ∀ x ∈ c.replicas, x.peer ≠ r.peer)) :=
  eval_isEmpty_of_candid (truthful.candid distinct) resolved

/-- The first listed collection with a replica on the peer that is meant, and those before it. -/
def FirstHolder (k : Cluster) (sel : Selector) (before : List Collection) (c : Collection) : Prop :=
  ∃ r after, k.peers.resolve sel = .ok r ∧ k.collections = before ++ c :: after ∧
    (∀ d ∈ before, ∀ x ∈ d.replicas, x.peer ≠ r.peer) ∧ ∃ x ∈ c.replicas, x.peer = r.peer

theorem searched_of_lacks {p : PeerId} {l : List Collection} (none : ∀ c ∈ l, ∀ x ∈ c.replicas, x.peer ≠ p) :
    searched p l = l ∧ l.all (·.lacks p) = true := by
  have lacks : ∀ c ∈ l, c.lacks p = true := fun c hc => Collection.lacks_iff.2 (none c hc)
  exact ⟨upTo_of_forall fun c hc => by simp [lacks c hc], List.all_eq_true.2 lacks⟩

theorem searched_of_first {p : PeerId} {before : List Collection} {c : Collection}
    (free : ∀ d ∈ before, ∀ x ∈ d.replicas, x.peer ≠ p) (held : ∃ x ∈ c.replicas, x.peer = p)
    (after : List Collection) :
    searched p (before ++ c :: after) = before ++ [c] ∧ (before ++ c :: after).all (·.lacks p) = false := by
  have here : c.lacks p = false := Collection.lacks_eq_false_iff.2 held
  constructor
  · exact upTo_append_cons (fun d hd => by simp [Collection.lacks_iff.2 (free d hd)]) (by simp [here]) after
  · simp [here]

section Runs

variable {t : Session World}

theorem value_isEmpty (candid : t.world.cluster.Candid) (resolved : t.world.cluster.peers.resolve s = .ok r) :
    ((isEmpty s).run.run World.react t).value =
      match t.failure? World.react (survey (searched r.peer t.world.cluster.collections)) with
      | some f => .error f
      | none => .ok (t.world.cluster.collections.all (·.lacks r.peer)) := by
  obtain ⟨value, calls⟩ := goes_isEmpty candid resolved
  rw [← calls, ← value]
  exact (reads_isEmpty s).value_run t

theorem value_isEmpty_of_error {f : Failure} (unresolved : t.world.cluster.peers.resolve s = .error f) :
    ((isEmpty s).run.run World.react t).value =
      match t.failure? World.react [.peers] with
      | some g => .error g
      | none => .error f := by
  obtain ⟨value, calls⟩ := goes_isEmpty_of_error unresolved
  rw [← calls, ← value]
  exact (reads_isEmpty s).value_run t

theorem isEmpty_eq_true_iff (candid : t.world.cluster.Candid) :
    ((isEmpty s).run.run World.react t).value = .ok true ↔ ∃ r, t.world.cluster.peers.resolve s = .ok r ∧
      t.failure? World.react (survey t.world.cluster.collections) = none ∧
        ∀ c ∈ t.world.cluster.collections, ∀ x ∈ c.replicas, x.peer ≠ r.peer := by
  constructor
  · intro said
    cases resolved : t.world.cluster.peers.resolve s with
    | error f =>
      rw [value_isEmpty_of_error resolved] at said
      split at said <;> cases said
    | ok r =>
      rw [value_isEmpty candid resolved] at said
      split at said
      next => cases said
      next answered =>
        have none : ∀ c ∈ t.world.cluster.collections, ∀ x ∈ c.replicas, x.peer ≠ r.peer := fun c hc =>
          Collection.lacks_iff.1 (List.all_eq_true.1 (Except.ok.inj said) c hc)
        rw [(searched_of_lacks none).1] at answered
        exact ⟨r, rfl, answered, none⟩
  · rintro ⟨r, resolved, answered, none⟩
    obtain ⟨search, all⟩ := searched_of_lacks none
    rw [value_isEmpty candid resolved, search, answered, all]

theorem isEmpty_eq_false_iff (candid : t.world.cluster.Candid) :
    ((isEmpty s).run.run World.react t).value = .ok false ↔
      ∃ before c, FirstHolder t.world.cluster s before c ∧ t.failure? World.react (survey (before ++ [c])) = none := by
  constructor
  · intro said
    cases resolved : t.world.cluster.peers.resolve s with
    | error f =>
      rw [value_isEmpty_of_error resolved] at said
      split at said <;> cases said
    | ok r =>
      rw [value_isEmpty candid resolved] at said
      split at said
      next => cases said
      next answered =>
        rcases forall_or_first (fun c => !c.lacks r.peer) t.world.cluster.collections with
          none | ⟨before, c, after, whole, free, held⟩
        · have all : t.world.cluster.collections.all (·.lacks r.peer) = true :=
            List.all_eq_true.2 fun c hc => by simpa using none c hc
          rw [all] at said
          cases said
        · have free : ∀ d ∈ before, ∀ x ∈ d.replicas, x.peer ≠ r.peer := fun d hd =>
            Collection.lacks_iff.1 (by simpa using free d hd)
          have held : ∃ x ∈ c.replicas, x.peer = r.peer := Collection.lacks_eq_false_iff.1 (by simpa using held)
          rw [whole, (searched_of_first free held after).1] at answered
          exact ⟨before, c, ⟨r, after, resolved, whole, free, held⟩, answered⟩
  · rintro ⟨before, c, ⟨r, after, resolved, whole, free, held⟩, answered⟩
    obtain ⟨search, some⟩ := searched_of_first free held after
    rw [value_isEmpty candid resolved, whole, search, answered, some]

theorem calls_isEmpty_of_false (candid : t.world.cluster.Candid) {before : List Collection} {c : Collection}
    (first : FirstHolder t.world.cluster s before c)
    (said : ((isEmpty s).run.run World.react t).value = .ok false) :
    ((isEmpty s).run.run World.react t).session.world.calls = t.world.calls ++ survey (before ++ [c]) := by
  obtain ⟨r, after, resolved, whole, free, held⟩ := first
  have reads := reads_isEmpty s
  have calls : (isEmpty s).run.asked t.world.cluster.answers = _ := (goes_isEmpty candid resolved).calls
  rw [value_isEmpty candid resolved] at said
  rw [Procedure.calls_run, reads.exchanges_eq_trail, Session.calls_trail_of_failure? (reads.update?_asked _), calls,
    whole, (searched_of_first free held after).1]
  rw [calls]
  split at said
  next => cases said
  next answered => exact answered

theorem isEmpty_eq_error_iff (candid : t.world.cluster.Candid) {f : Failure} :
    ((isEmpty s).run.run World.react t).value = .error f ↔ t.failure? World.react [.peers] = some f ∨
      (t.failure? World.react [.peers] = none ∧ t.world.cluster.peers.resolve s = .error f) ∨
        ∃ r, t.world.cluster.peers.resolve s = .ok r ∧
          t.failure? World.react (survey (searched r.peer t.world.cluster.collections)) = some f := by
  cases resolved : t.world.cluster.peers.resolve s with
  | error g =>
    rw [value_isEmpty_of_error resolved]
    cases t.failure? World.react [.peers] <;> simp
  | ok r =>
    rw [value_isEmpty candid resolved]
    have early : t.failure? World.react [.peers] = some f →
        t.failure? World.react (survey (searched r.peer t.world.cluster.collections)) = some f :=
      fun h => Session.failure?_append h _
    simp only [reduceCtorEq, and_false, Except.ok.injEq, exists_eq_left', false_or, or_iff_right_of_imp early]
    cases t.failure? World.react (survey (searched r.peer t.world.cluster.collections)) <;> simp

theorem isEmpty_of_faultless (candid : t.world.cluster.Candid) (faultless : t.world.faults = [])
    (alive : t.cancelled = false) (resolved : t.world.cluster.peers.resolve s = .ok r) :
    ((isEmpty s).run.run World.react t).value =
      .ok (decide (∀ c ∈ t.world.cluster.collections, ∀ x ∈ c.replicas, x.peer ≠ r.peer)) := by
  rw [((reads_isEmpty s).run_of_faultless faultless alive).1]
  exact eval_isEmpty_of_candid candid resolved

end Runs

/-- A peer is said to be empty only where all collections were read and none has a replica on it, and not to be so
only where a collection that was read has one; no later one is read then. Otherwise the first failure is raised. -/
theorem isEmpty_never_guesses (sel : Selector) (s : Session World) (candid : s.world.cluster.Candid) :
    let k := s.world.cluster
    let run := (isEmpty sel).run.run World.react s
    let fails calls := s.failure? World.react calls
    (run.value = .ok true ↔ ∃ r, k.peers.resolve sel = .ok r ∧ fails (survey k.collections) = none ∧
        ∀ c ∈ k.collections, ∀ x ∈ c.replicas, x.peer ≠ r.peer) ∧
      (run.value = .ok false ↔ ∃ before c, FirstHolder k sel before c ∧ fails (survey (before ++ [c])) = none) ∧
      (∀ before c, FirstHolder k sel before c → run.value = .ok false →
        run.session.world.calls = s.world.calls ++ survey (before ++ [c])) ∧
      (∀ f, run.value = .error f ↔ fails [.peers] = some f ∨ (fails [.peers] = none ∧ k.peers.resolve sel = .error f) ∨
        ∃ r, k.peers.resolve sel = .ok r ∧ fails (survey (searched r.peer k.collections)) = some f) ∧
      ∀ r, s.world.faults = [] → s.cancelled = false → k.peers.resolve sel = .ok r →
        run.value = .ok (decide (∀ c ∈ k.collections, ∀ x ∈ c.replicas, x.peer ≠ r.peer)) :=
  ⟨isEmpty_eq_true_iff candid, isEmpty_eq_false_iff candid, fun _ _ => calls_isEmpty_of_false candid,
    fun _ => isEmpty_eq_error_iff candid, fun _ => isEmpty_of_faultless candid⟩

theorem dead_replica_found_in_time :
    let docs : Collection := ⟨"docs", none, [⟨1, 0, .active⟩], none⟩
    let logs : Collection := ⟨"logs", none, [⟨1, 0, .active⟩, ⟨2, 1, .dead⟩], none⟩
    let rest : Collection := ⟨"rest", none, [], none⟩
    let w : World :=
      ⟨⟨.ofList [(1, "http://a"), (2, "http://b")], 1, [docs, logs, rest]⟩, [⟨.placement, 2, .fail (.io "reset")⟩], []⟩
    let run := (isEmpty (.id 2)).run.run World.react ⟨w, false⟩
    w.cluster.Candid ∧ run.value = .ok false ∧
      run.session.world.calls = [.peers, .collections, .placement "docs", .placement "logs"] := by
  -- a replica that is dead is found in the second collection, so the third, whose report would fail, is not read
  intro docs logs rest w
  have truthful : w.cluster.Truthful := by simp [Cluster.Truthful, w, docs, logs, rest]
  have candid : w.cluster.Candid := truthful.candid (by decide)
  obtain ⟨-, empty, calls, -⟩ := isEmpty_never_guesses (.id 2) ⟨w, false⟩ candid
  have first : FirstHolder w.cluster (.id 2) [docs] logs := by
    refine ⟨⟨2, "http://b", w.cluster.peers⟩, [rest], rfl, rfl, ?_, ?_⟩
    · simp [docs]
    · simp [logs]
  have said := empty.2 ⟨[docs], logs, first, by decide⟩
  exact ⟨candid, said, calls _ _ first said⟩

end Rebalance
end ShardBalance
