import ShardBalance.Proofs.Deliveries
import ShardBalance.Proofs.Safety

/-!
Histories of a cluster in memory: compound operations one after the other, each of which may fail or be
cancelled at any call, and changes of who serves and who belongs to the cluster. No call loses a replica
that counts.
-/

namespace ShardBalance.Scripted

open Cluster Procedure Rebalance

/-- What no call may undo. -/
structure Cluster.Preserved (k k' : Cluster) : Prop where
  grows : k.Grows k'
  tidy : k.Tidy → k'.Tidy
  truthful : k.Truthful → k'.Truthful

theorem Cluster.Preserved.refl (k : Cluster) : k.Preserved k := ⟨.refl k, id, id⟩

theorem Cluster.Preserved.trans {j k m : Cluster} (h : j.Preserved k) (h' : k.Preserved m) :
    j.Preserved m :=
  ⟨h.grows.trans h'.grows, fun a => h'.tidy (h.tidy a), fun a => h'.truthful (h.truthful a)⟩

theorem Cluster.Preserved.of_collections_eq {k k' : Cluster} (h : k'.collections = k.collections) :
    k.Preserved k' := by
  cases k
  cases k'
  cases h
  exact ⟨.refl _, fun tidy => ⟨tidy.names, tidy.active, tidy.once⟩, id⟩

/-- From `s` to `t` nothing was lost. -/
def Lossless (s t : Session World) : Prop := s.world.cluster.Preserved t.world.cluster

namespace Lossless

variable {s t u : Session World}

theorem trans (h : Lossless s t) (h' : Lossless t u) : Lossless s u := Cluster.Preserved.trans h h'

theorem of_cluster_eq (h : t.world.cluster = s.world.cluster) : Lossless s t := by
  unfold Lossless
  rw [h]
  exact .refl _

theorem refl (s : Session World) : Lossless s s := of_cluster_eq rfl

theorem of_undisturbed (h : Undisturbed s t) : Lossless s t := of_cluster_eq h.cluster

end Lossless

section Operations

variable {s : Session World} {t : Transfer} {l : List Transfer}

theorem lossless_call (alive : s.cancelled = false) (safe : s.world.cluster.Safe (t :: l)) :
    Lossless s (s.call World.react t.call).2 ∧
      (s.call World.react t.call).2.world.cluster.Safe l := by
  -- whatever is answered, the update was made as it was planned or not at all
  have after : (s.call World.react t.call).2.world = (World.react t.call s.world).2 :=
    congrArg (·.2.world) (Session.call_of_alive alive t.call)
  obtain ⟨-, -, same | applied⟩ := World.react_update t s.world
  · have kept := (congrArg World.cluster after).trans same
    exact ⟨.of_cluster_eq kept, kept ▸ safe.tail⟩
  · have made := (congrArg World.cluster after).trans applied
    have kept : s.world.cluster.Preserved (s.world.cluster.apply t) :=
      ⟨safe.grows, safe.tidy, fun truthful => truthful.apply t⟩
    unfold Lossless
    rw [made]
    exact ⟨kept, safe.apply⟩

theorem keeps_issueAll (safe : s.world.cluster.Safe l) : Keeps World.react Lossless (issueAll l) s := by
  induction l generalizing s with
  | nil => exact .quiet .refl rfl rfl
  | cons t rest ih =>
    cases alive : s.cancelled with
    | true =>
      obtain ⟨-, session, sessions⟩ := issueAll_of_cancelled (b := World.react) (t := t) rest alive
      exact .quiet .refl sessions session
    | false =>
      obtain ⟨first, left⟩ := lossless_call alive safe
      cases answer : Stop.ofAnswer (s.call World.react t.call).1 with
      | some stop =>
        obtain ⟨-, session, sessions⟩ := issueAll_of_stop (t := t) rest alive answer
        exact .step (q := Procedure.done ()) .trans sessions session first (.quiet .refl rfl rfl)
      | none =>
        obtain ⟨-, session, sessions⟩ := issueAll_of_taken (t := t) rest alive answer
        exact .step .trans sessions session first (ih left)

theorem keeps_carryOut {plan : Plan} (safe : s.world.cluster.Safe plan.transfers) (dry : Bool) :
    Keeps World.react Lossless (carryOut plan dry) s := by
  cases dry with
  | true =>
    refine .quiet .refl ?_ ?_
    · show (dryRun plan).sessions _ _ = []
      rw [dryRun, sessions_bind, sessions_noteAll]
      rfl
    · show ((dryRun plan).run _ _).session = s
      rw [dryRun, session_bind, session_noteAll]
      rfl
  | false =>
    obtain ⟨-, session, sessions⟩ := execute_run (b := World.react) (s := s) plan
    have issued := keeps_issueAll safe
    constructor
    · show (s :: (execute plan).sessions _ _).Pairwise _
      rw [sessions]
      exact issued.pairwise
    · show ∀ t ∈ s :: (execute plan).sessions _ _, Lossless t ((execute plan).run _ _).session
      rw [sessions, session]
      exact issued.final

theorem keeps_request (truthful : s.world.cluster.Truthful) (settings : TransferSettings) (dry : Bool)
    (r : Request) : Keeps World.react Lossless (r.run settings dry) s := by
  have reads := (reads_plan settings r).undisturbed s
  refine (reads.mono .of_undisturbed).bind .trans ?_
  cases planned : ((r.plan settings).run.run World.react s).value with
  | ok plan =>
    have evaluated := (reads_plan settings r).eval_of_run planned
    have safe : ((r.plan settings).run.run World.react s).session.world.cluster.Safe plan.transfers := by
      rw [(reads.final s List.mem_cons_self).cluster]
      exact safe_of_plan truthful evaluated
    exact ((keeps_carryOut safe dry).bind .trans (.quiet .refl rfl rfl)).enter _
  | error f =>
    by_cases fatal : f.isFatal = true
    · exact .quiet .refl (by simp [fatal]; rfl) (by simp [fatal]; rfl)
    · exact .quiet .refl (by simp [fatal]; rfl) (by simp [fatal]; rfl)

end Operations

variable {w : World}

inductive Event where
  /-- A compound operation, which may find itself cancelled from the start. -/
  | operation (r : Request) (dry cancelled : Bool)
  /-- Another peer answers from now on. -/
  | serve (p : PeerId)
  /-- The table of peers changes. -/
  | relist (t : PeerTable)

namespace Event

variable (settings : TransferSettings)

/-- The world after each step of an event. -/
def steps : Event → World → List World
  | operation r dry cancelled, w =>
    ((r.run settings dry).sessions World.react ⟨w, cancelled⟩).map Session.world
  | serve p, w => [{ w with cluster := { w.cluster with serving := p } }]
  | relist t, w => [{ w with cluster := { w.cluster with peers := t } }]

/-- The world after an event. -/
def after : Event → World → World
  | operation r dry cancelled, w => ((r.run settings dry).run World.react ⟨w, cancelled⟩).session.world
  | serve p, w => { w with cluster := { w.cluster with serving := p } }
  | relist t, w => { w with cluster := { w.cluster with peers := t } }

theorem lossless (truthful : w.cluster.Truthful) (e : Event) :
    (w :: e.steps settings w).Pairwise (fun v v' => v.cluster.Preserved v'.cluster) ∧
      ∀ v ∈ w :: e.steps settings w, v.cluster.Preserved (e.after settings w).cluster := by
  cases e with
  | operation r dry cancelled =>
    have kept := keeps_request (s := ⟨w, cancelled⟩) truthful settings dry r
    have mapped : w :: steps settings (operation r dry cancelled) w =
        ((⟨w, cancelled⟩ : Session World) ::
          (r.run settings dry).sessions World.react ⟨w, cancelled⟩).map Session.world := rfl
    rw [mapped]
    constructor
    · exact List.pairwise_map.2 kept.pairwise
    · intro v hv
      obtain ⟨s, hs, rfl⟩ := List.mem_map.1 hv
      exact kept.final s hs
  | serve p =>
    have same : w.cluster.Preserved { w.cluster with serving := p } := .of_collections_eq rfl
    simp [steps, after, same, Cluster.Preserved.refl]
  | relist t =>
    have same : w.cluster.Preserved { w.cluster with peers := t } := .of_collections_eq rfl
    simp [steps, after, same, Cluster.Preserved.refl]

end Event

/-- The world after each step of some events. -/
def history (settings : TransferSettings) : List Event → World → List World
  | [], _ => []
  | e :: rest, w => e.steps settings w ++ history settings rest (e.after settings w)

theorem pairwise_history (settings : TransferSettings) (events : List Event)
    (truthful : w.cluster.Truthful) :
    (w :: history settings events w).Pairwise fun v v' => v.cluster.Preserved v'.cluster := by
  induction events generalizing w with
  | nil => exact List.pairwise_singleton ..
  | cons e rest ih =>
    obtain ⟨within, final⟩ := e.lossless settings truthful
    have later := ih ((final w List.mem_cons_self).truthful truthful)
    exact pairwise_through within final later .trans

/-- Whatever happens to a cluster that is reported as it is, from each of its states to every later one
each shard keeps at least as many holders, and tidy collections stay so. -/
theorem history_loses_nothing (settings : TransferSettings) (events : List Event) (w : World)
    (truthful : w.cluster.Truthful) :
    let clusters := (w :: history settings events w).map World.cluster
    clusters.Pairwise (fun k k' => List.Forall₂ (fun c c' => c'.name = c.name ∧ ∀ shard,
        (c.holders shard).card ≤ (c'.holders shard).card ∧
          ((c.holders shard).Nonempty → (c'.holders shard).Nonempty)) k.collections k'.collections) ∧
      (w.cluster.Tidy → ∀ k ∈ clusters, k.Tidy) := by
  intro clusters
  have kept : clusters.Pairwise Cluster.Preserved :=
    List.pairwise_map.2 (pairwise_history settings events truthful)
  constructor
  · refine kept.imp fun {k k'} h => h.grows.imp fun c c' ⟨name, grown⟩ => ⟨name, fun shard => ?_⟩
    refine ⟨grown shard, fun held => ?_⟩
    have some : 0 < (c.holders shard).card := held.card_pos
    have left : 0 < (c'.holders shard).card := Nat.lt_of_lt_of_le some (grown shard)
    exact Finset.card_pos.1 left
  · intro tidy k hk
    rcases List.mem_cons.1 hk with rfl | hk
    · exact tidy
    · exact ((List.pairwise_cons.1 kept).1 k hk).tidy tidy

theorem two_drains_lose_nothing :
    let docs : Collection := ⟨"docs", some 2, [⟨1, 0, .active⟩, ⟨2, 0, .active⟩, ⟨1, 1, .active⟩], none⟩
    let cluster : Cluster := ⟨.ofList [(1, "http://a"), (2, "http://b"), (3, "http://c")], 1, [docs]⟩
    let drain : Event := .operation (.drain (.id 1) none) false false
    let faults : List Fault := [⟨.update, 1, .acknowledge .ok⟩, ⟨.update, 2, .lose (some (.io "reset"))⟩]
    ∀ v ∈ history .default [drain, .serve 2, drain] ⟨cluster, faults, []⟩,
      v.cluster.Tidy ∧ ∀ c ∈ v.cluster.collections, ∀ shard,
        (docs.holders shard).card ≤ (c.holders shard).card := by
  -- a drain whose second update is acknowledged but not made, and another one once a new peer serves, which makes its
  -- update but is told that it failed
  intro docs cluster drain faults v hv
  obtain ⟨grown, tidy⟩ := history_loses_nothing .default [drain, .serve 2, drain]
    ⟨cluster, faults, []⟩ (by simp [Truthful, cluster, docs])
  have later := List.mem_map_of_mem (f := World.cluster) hv
  refine ⟨tidy ⟨by decide, by decide, by decide⟩ _ (List.mem_cons_of_mem _ later), ?_⟩
  have kept := (List.pairwise_cons.1 grown).1 _ later
  generalize v.cluster.collections = l at kept
  cases kept with
  | cons same rest =>
    cases rest
    simpa using fun shard => (same.2 shard).1

end ShardBalance.Scripted
