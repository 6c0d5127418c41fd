import Mathlib.Data.Finset.Card
import Mathlib.Data.List.Forall2
import ShardBalance.Placement
import ShardBalance.Scripted.Cluster

/-!
The peers that hold a shard of a cluster in memory, and what a transfer changes about them. Only active
replicas count.
-/

namespace ShardBalance

/-- The active replica that a transfer leaves on its target. -/
def Transfer.landed (t : Transfer) : Replica := ⟨t.target, t.shard, .active⟩

/-- What a transfer is about. -/
def Transfer.pair (t : Transfer) : String × ShardId := (t.collection, t.shard)

abbrev Transfer.call (t : Transfer) : Call := .update t.collection t.operation

theorem card_insert_erase {s : Finset PeerId} {p q : PeerId} (hp : p ∈ s) (hq : q ∉ s) :
    (insert q (s.erase p)).card = s.card := by
  have free : q ∉ s.erase p := fun h => hq (Finset.mem_of_mem_erase h)
  rw [Finset.card_insert_of_notMem free, Finset.card_erase_add_one hp]

namespace Scripted

namespace Collection

/-- The peers with an active replica of a shard. -/
def holders (c : Collection) (shard : ShardId) : Finset PeerId :=
  ((c.replicas.filter fun r => r.shard = shard ∧ r.state = .active).map Replica.peer).toFinset

theorem mem_holders {c : Collection} {shard : ShardId} {p : PeerId} :
    p ∈ c.holders shard ↔ ⟨p, shard, .active⟩ ∈ c.replicas := by
  rw [holders, List.mem_toFinset, List.mem_map]
  constructor
  · rintro ⟨r, hr, rfl⟩
    obtain ⟨hr, h⟩ := List.mem_filter.1 hr
    obtain ⟨hs, ha⟩ := of_decide_eq_true h
    rwa [← hs, ← ha]
  · exact fun h => ⟨_, List.mem_filter.2 ⟨h, by simp⟩, rfl⟩

theorem mem_placementReport {c : Collection} (h : c.report = none) (reporter : PeerId) {r : Replica} :
    r ∈ (c.placementReport reporter).replicas ↔ r ∈ c.replicas := by
  simp only [placementReport, h, PlacementReport.replicas, PlacementReport.ownReplicas, List.map_map,
    List.mem_append, List.mem_map, List.mem_filter, decide_eq_true_eq, Function.comp_apply]
  constructor
  · rintro (⟨a, ⟨ha, rfl⟩, rfl⟩ | ⟨hr, -⟩)
    · exact ha
    · exact hr
  · intro hr
    by_cases hp : r.peer = reporter
    · subst hp
      exact Or.inl ⟨r, ⟨hr, rfl⟩, rfl⟩
    · exact Or.inr ⟨hr, hp⟩

@[simp] theorem name_apply (o : Operation) (c : Collection) : (c.apply o).name = c.name := rfl

theorem replicas_apply (o : Operation) (c : Collection) :
    ∃ kept, List.Sublist kept c.replicas ∧
      (c.apply o).replicas = kept ++ [⟨o.target, o.shard, .active⟩] := by
  unfold apply
  cases o.kind with
  | copy => exact ⟨_, .refl _, rfl⟩
  | move => exact ⟨_, List.filter_sublist, rfl⟩

theorem mem_replicas_apply {o : Operation} {c : Collection} {r : Replica} :
    r ∈ (c.apply o).replicas ↔
      r = ⟨o.target, o.shard, .active⟩ ∨
        r ∈ c.replicas ∧ (o.kind = .move → ¬(r.peer = o.source ∧ r.shard = o.shard)) := by
  rcases o with ⟨_ | _, shard, source, target, method⟩ <;> simp [apply] <;> tauto

theorem holders_apply_copy {o : Operation} (h : o.kind = .copy) (c : Collection) (shard : ShardId) :
    (c.apply o).holders shard =
      if shard = o.shard then insert o.target (c.holders shard) else c.holders shard := by
  ext p
  split
  next hs =>
    subst hs
    rw [Finset.mem_insert, mem_holders, mem_holders, mem_replicas_apply]
    simp [h]
  next hs =>
    rw [mem_holders, mem_holders, mem_replicas_apply]
    simp [h, hs]

theorem holders_apply_move {o : Operation} (h : o.kind = .move) (c : Collection) (shard : ShardId) :
    (c.apply o).holders shard =
      if shard = o.shard then insert o.target ((c.holders shard).erase o.source)
      else c.holders shard := by
  ext p
  split
  next hs =>
    subst hs
    rw [Finset.mem_insert, Finset.mem_erase, mem_holders, mem_holders, mem_replicas_apply]
    simp [h, and_comm]
  next hs =>
    rw [mem_holders, mem_holders, mem_replicas_apply]
    simp [h, hs]

end Collection

namespace Cluster

variable {k k' : Cluster} {name : String} {f : Collection → Collection} {t : Transfer}

def names (k : Cluster) : List String := k.collections.map Collection.name

/-- The peers with an active replica of a shard of the first collection of a name. -/
def holders (k : Cluster) (name : String) (shard : ShardId) : Finset PeerId :=
  match k.find? name with
  | some c => c.holders shard
  | none => ∅

/-- Every collection is reported as it is. -/
def Truthful (k : Cluster) : Prop := ∀ c ∈ k.collections, c.report = none

/-- The cluster after a transfer. -/
def apply (k : Cluster) (t : Transfer) : Cluster := k.modify t.collection (Collection.apply t.operation)

theorem names_modify (hf : ∀ c, (f c).name = c.name) : (k.modify name f).names = k.names := by
  unfold names modify
  generalize k.collections = l
  induction l with
  | nil => rfl
  | cons c l ih => by_cases h : c.name = name <;> simp_all [modify.go]

theorem find?_modify_self (hf : ∀ c, (f c).name = c.name) :
    (k.modify name f).find? name = (k.find? name).map f := by
  unfold find? modify
  generalize k.collections = l
  induction l with
  | nil => rfl
  | cons c l ih => by_cases h : c.name = name <;> simp_all [modify.go]

theorem find?_modify_of_ne (hf : ∀ c, (f c).name = c.name) {other : String} (h : other ≠ name) :
    (k.modify name f).find? other = k.find? other := by
  unfold find? modify
  generalize k.collections = l
  induction l with
  | nil => rfl
  | cons c l ih =>
    by_cases hc : c.name = name
    · have : c.name ≠ other := fun ho => h (ho ▸ hc)
      simp [modify.go, hc, hf, h.symm]
    · by_cases ho : c.name = other <;> simp_all [modify.go]

theorem modify_of_find?_eq_none (h : k.find? name = none) : k.modify name f = k := by
  unfold find? modify at *
  congr
  generalize k.collections = l at h
  induction l with
  | nil => rfl
  | cons c l ih => simp_all [modify.go]

theorem mem_modify {c : Collection} (h : c ∈ (k.modify name f).collections) :
    c ∈ k.collections ∨ ∃ d, k.find? name = some d ∧ c = f d := by
  unfold find? modify at *
  simp only at h
  generalize k.collections = l at h
  induction l with
  | nil => simp [modify.go] at h
  | cons d l ih =>
    by_cases hd : d.name = name
    · simp only [modify.go, hd, ↓reduceIte, List.mem_cons] at h
      rcases h with rfl | h
      · exact Or.inr ⟨d, by simp [hd], rfl⟩
      · exact Or.inl (List.mem_cons_of_mem _ h)
    · simp only [modify.go, hd, ↓reduceIte, List.mem_cons] at h
      rcases h with rfl | h
      · exact Or.inl List.mem_cons_self
      · rcases ih h with h | ⟨e, he, rfl⟩
        · exact Or.inl (List.mem_cons_of_mem _ h)
        · exact Or.inr ⟨e, by simpa [hd] using he, rfl⟩

theorem forall₂_modify {R : Collection → Collection → Prop} (refl : ∀ c, R c c)
    (h : ∀ c, k.find? name = some c → R c (f c)) :
    List.Forall₂ R k.collections (k.modify name f).collections := by
  unfold find? modify at *
  simp only
  generalize k.collections = l at h
  induction l with
  | nil => exact .nil
  | cons c l ih =>
    by_cases hc : c.name = name
    · simp only [modify.go, hc, ↓reduceIte]
      exact .cons (h c (by simp [hc])) (List.forall₂_same.2 fun c _ => refl c)
    · simp only [modify.go, hc, ↓reduceIte]
      exact .cons (refl c) (ih fun d hd => h d (by simpa [hc] using hd))

theorem find?_mem {c : Collection} (h : k.find? name = some c) : c ∈ k.collections :=
  List.mem_of_find?_eq_some h

theorem name_of_find? {c : Collection} (h : k.find? name = some c) : c.name = name := by
  simpa using List.find?_some h

theorem find?_isSome_iff : (k.find? name).isSome = true ↔ name ∈ k.names := by
  simp [find?, names, List.find?_isSome]

@[simp] theorem names_apply : (k.apply t).names = k.names :=
  names_modify (Collection.name_apply t.operation)

theorem find?_apply :
    (k.apply t).find? t.collection = (k.find? t.collection).map (Collection.apply t.operation) :=
  find?_modify_self (Collection.name_apply t.operation)

theorem find?_apply_of_ne (h : name ≠ t.collection) : (k.apply t).find? name = k.find? name :=
  find?_modify_of_ne (Collection.name_apply t.operation) h

theorem Truthful.apply (h : k.Truthful) (t : Transfer) : (k.apply t).Truthful := fun c hc => by
  rcases mem_modify hc with hc | ⟨d, hd, rfl⟩
  · exact h c hc
  · exact h d (find?_mem hd)

theorem holders_apply_of_ne {shard : ShardId} (h : (name, shard) ≠ t.pair) :
    (k.apply t).holders name shard = k.holders name shard := by
  unfold holders
  by_cases hn : name = t.collection
  · subst hn
    have hs : shard ≠ t.operation.shard := fun hs => h (by rw [hs]; rfl)
    rw [find?_apply]
    cases k.find? t.collection with
    | none => rfl
    | some c =>
      cases hk : t.operation.kind with
      | copy => exact (Collection.holders_apply_copy hk c shard).trans (if_neg hs)
      | move => exact (Collection.holders_apply_move hk c shard).trans (if_neg hs)
  · rw [find?_apply_of_ne hn]

theorem holders_of_find? {c : Collection} (h : k.find? name = some c) (shard : ShardId) :
    k.holders name shard = c.holders shard := by
  rw [holders, h]

theorem mem_names_of_mem_holders {shard : ShardId} {p : PeerId} (h : p ∈ k.holders name shard) :
    name ∈ k.names := by
  rw [← find?_isSome_iff]
  cases hc : k.find? name with
  | none =>
    rw [holders, hc] at h
    cases h
  | some c => rfl

theorem holders_apply_copy (hk : t.kind = .copy) (hn : t.collection ∈ k.names) :
    (k.apply t).holders t.collection t.shard = insert t.target (k.holders t.collection t.shard) := by
  obtain ⟨c, hc⟩ := Option.isSome_iff_exists.1 (find?_isSome_iff.2 hn)
  unfold holders
  rw [find?_apply, hc]
  exact (Collection.holders_apply_copy hk c t.shard).trans (if_pos rfl)

theorem holders_apply_move (hk : t.kind = .move) (hn : t.collection ∈ k.names) :
    (k.apply t).holders t.collection t.shard =
      insert t.target ((k.holders t.collection t.shard).erase t.source) := by
  obtain ⟨c, hc⟩ := Option.isSome_iff_exists.1 (find?_isSome_iff.2 hn)
  unfold holders
  rw [find?_apply, hc]
  exact (Collection.holders_apply_move hk c t.shard).trans (if_pos rfl)

theorem holders_foldl_apply_of_not_mem {shard : ShardId} {l : List Transfer}
    (h : (name, shard) ∉ l.map Transfer.pair) :
    (l.foldl apply k).holders name shard = k.holders name shard := by
  induction l generalizing k with
  | nil => rfl
  | cons t rest ih =>
    rw [List.map_cons, List.mem_cons, not_or] at h
    rw [List.foldl_cons, ih h.2, holders_apply_of_ne h.1]

end Cluster
end Scripted
end ShardBalance
