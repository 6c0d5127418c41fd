import ShardBalance.Proofs.Holders

/-!
Moves off one peer, made one after the other. Each collection changes by its own moves alone: the peer's
replicas of the shards that are moved go, and the replicas that land are added in the order of the moves.
-/

namespace ShardBalance.Scripted

/-- Moves off `p` to other peers. -/
def MovesOff (p : PeerId) (l : List Transfer) : Prop :=
  ∀ t ∈ l, t.kind = .move ∧ t.source = p ∧ t.target ≠ p

theorem MovesOff.sublist {p : PeerId} {l m : List Transfer} (h : MovesOff p l) (hm : m.Sublist l) :
    MovesOff p m := fun t ht => h t (hm.subset ht)

namespace Collection

variable {c : Collection} {p q : PeerId} {l : List Transfer} {t : Transfer} {s : ShardId}

/-- A collection after transfers of its shards. -/
def after (l : List Transfer) (c : Collection) : Collection :=
  l.foldl (fun c t => c.apply t.operation) c

@[simp] theorem after_nil (c : Collection) : c.after [] = c := rfl

@[simp] theorem after_cons (t : Transfer) (l : List Transfer) (c : Collection) :
    c.after (t :: l) = (c.apply t.operation).after l := rfl

@[simp] theorem name_after (l : List Transfer) (c : Collection) : (c.after l).name = c.name := by
  induction l generalizing c with
  | nil => rfl
  | cons t rest ih => exact ih (c.apply t.operation)

theorem after_eq (l : List Transfer) (c : Collection) :
    c.after l = { c with replicas := (c.after l).replicas } := by
  induction l generalizing c with
  | nil => rfl
  | cons t rest ih => exact ih (c.apply t.operation)

theorem replicas_after (h : MovesOff p l) (c : Collection) :
    (c.after l).replicas =
      c.replicas.filter (fun r => !(r.peer = p ∧ r.shard ∈ l.map Transfer.shard)) ++
        l.map Transfer.landed := by
  induction l generalizing c with
  | nil => simp
  | cons t rest ih =>
    obtain ⟨move, source, off⟩ := h t List.mem_cons_self
    have first : (c.apply t.operation).replicas =
        c.replicas.filter (fun r => !(r.peer = p ∧ r.shard = t.shard)) ++ [t.landed] := by
      have kind : t.operation.kind = .move := move
      have source : t.operation.source = p := source
      simp only [apply, kind, source]
      rfl
    have stays : ([t.landed].filter fun r => !(r.peer = p ∧ r.shard ∈ rest.map Transfer.shard)) =
        [t.landed] := by
      simp [Transfer.landed, off]
    have later := ih (h.sublist (List.sublist_cons_self ..)) (c.apply t.operation)
    rw [after_cons, later, first, List.filter_append, List.filter_filter, stays,
      List.append_assoc]
    congr 1
    · congr 1
      funext r
      by_cases peer : r.peer = p
      · by_cases shard : r.shard = t.shard
        · simp [peer, shard]
        · simp [peer, shard]
      · simp [peer]

theorem mem_holders_after (h : MovesOff p l) :
    q ∈ (c.after l).holders s ↔
      q ∈ c.holders s ∧ ¬(q = p ∧ s ∈ l.map Transfer.shard) ∨ ∃ t ∈ l, t.target = q ∧ t.shard = s := by
  simp only [mem_holders, replicas_after h, List.mem_append, List.mem_filter]
  simp [Transfer.landed, imp_iff_not_or]

/-- Moves off `p`, each of another shard that `p` holds, to a peer that does not. -/
structure Sheds (p : PeerId) (l : List Transfer) (c : Collection) : Prop where
  off : MovesOff p l
  once : (l.map Transfer.shard).Nodup
  held : ∀ t ∈ l, p ∈ c.holders t.shard
  lacking : ∀ t ∈ l, t.target ∉ c.holders t.shard

namespace Sheds

theorem sublist {m : List Transfer} (h : c.Sheds p l) (hm : m.Sublist l) : c.Sheds p m where
  off := h.off.sublist hm
  once := (hm.map _).nodup h.once
  held t ht := h.held t (hm.subset ht)
  lacking t ht := h.lacking t (hm.subset ht)

theorem holders_of_mem (h : c.Sheds p l) (ht : t ∈ l) :
    (c.after l).holders t.shard = insert t.target ((c.holders t.shard).erase p) := by
  have moved : t.shard ∈ l.map Transfer.shard := List.mem_map_of_mem ht
  ext q
  rw [mem_holders_after h.off, Finset.mem_insert, Finset.mem_erase]
  constructor
  · rintro (⟨held, off⟩ | ⟨u, hu, rfl, same⟩)
    · exact Or.inr ⟨fun he => off ⟨he, moved⟩, held⟩
    · have : u = t := List.inj_on_of_nodup_map h.once hu ht same
      exact Or.inl (this ▸ rfl)
  · rintro (rfl | ⟨other, held⟩)
    · exact Or.inr ⟨t, ht, rfl, rfl⟩
    · exact Or.inl ⟨held, fun he => other he.1⟩

theorem holders_of_not_mem (h : c.Sheds p l) (hs : s ∉ l.map Transfer.shard) :
    (c.after l).holders s = c.holders s := by
  ext q
  rw [mem_holders_after h.off]
  constructor
  · rintro (⟨held, -⟩ | ⟨t, ht, -, rfl⟩)
    · exact held
    · exact absurd (List.mem_map_of_mem ht) hs
  · exact fun held => Or.inl ⟨held, fun he => hs he.2⟩

theorem card_holders (h : c.Sheds p l) (s : ShardId) :
    ((c.after l).holders s).card = (c.holders s).card := by
  by_cases moved : s ∈ l.map Transfer.shard
  · obtain ⟨t, ht, rfl⟩ := List.mem_map.1 moved
    rw [h.holders_of_mem ht, card_insert_erase (h.held t ht) (h.lacking t ht)]
  · rw [h.holders_of_not_mem moved]

theorem source_mem_holders (h : c.Sheds p l) :
    p ∈ (c.after l).holders s ↔ p ∈ c.holders s ∧ s ∉ l.map Transfer.shard := by
  rw [mem_holders_after h.off]
  constructor
  · rintro (⟨held, stays⟩ | ⟨t, ht, back, -⟩)
    · exact ⟨held, fun moved => stays ⟨rfl, moved⟩⟩
    · exact absurd back (h.off t ht).2.2
  · rintro ⟨held, stays⟩
    exact Or.inl ⟨held, fun moved => stays moved.2⟩

end Sheds

end Collection

namespace Cluster

variable {k : Cluster}

theorem find?_of_mem (distinct : k.names.Nodup) {c : Collection} (hc : c ∈ k.collections) :
    k.find? c.name = some c := by
  obtain ⟨d, hd⟩ := Option.isSome_iff_exists.1
    (find?_isSome_iff.2 (List.mem_map_of_mem (f := Collection.name) hc))
  have same : d = c := List.inj_on_of_nodup_map distinct (find?_mem hd) hc (name_of_find? hd)
  rw [hd, same]

theorem collections_modify (distinct : k.names.Nodup) (name : String) (f : Collection → Collection) :
    (k.modify name f).collections = k.collections.map fun c => if c.name = name then f c else c := by
  unfold modify names at *
  simp only
  generalize k.collections = l at distinct
  induction l with
  | nil => rfl
  | cons c l ih =>
    obtain ⟨new, rest⟩ := List.nodup_cons.1 distinct
    by_cases hc : c.name = name
    · have others : ∀ d ∈ l, d.name ≠ name := fun d hd he =>
        new (List.mem_map.2 ⟨d, hd, he.trans hc.symm⟩)
      have same : (l.map fun d => if d.name = name then f d else d) = l := by
        have untouched : ∀ d ∈ l, (if d.name = name then f d else d) = id d := fun d hd =>
          if_neg (others d hd)
        rw [List.map_congr_left untouched, List.map_id]
      simp [modify.go, hc, same]
    · simp [modify.go, hc, ih rest]

theorem collections_foldl_apply (distinct : k.names.Nodup) (l : List Transfer) :
    (l.foldl apply k).collections =
      k.collections.map fun c => c.after (l.filter (·.collection = c.name)) := by
  induction l generalizing k with
  | nil => simp
  | cons t rest ih =>
    have later := ih (k := k.apply t) (by rwa [names_apply])
    rw [List.foldl_cons, later, apply, collections_modify distinct, List.map_map]
    refine List.map_congr_left fun c _ => ?_
    by_cases ht : t.collection = c.name
    · simp [ht]
    · simp [ht, Ne.symm ht]

@[simp] theorem names_foldl_apply (l : List Transfer) (k : Cluster) :
    (l.foldl apply k).names = k.names := by
  induction l generalizing k with
  | nil => rfl
  | cons t rest ih => exact (ih (k.apply t)).trans names_apply

@[simp] theorem peers_foldl_apply (l : List Transfer) (k : Cluster) :
    (l.foldl apply k).peers = k.peers := by
  induction l generalizing k with
  | nil => rfl
  | cons t rest ih => exact ih (k.apply t)

theorem Truthful.foldl_apply (h : k.Truthful) (l : List Transfer) :
    (l.foldl Cluster.apply k).Truthful := by
  induction l generalizing k with
  | nil => exact h
  | cons t rest ih => exact ih (h.apply t)

end Cluster
end ShardBalance.Scripted
