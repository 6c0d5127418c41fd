import ShardBalance.Proofs.Moves

/-!
Copies onto one peer, made one after the other. They add one replica each and take none away, so a shard that
is copied gains the peer as a holder, and no other changes.
-/

namespace ShardBalance.Scripted

/-- Copies onto `p`. -/
def CopiesOnto (p : PeerId) (l : List Transfer) : Prop := ∀ t ∈ l, t.kind = .copy ∧ t.target = p

namespace Collection

variable {c : Collection} {p q : PeerId} {l : List Transfer} {shards : List ShardId} {s : ShardId}

/-- The collection with an active replica of each of some shards added on `p`. -/
def gaining (p : PeerId) (shards : List ShardId) (c : Collection) : Collection :=
  { c with replicas := c.replicas ++ shards.map fun s => ⟨p, s, .active⟩ }

@[simp] theorem gaining_nil (p : PeerId) (c : Collection) : c.gaining p [] = c := by simp [gaining]

theorem after_copies (h : CopiesOnto p l) (c : Collection) :
    c.after l = c.gaining p (l.map Transfer.shard) := by
  induction l generalizing c with
  | nil => simp
  | cons t rest ih =>
    obtain ⟨copy, rfl⟩ := h t List.mem_cons_self
    have kind : t.operation.kind = .copy := copy
    have first : c.apply t.operation = c.gaining t.target [t.shard] := by
      simp only [apply, kind]
      rfl
    rw [after_cons, ih (fun u hu => h u (List.mem_cons_of_mem _ hu)), first]
    simp [gaining]

theorem holders_gaining (p : PeerId) (shards : List ShardId) (c : Collection) (s : ShardId) :
    (c.gaining p shards).holders s = if s ∈ shards then insert p (c.holders s) else c.holders s := by
  have mem : ∀ q, q ∈ (c.gaining p shards).holders s ↔ q ∈ c.holders s ∨ p = q ∧ s ∈ shards := by
    intro q
    simp [mem_holders, gaining, and_comm]
  ext q
  rw [mem]
  split
  next gained => simp [gained, or_comm, eq_comm]
  next kept => simp [kept]

end Collection

namespace Cluster

variable {k : Cluster} {name : String} {c : Collection}

theorem find?_foldl_apply (distinct : k.names.Nodup) (l : List Transfer) (hc : k.find? name = some c) :
    (l.foldl apply k).find? name = some (c.after (l.filter (·.collection = name))) := by
  obtain rfl := name_of_find? hc
  have distinct' : (l.foldl apply k).names.Nodup := by rwa [names_foldl_apply]
  have inside : c.after (l.filter (·.collection = c.name)) ∈ (l.foldl apply k).collections := by
    rw [collections_foldl_apply distinct]
    exact List.mem_map_of_mem (f := fun c => c.after (l.filter (·.collection = c.name))) (find?_mem hc)
  have found := find?_of_mem distinct' inside
  rwa [Collection.name_after] at found

theorem holders_copies {p : PeerId} {l : List Transfer} (distinct : k.names.Nodup) (onto : CopiesOnto p l)
    (existing : name ∈ k.names) (s : ShardId) :
    (l.foldl apply k).holders name s =
      if s ∈ (l.filter (·.collection = name)).map Transfer.shard then insert p (k.holders name s)
      else k.holders name s := by
  obtain ⟨c, hc⟩ := Option.isSome_iff_exists.1 (find?_isSome_iff.2 existing)
  have own : CopiesOnto p (l.filter (·.collection = name)) := fun t ht => onto t (List.mem_filter.1 ht).1
  rw [holders_of_find? (find?_foldl_apply distinct l hc), holders_of_find? hc, Collection.after_copies own,
    Collection.holders_gaining]

end Cluster
end ShardBalance.Scripted
