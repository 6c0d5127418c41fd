import ShardBalance.Proofs.Moves
import ShardBalance.Proofs.Plans

/-!
Transfers that a cluster takes one after the other without loss. Every plan is such a list, and so is what
is left of it after any of its transfers, made or not.
-/

namespace ShardBalance.Scripted

/-- Transfers that are all copies, or all moves off one peer to others. -/
def Uniform (l : List Transfer) : Prop :=
  (∀ t ∈ l, t.kind = .copy) ∨ ∃ p, MovesOff p l

theorem Uniform.tail {t : Transfer} {l : List Transfer} (h : Uniform (t :: l)) : Uniform l := by
  rcases h with copies | ⟨p, moves⟩
  · exact .inl fun u hu => copies u (List.mem_cons_of_mem _ hu)
  · exact .inr ⟨p, moves.sublist (List.sublist_cons_self ..)⟩

theorem forall₂_comp {α β γ : Type} {R : α → β → Prop} {S : β → γ → Prop} {T : α → γ → Prop}
    (comp : ∀ {a b c}, R a b → S b c → T a c) {x : List α} {y : List β} {z : List γ}
    (h : List.Forall₂ R x y) (h' : List.Forall₂ S y z) : List.Forall₂ T x z := by
  induction h generalizing z with
  | nil =>
    cases h'
    exact .nil
  | cons hab _ ih =>
    cases h' with
    | cons hbc rest => exact .cons (comp hab hbc) (ih rest)

theorem forall_of_forall₂ {α β : Type} {R : α → β → Prop} {P : β → Prop} (right : ∀ {a b}, R a b → P b)
    {x : List α} {y : List β} (h : List.Forall₂ R x y) : ∀ b ∈ y, P b := by
  induction h with
  | nil => exact List.forall_mem_nil _
  | cons hab _ ih => exact List.forall_mem_cons.2 ⟨right hab, ih⟩

theorem filter_flatMap_collection {names : List String} {l : String → List Transfer}
    (distinct : names.Nodup) (named : ∀ c ∈ names, ∀ x ∈ l c, x.collection = c) {d : String}
    (hd : d ∈ names) : (names.flatMap l).filter (·.collection = d) = l d := by
  have own : ∀ c ∈ names, (l c).filter (·.collection = d) = if c = d then l d else [] := by
    intro c hc
    split
    next same =>
      subst same
      exact List.filter_eq_self.2 fun x hx => by simpa using named c hc x hx
    next other =>
      exact List.filter_eq_nil_iff.2 fun x hx => by simpa [named c hc x hx] using other
  rw [List.filter_flatMap]
  induction names with
  | nil => cases hd
  | cons c rest ih =>
    obtain ⟨new, distinct⟩ := List.nodup_cons.1 distinct
    rw [List.flatMap_cons, own c List.mem_cons_self]
    by_cases same : c = d
    · subst same
      have others : rest.flatMap (fun b => (l b).filter (·.collection = c)) = [] := by
        refine List.flatMap_eq_nil_iff.2 fun b hb => ?_
        have other : b ≠ c := fun he => new (he ▸ hb)
        rw [own b (List.mem_cons_of_mem _ hb), if_neg other]
      rw [if_pos rfl, others, List.append_nil]
    · have later : d ∈ rest := (List.mem_cons.1 hd).resolve_left (Ne.symm same)
      rw [if_neg same, List.nil_append]
      exact ih distinct (fun b hb => named b (List.mem_cons_of_mem _ hb)) later
        fun b hb => own b (List.mem_cons_of_mem _ hb)

theorem collection_mem_of_mem_flatMap {names : List String} {l : String → List Transfer}
    (named : ∀ c ∈ names, ∀ x ∈ l c, x.collection = c) : ∀ x ∈ names.flatMap l, x.collection ∈ names := by
  intro x hx
  obtain ⟨c, hc, hx⟩ := List.mem_flatMap.1 hx
  exact named c hc x hx ▸ hc

theorem filter_collection_eq_nil {names : List String} {l : List Transfer}
    (within : ∀ t ∈ l, t.collection ∈ names) {name : String} (outside : name ∉ names) :
    l.filter (·.collection = name) = [] := by
  refine List.filter_eq_nil_iff.2 fun t ht => ?_
  have elsewhere : t.collection ≠ name := fun he => outside (he ▸ within t ht)
  simpa using elsewhere

theorem flatMap_filter_collection {names : List String} {l : String → List Transfer} (distinct : names.Nodup)
    (named : ∀ c ∈ names, ∀ x ∈ l c, x.collection = c) {m : List Transfer} (sub : m.Sublist (names.flatMap l)) :
    (names.flatMap fun c => m.filter (·.collection = c)) = m := by
  induction names generalizing m with
  | nil => exact (List.sublist_nil.1 sub).symm
  | cons c rest ih =>
    obtain ⟨new, distinct⟩ := List.nodup_cons.1 distinct
    have named' : ∀ d ∈ rest, ∀ x ∈ l d, x.collection = d := fun d hd => named d (List.mem_cons_of_mem _ hd)
    obtain ⟨first, others, rfl, own, later⟩ := List.sublist_append_iff.1 sub
    have here : ∀ x ∈ first, x.collection = c := fun x hx => named c List.mem_cons_self x (own.mem hx)
    have there : ∀ x ∈ others, x.collection ∈ rest := fun x hx =>
      collection_mem_of_mem_flatMap named' x (later.mem hx)
    have elsewhere : ∀ d ∈ rest, (first ++ others).filter (·.collection = d) = others.filter (·.collection = d) := by
      intro d hd
      have other : ∀ t ∈ first, t.collection ∈ [c] := fun t ht => List.mem_singleton.2 (here t ht)
      have outside : d ∉ [c] := fun he => new (List.mem_singleton.1 he ▸ hd)
      rw [List.filter_append, filter_collection_eq_nil other outside, List.nil_append]
    rw [List.flatMap_cons, List.filter_append, filter_collection_eq_nil there new, List.append_nil,
      List.filter_eq_self.2 fun x hx => by simpa using here x hx, List.flatMap_congr elsewhere,
      ih distinct named' later]

namespace Cluster

variable {k : Cluster} {t : Transfer} {l : List Transfer}

/-- Each collection has kept its name, and each of its shards at least as many holders. -/
def Grows (k k' : Cluster) : Prop :=
  List.Forall₂ (fun c c' => c'.name = c.name ∧ ∀ s, (c.holders s).card ≤ (c'.holders s).card)
    k.collections k'.collections

theorem Grows.refl (k : Cluster) : k.Grows k := List.forall₂_same.2 fun _ _ => ⟨rfl, fun _ => Nat.le_refl _⟩

theorem Grows.trans {j k m : Cluster} (h : j.Grows k) (h' : k.Grows m) : j.Grows m :=
  forall₂_comp (fun hc hc' => ⟨hc'.1.trans hc.1, fun s => (hc.2 s).trans (hc'.2 s)⟩) h h'

/-- Collections with names of their own, all of whose replicas are active and listed once. -/
structure Tidy (k : Cluster) : Prop where
  names : k.names.Nodup
  active : ∀ c ∈ k.collections, ∀ r ∈ c.replicas, r.state = .active
  once : ∀ c ∈ k.collections, (c.replicas.map Replica.holding).Nodup

/-- Transfers of existing collections that lose nothing. Where names are distinct, no two of them are about
one shard, and none gives a peer what it holds. -/
structure Safe (k : Cluster) (l : List Transfer) : Prop where
  uniform : Uniform l
  existing : ∀ t ∈ l, t.collection ∈ k.names
  kept : ∀ t ∈ l, t.kind = .move → t.source ∈ k.holders t.collection t.shard →
    t.target ∉ k.holders t.collection t.shard
  fresh : k.names.Nodup →
    (l.map Transfer.pair).Nodup ∧ ∀ t ∈ l, t.target ∉ k.holders t.collection t.shard

theorem Safe.tail (h : k.Safe (t :: l)) : k.Safe l where
  uniform := h.uniform.tail
  existing u hu := h.existing u (List.mem_cons_of_mem _ hu)
  kept u hu := h.kept u (List.mem_cons_of_mem _ hu)
  fresh names :=
    ⟨(List.nodup_cons.1 (h.fresh names).1).2, fun u hu => (h.fresh names).2 u (List.mem_cons_of_mem _ hu)⟩

theorem Safe.apply (h : k.Safe (t :: l)) : (k.apply t).Safe l where
  uniform := h.uniform.tail
  existing u hu := by
    rw [names_apply]
    exact h.existing u (List.mem_cons_of_mem _ hu)
  kept u hu move held := by
    by_cases same : u.pair = t.pair
    · -- both move the shard off one peer, which after `t` holds it no more
      obtain ⟨hc, hs⟩ := Prod.mk.inj same
      rcases h.uniform with copies | ⟨p, moves⟩
      · rw [copies u (List.mem_cons_of_mem _ hu)] at move
        cases move
      · obtain ⟨kind, source, off⟩ := moves t List.mem_cons_self
        rw [hc, hs, holders_apply_move kind (h.existing t List.mem_cons_self),
          (moves u (List.mem_cons_of_mem _ hu)).2.1, source] at held
        rcases Finset.mem_insert.1 held with rfl | held
        · exact absurd rfl off
        · exact absurd rfl (Finset.ne_of_mem_erase held)
    · rw [holders_apply_of_ne same] at held ⊢
      exact h.kept u (List.mem_cons_of_mem _ hu) move held
  fresh names := by
    obtain ⟨nodup, lacking⟩ := h.fresh (names_apply (t := t) ▸ names)
    obtain ⟨other, nodup⟩ := List.nodup_cons.1 nodup
    refine ⟨nodup, fun u hu => ?_⟩
    have apart : (u.collection, u.shard) ≠ t.pair := fun he =>
      other (List.mem_map.2 ⟨u, hu, he⟩)
    rw [holders_apply_of_ne apart]
    exact lacking u (List.mem_cons_of_mem _ hu)

theorem card_le_card_move {s : Finset PeerId} {p q : PeerId} (h : p ∈ s → q ∉ s) :
    s.card ≤ (insert q (s.erase p)).card := by
  by_cases hp : p ∈ s
  · exact (card_insert_erase hp (h hp)).ge
  · rw [Finset.erase_eq_of_notMem hp]
    exact Finset.card_le_card (Finset.subset_insert q s)

theorem Safe.grows (h : k.Safe (t :: l)) : k.Grows (k.apply t) := by
  refine forall₂_modify (fun _ => ⟨rfl, fun _ => Nat.le_refl _⟩) fun c hc => ⟨rfl, fun shard => ?_⟩
  have held := holders_of_find? hc t.shard
  cases kind : t.operation.kind with
  | copy =>
    rw [Collection.holders_apply_copy kind]
    split
    · exact Finset.card_le_card (Finset.subset_insert ..)
    · exact Nat.le_refl _
  | move =>
    rw [Collection.holders_apply_move kind]
    split
    next hs =>
      subst hs
      refine card_le_card_move fun hp => ?_
      have kept := h.kept t List.mem_cons_self kind
      rw [held] at kept
      exact kept hp
    next => exact Nat.le_refl _

theorem Safe.tidy (h : k.Safe (t :: l)) (tidy : k.Tidy) : (k.apply t).Tidy where
  names := by
    rw [names_apply]
    exact tidy.names
  active c hc r hr := by
    rcases mem_modify hc with hc | ⟨d, hd, rfl⟩
    · exact tidy.active c hc r hr
    · rcases Collection.mem_replicas_apply.1 hr with rfl | ⟨hr, -⟩
      · rfl
      · exact tidy.active d (find?_mem hd) r hr
  once c hc := by
    rcases mem_modify hc with hc | ⟨d, hd, rfl⟩
    · exact tidy.once c hc
    · have lacking : t.target ∉ d.holders t.shard := by
        have := (h.fresh tidy.names).2 t List.mem_cons_self
        rwa [holders, hd] at this
      have absent : ∀ r ∈ d.replicas, r.holding ≠ ⟨t.target, t.shard⟩ := by
        rintro ⟨p, s, state⟩ hr he
        obtain ⟨rfl, rfl⟩ := Holding.mk.inj he
        obtain rfl : state = .active := tidy.active d (find?_mem hd) _ hr
        exact lacking (Collection.mem_holders.2 hr)
      obtain ⟨kept, sublist, after⟩ := Collection.replicas_apply t.operation d
      rw [after, List.map_append, List.nodup_append]
      refine ⟨(sublist.map _).nodup (tidy.once d (find?_mem hd)), List.nodup_singleton _, ?_⟩
      intro a ha b hb
      obtain ⟨r, hr, rfl⟩ := List.mem_map.1 ha
      rw [List.mem_singleton.1 hb]
      exact absent r (sublist.subset hr)

theorem nodup_pairs {names : List String} {l : String → List Transfer} (distinct : names.Nodup)
    (named : ∀ c ∈ names, ∀ x ∈ l c, x.collection = c)
    (once : ∀ c ∈ names, ((l c).map Transfer.shard).Nodup) :
    ((names.flatMap l).map Transfer.pair).Nodup := by
  rw [List.map_flatMap, List.nodup_flatMap]
  constructor
  · intro c hc
    refine List.Nodup.of_map Prod.snd ?_
    rw [List.map_map]
    exact once c hc
  · refine List.Pairwise.imp_of_mem (fun {c d} hc hd hne => ?_) distinct
    intro x hx hy
    obtain ⟨t, ht, rfl⟩ := List.mem_map.1 hx
    obtain ⟨u, hu, he⟩ := List.mem_map.1 hy
    have same : u.collection = t.collection := congrArg Prod.fst he
    exact hne (by rw [← named c hc t ht, ← named d hd u hu, same])

theorem safe_of_admits (truthful : k.Truthful) {factored : Bool} {names : List String}
    {l : String → List Transfer} (existing : ∀ c ∈ names, c ∈ k.names)
    (distinct : k.names.Nodup → names.Nodup)
    (admits : ∀ c ∈ names, (k.topology factored c).Admits (l c)) (uniform : Uniform (names.flatMap l)) :
    k.Safe (names.flatMap l) := by
  have named : ∀ c ∈ names, ∀ x ∈ l c, x.collection = c := fun c hc => (admits c hc).collection
  have lacking : ∀ x ∈ names.flatMap l, x.target ∉ k.holders x.collection x.shard := by
    intro x hx
    obtain ⟨c, hc, hx⟩ := List.mem_flatMap.1 hx
    have free : (k.placement c).holds x.target x.shard = false := (admits c hc).lacking x hx
    rw [named c hc x hx, ← holds_placement truthful, free]
    exact Bool.false_ne_true
  refine ⟨uniform, ?_, fun x hx _ _ => lacking x hx, fun hk => ⟨?_, lacking⟩⟩
  · exact fun x hx => existing _ (collection_mem_of_mem_flatMap named x hx)
  · exact nodup_pairs (distinct hk) named fun c hc => (admits c hc).nodup

end Cluster

open Cluster Planning Rebalance

variable {k : Cluster} {settings : TransferSettings} {plan : Plan}

theorem movesOff_drain {source : Resolved} {ring : Ring} (around : Ring.ofPeers? source.others = some ring)
    {method : TransferMethod} {names : List String} {t : String → Topology} :
    MovesOff source.peer
      (names.flatMap fun c => (DrainRequest.draft ⟨source.peer, method⟩ (t c) ring).1.transfers) := by
  intro x hx
  obtain ⟨c, -, hx⟩ := List.mem_flatMap.1 hx
  obtain ⟨form, target, -⟩ := DrainRequest.of_mem_draft hx
  rw [Ring.peers_of_ofPeers? around] at target
  exact ⟨by rw [form]; rfl, by rw [form]; rfl, by simpa using (List.mem_filter.1 target).2⟩

theorem existing_of_plan {r : Request} (planned : (r.plan settings).eval k.answers = .ok plan) :
    ∀ t ∈ plan.transfers, t.collection ∈ k.names := by
  cases r with
  | replicate target collections ignoreFactor =>
    obtain ⟨q, names, ring, -, chosen, -, -, rfl⟩ := eval_planReplicate_eq_ok_iff.1 planned
    exact fun t ht => Collections.mem_of_select chosen
      (collection_mem_of_mem_flatMap (fun c _ => ReplicateRequest.admits_draft.collection) t ht)
  | drain source collections =>
    obtain ⟨q, names, ring, -, chosen, -, free, rfl⟩ := eval_planDrain_eq_ok_iff.1 planned
    exact fun t ht => Collections.mem_of_select chosen
      (collection_mem_of_mem_flatMap (fun c hc => (DrainRequest.admits_draft (free c hc)).collection) t ht)
  | equalize source target collections =>
    obtain ⟨q, p, names, -, -, chosen, rfl⟩ := eval_planEqualize_eq_ok_iff.1 planned
    exact fun t ht => Collections.mem_of_select chosen
      (collection_mem_of_mem_flatMap (fun c _ => EqualizeRequest.admits_draft.collection) t ht)

theorem safe_of_plan (truthful : k.Truthful) {r : Request}
    (planned : (r.plan settings).eval k.answers = .ok plan) : k.Safe plan.transfers := by
  cases r with
  | replicate target collections ignoreFactor =>
    obtain ⟨q, names, ring, -, hn, -, -, rfl⟩ := eval_planReplicate_eq_ok_iff.1 planned
    refine safe_of_admits truthful (fun c => Collections.mem_of_select hn) (Collections.nodup_of_select hn)
      (fun c _ => ReplicateRequest.admits_draft) (.inl fun x hx => ?_)
    obtain ⟨c, -, hx⟩ := List.mem_flatMap.1 hx
    rw [(ReplicateRequest.of_mem_draft hx).1]
    rfl
  | drain source collections =>
    obtain ⟨q, names, ring, -, hn, around, free, rfl⟩ := eval_planDrain_eq_ok_iff.1 planned
    exact safe_of_admits truthful (fun c => Collections.mem_of_select hn) (Collections.nodup_of_select hn)
      (fun c hc => DrainRequest.admits_draft (free c hc)) (.inr ⟨q.peer, movesOff_drain around⟩)
  | equalize source target collections =>
    obtain ⟨q, p, names, -, -, hn, rfl⟩ := eval_planEqualize_eq_ok_iff.1 planned
    refine safe_of_admits truthful (fun c => Collections.mem_of_select hn) (Collections.nodup_of_select hn)
      (fun c _ => EqualizeRequest.admits_draft) (.inl fun x hx => ?_)
    obtain ⟨c, -, hx⟩ := List.mem_flatMap.1 hx
    rw [EqualizeRequest.draft_transfers] at hx
    obtain ⟨s, -, rfl⟩ := List.mem_map.1 hx
    rfl

end ShardBalance.Scripted
