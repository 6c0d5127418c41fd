import ShardBalance.Proofs.Copies
import ShardBalance.Proofs.Planning.Gains
import ShardBalance.Proofs.Resumptions

/-!
Copies that stop on the way and are planned again. What was copied is held now and the rest is held as before, so each
collection is drafted as what was left of its first draft; a replication may only find other sources.
-/

namespace ShardBalance.Scripted

open Planning Rebalance

section Clusters

variable {k : Cluster} {name : String} {p : PeerId} {a : List Transfer}

theorem Cluster.gains_copies (truthful : k.Truthful) (distinct : k.names.Nodup) (onto : CopiesOnto p a)
    (existing : name ∈ k.names) (factored : Bool) :
    (k.topology factored name).placement.Gains p ((a.filter (·.collection = name)).map Transfer.shard)
      ((a.foldl Cluster.apply k).topology factored name).placement := by
  intro q s
  show ((a.foldl Cluster.apply k).placement name).holds q s = true ↔ (k.placement name).holds q s = true ∨ _
  rw [holds_placement (truthful.foldl_apply a), holds_placement truthful, holders_copies distinct onto existing]
  split
  next copied => rw [Finset.mem_insert, or_comm, and_iff_left copied]
  next other => simp [other]

theorem Cluster.factor_foldl_apply (distinct : k.names.Nodup) (l : List Transfer) (existing : name ∈ k.names)
    (factored : Bool) :
    ((l.foldl Cluster.apply k).topology factored name).factor = (k.topology factored name).factor := by
  obtain ⟨c, hc⟩ := Option.isSome_iff_exists.1 (find?_isSome_iff.2 existing)
  have settings : (c.after (l.filter (·.collection = name))).settings = c.settings := by
    rw [Collection.after_eq]
    rfl
  simp only [topology, factor, hc, find?_foldl_apply distinct l hc, settings]

end Clusters

section Again

variable {k : Cluster} {settings : TransferSettings} {plan : Plan} {a b : List Transfer}

theorem forall₂_flatMap {R : Transfer → Transfer → Prop} {names : List String} {f g : String → List Transfer}
    (h : ∀ c ∈ names, List.Forall₂ R (f c) (g c)) : List.Forall₂ R (names.flatMap f) (names.flatMap g) := by
  refine List.rel_flatMap (R := fun c d => c ∈ names ∧ c = d) (List.forall₂_same.2 fun c hc => ⟨hc, rfl⟩) ?_
  rintro c d ⟨hc, rfl⟩
  exact h c hc

theorem split_collection {names : List String} {l : String → List Transfer} (distinct : names.Nodup)
    (named : ∀ c ∈ names, ∀ x ∈ l c, x.collection = c) (whole : names.flatMap l = a ++ b) {c : String}
    (inside : c ∈ names) : l c = a.filter (·.collection = c) ++ b.filter (·.collection = c) := by
  rw [← List.filter_append, ← whole, filter_flatMap_collection distinct named inside]

theorem flatMap_filter_left {names : List String} {l : String → List Transfer} (distinct : names.Nodup)
    (named : ∀ c ∈ names, ∀ x ∈ l c, x.collection = c) (whole : names.flatMap l = a ++ b) :
    (names.flatMap fun c => b.filter (·.collection = c)) = b :=
  flatMap_filter_collection distinct named (whole ▸ List.sublist_append_right a b)

theorem planReplicate_continues {target : Selector} {asked : Option (List String)} {ignoreFactor : Bool}
    (truthful : k.Truthful) (distinct : k.names.Nodup)
    (planned : (planReplicate settings target asked ignoreFactor).eval k.answers = .ok plan)
    (whole : plan.transfers = a ++ b) :
    ∃ rest, (planReplicate settings target asked ignoreFactor).eval (a.foldl Cluster.apply k).answers =
        .ok ⟨.replicate, rest⟩ ∧ List.Forall₂ Transfer.SameButSource b rest := by
  obtain ⟨p, names, ring, resolved, chosen, around, free, rfl⟩ := eval_planReplicate_eq_ok_iff.1 planned
  let r : ReplicateRequest := ⟨p.peer, ignoreFactor, settings.copyMethod⟩
  let l c := (r.draft (k.topology (!ignoreFactor) c) ring).1.transfers
  let l' c := (r.draft ((a.foldl Cluster.apply k).topology (!ignoreFactor) c) ring).1.transfers
  have named : ∀ c ∈ names, ∀ x ∈ l c, x.collection = c := fun _ _ => ReplicateRequest.admits_draft.collection
  have unique := Collections.nodup_of_select chosen distinct
  replace whole : names.flatMap l = a ++ b := whole
  have onto : CopiesOnto p.peer a := by
    intro t ht
    obtain ⟨c, -, ht⟩ := List.mem_flatMap.1 (whole ▸ List.mem_append_left b ht)
    rw [(ReplicateRequest.of_mem_draft ht).1]
    exact ⟨rfl, rfl⟩
  have again : ∀ c ∈ names, (r.draft ((a.foldl Cluster.apply k).topology (!ignoreFactor) c) ring).1.stuck = none ∧
      List.Forall₂ Transfer.SameButSource (b.filter (·.collection = c)) (l' c) := by
    intro c hc
    have existing := Collections.mem_of_select chosen hc
    exact ReplicateRequest.draft_of_gains (t := k.topology (!ignoreFactor) c) rfl
      (Cluster.factor_foldl_apply distinct a existing _) (Cluster.gains_copies truthful distinct onto existing _)
      (free c hc) (split_collection unique named whole hc)
  refine ⟨names.flatMap l', eval_planReplicate_eq_ok_iff.2 ⟨p, names, ring, ?_, ?_, around,
    fun c hc => (again c hc).1, rfl⟩, ?_⟩
  · rwa [Cluster.peers_foldl_apply]
  · rwa [Cluster.names_foldl_apply]
  · rw [← flatMap_filter_left unique named whole]
    exact forall₂_flatMap fun c hc => (again c hc).2

theorem planEqualize_continues {source target : Selector} {asked : List String}
    (truthful : k.Truthful) (distinct : k.names.Nodup)
    (planned : (planEqualize settings source target asked).eval k.answers = .ok plan)
    (whole : plan.transfers = a ++ b) :
    (planEqualize settings source target asked).eval (a.foldl Cluster.apply k).answers = .ok ⟨.equalize, b⟩ := by
  obtain ⟨p, q, names, first, second, chosen, rfl⟩ := eval_planEqualize_eq_ok_iff.1 planned
  let r : EqualizeRequest := ⟨p.peer, q.peer, settings.copyMethod⟩
  let l c := (r.draft (k.topology false c)).transfers
  have named : ∀ c ∈ names, ∀ x ∈ l c, x.collection = c := fun _ _ => EqualizeRequest.admits_draft.collection
  have unique := Collections.nodup_of_select chosen distinct
  replace whole : names.flatMap l = a ++ b := whole
  have onto : CopiesOnto q.peer a := by
    intro t ht
    obtain ⟨c, -, ht⟩ := List.mem_flatMap.1 (whole ▸ List.mem_append_left b ht)
    rw [(EqualizeRequest.of_mem_draft ht).1]
    exact ⟨rfl, rfl⟩
  have again : ∀ c ∈ names, (r.draft ((a.foldl Cluster.apply k).topology false c)).transfers =
      b.filter (·.collection = c) := by
    intro c hc
    have existing := Collections.mem_of_select chosen hc
    exact EqualizeRequest.draft_of_gains (t := k.topology false c) rfl
      (Cluster.gains_copies truthful distinct onto existing _) (split_collection unique named whole hc)
  refine eval_planEqualize_eq_ok_iff.2 ⟨p, q, names, ?_, ?_, ?_, ?_⟩
  · rwa [Cluster.peers_foldl_apply]
  · rwa [Cluster.peers_foldl_apply]
  · rwa [Cluster.names_foldl_apply]
  · rw [List.flatMap_congr again, flatMap_filter_left unique named whole]

theorem plan_continues {r : Request} (copies : r.goal ≠ .drain) (truthful : k.Truthful) (distinct : k.names.Nodup)
    (planned : (r.plan settings).eval k.answers = .ok plan) (whole : plan.transfers = a ++ b) :
    ∃ rest, (r.plan settings).eval (a.foldl Cluster.apply k).answers = .ok ⟨r.goal, rest⟩ ∧
      (r.goal = .equalize → rest = b) ∧ List.Forall₂ Transfer.SameButSource b rest := by
  cases r with
  | replicate target asked ignoreFactor =>
    obtain ⟨rest, again, same⟩ := planReplicate_continues truthful distinct planned whole
    exact ⟨rest, again, nofun, same⟩
  | drain source asked => exact absurd rfl copies
  | equalize source target asked =>
    have again := planEqualize_continues truthful distinct planned whole
    exact ⟨b, again, fun _ => rfl, List.forall₂_same.2 fun _ _ => rfl⟩

end Again

/-- A replication or an equalization of which any number of transfers were made is planned again as what is left of
it: an equalization transfer for transfer, a replication perhaps from other sources. Its run makes such a number of
transfers, and all of them where it succeeds, so that nothing is left. -/
theorem interrupted_copies_continue (settings : TransferSettings) (r : Request) (s : Session World) (plan : Plan)
    (copies : r.goal ≠ .drain) (truthful : s.world.cluster.Truthful) (distinct : s.world.cluster.names.Nodup)
    (planned : ((r.plan settings).run.run World.react s).value = .ok plan) :
    let again (w : World) := ((r.plan settings).run.run World.react ⟨w.repaired, false⟩).value
    let run := (r.run settings false).run World.react s
    (∀ i (w : World), w.cluster = (plan.transfers.take i).foldl Cluster.apply s.world.cluster →
      ∃ rest, again w = .ok ⟨r.goal, rest⟩ ∧ (r.goal = .equalize → rest = plan.transfers.drop i) ∧
        List.Forall₂ Transfer.SameButSource (plan.transfers.drop i) rest) ∧
    (s.world.Honest → ∃ o made, run.value = .ok o ∧ made ≤ plan.size ∧ (o.success = true ↔ made = plan.size) ∧
      run.session.world.cluster = (plan.transfers.take made).foldl Cluster.apply s.world.cluster ∧
      (o.success = true → again run.session.world = .ok ⟨r.goal, []⟩)) := by
  intro again run
  have reads := reads_plan settings r
  have evaluated := reads.eval_of_run planned
  have continues : ∀ i (w : World), w.cluster = (plan.transfers.take i).foldl Cluster.apply s.world.cluster →
      ∃ rest, again w = .ok ⟨r.goal, rest⟩ ∧ (r.goal = .equalize → rest = plan.transfers.drop i) ∧
        List.Forall₂ Transfer.SameButSource (plan.transfers.drop i) rest := by
    intro i w made
    obtain ⟨rest, told, left⟩ := plan_continues copies truthful distinct evaluated
      (List.take_append_drop i plan.transfers).symm
    rw [← made] at told
    exact ⟨rest, (reads.run_of_faultless (s := ⟨w.repaired, false⟩) rfl rfl).1.trans told, left⟩
  refine ⟨continues, fun honest => ?_⟩
  obtain ⟨made, issued, value, delivered⟩ := request_delivers honest planned
  obtain ⟨most, done, -⟩ := delivered.progress
  refine ⟨issued.outcome plan, made, value, most, success_outcome.trans done, delivered.cluster, fun success => ?_⟩
  obtain rfl : made = plan.size := done.1 (success_outcome.1 success)
  obtain ⟨rest, told, -, left⟩ := continues plan.size run.session.world delivered.cluster
  rw [Plan.size, List.drop_length, List.forall₂_nil_left_iff] at left
  rwa [left] at told

theorem equalization_continues_with_second_copy :
    let docs : Collection :=
      ⟨"docs", some 2, [⟨1, 0, .active⟩, ⟨1, 1, .active⟩, ⟨1, 2, .active⟩, ⟨2, 1, .active⟩], none⟩
    let k : Cluster := ⟨.ofList [(1, "http://a"), (2, "http://b")], 1, [docs]⟩
    let first : Transfer := ⟨"docs", 0, 1, 2, .streamRecords, .copy⟩
    let second : Transfer := ⟨"docs", 2, 1, 2, .streamRecords, .copy⟩
    let equalize := ((Request.equalize (.id 1) (.id 2) ["docs"]).plan .default).run
    (equalize.run World.react ⟨⟨k, [], []⟩, false⟩).value = .ok ⟨.equalize, [first, second]⟩ ∧
      (equalize.run World.react ⟨⟨k.apply first, [], []⟩, false⟩).value = .ok ⟨.equalize, [second]⟩ := by
  -- two copies are planned, and the second again once the first is made
  intro docs k first second equalize
  have planned : (equalize.run World.react ⟨⟨k, [], []⟩, false⟩).value = .ok ⟨.equalize, [first, second]⟩ := by
    show (((Request.equalize (.id 1) (.id 2) ["docs"]).plan .default).run.run World.react
      ⟨⟨k, [], []⟩, false⟩).value = _
    cbv
  obtain ⟨continues, -⟩ := interrupted_copies_continue .default (.equalize (.id 1) (.id 2) ["docs"])
    ⟨⟨k, [], []⟩, false⟩ _ (by decide) (by simp [Cluster.Truthful, k, docs]) (by decide) planned
  obtain ⟨rest, again, left, -⟩ := continues 1 ⟨k.apply first, [], []⟩ rfl
  obtain rfl := left rfl
  exact ⟨planned, again⟩

end ShardBalance.Scripted
