import ShardBalance.Proofs.Obstacles
import ShardBalance.Proofs.Readings

/-!
How planning goes on a cluster that answers all calls. The table of peers is read first, then the list of collections,
then what there is to know about each selected collection, up to the first whose draft gets stuck.
-/

namespace ShardBalance

namespace Draft

variable {draft : String → Draft} {n : Nat}

theorem results_append_cons {before : List String} (free : ∀ d ∈ before, (draft d).stuck = none) {c : String}
    {x : ShardId} (stuck : (draft c).stuck = some x) (after : List String) :
    results draft n (before ++ c :: after) = .error (.noQualifyingPeer c x n) := by
  induction before with
  | nil =>
    rw [List.nil_append, results_cons, result_eq_error_iff.2 ⟨x, stuck, rfl⟩]
    rfl
  | cons d before ih =>
    obtain ⟨hd, free⟩ := List.forall_mem_cons.1 free
    rw [List.cons_append, results_cons, ih free, result_eq_ok_iff.2 ⟨hd, rfl⟩]
    rfl

end Draft

namespace Rebalance

open Attempt Planning Scripted

/-- The calls that tell what a request has to know about a collection. -/
def Request.surveys : Request → String → List Call
  | replicate _ _ false, c => [.collection c, .placement c]
  | _, c => [.placement c]

section Goes

variable {k : Cluster} {c : String}

theorem goes_listing : Goes k.answers (Attempt.call .peers) (.ok ⟨"enabled", some k.serving, k.peers⟩) [.peers] :=
  ⟨rfl, rfl⟩

theorem goes_resolveIn (t : PeerTable) (s : Selector) : Goes k.answers (resolveIn t s) (t.resolve s) [] := by
  refine ⟨eval_resolveIn t s, ?_⟩
  unfold resolveIn
  cases found : t.resolve s with
  | ok p =>
    rw [asked_bind_of_ok (eval_ofExcept _)]
    rfl
  | error f => exact asked_bind_of_error (eval_ofExcept _) _

theorem goes_resolve (s : Selector) : Goes k.answers (resolve s) (k.peers.resolve s) [.peers] :=
  goes_listing.bind (goes_resolveIn k.peers s)

theorem asked_selected (names : Option (List String)) : (selected names).asked k.answers = [.collections] := by
  have told : (Attempt.call .collections).eval k.answers = .ok k.names := rfl
  unfold selected
  rw [asked_bind_of_ok told]
  cases Collections.select names k.names <;> rfl

theorem asked_ringAround (p : Resolved) : (ringAround p).asked k.answers = [] := by
  unfold ringAround
  cases Ring.ofPeers? p.others <;> rfl

theorem goes_noteAll (l : List Note) : Goes k.answers (Attempt.noteAll l) (.ok ()) [] :=
  ⟨eval_noteAll l, asked_noteAll l⟩

theorem goes_placement (h : c ∈ k.names) : Goes k.answers (placement c) (.ok (k.placement c)) [.placement c] := by
  obtain ⟨d, -, told, -⟩ := Cluster.answers_of_mem h
  have said := (eval_call (.placement c)).trans (congrArg (Except.mapError Failure.client) told)
  refine ⟨eval_placement h, ?_⟩
  unfold placement
  rw [asked_bind_of_ok said, asked_bind_of_ok (eval_noteAll _), asked_noteAll]
  rfl

theorem goes_topologyWithoutFactor (h : c ∈ k.names) :
    Goes k.answers (topologyWithoutFactor c) (.ok (k.topology false c)) [.placement c] :=
  (goes_placement h).bind ⟨rfl, rfl⟩

theorem goes_topologyWithFactor (h : c ∈ k.names) :
    Goes k.answers (topologyWithFactor c) (.ok (k.topology true c)) [.collection c, .placement c] := by
  obtain ⟨d, -, -, told⟩ := Cluster.answers_of_mem h
  have said := (eval_call (.collection c)).trans (congrArg (Except.mapError Failure.client) told)
  refine ⟨eval_topologyWithFactor h, ?_⟩
  unfold topologyWithFactor
  rw [asked_bind_of_ok said]
  show _ ++ Attempt.asked _ (placement c >>= _) = _
  rw [asked_bind_of_ok (eval_placement h), (goes_placement h).calls]
  rfl

theorem goes_settle (d : Draft) (c : String) (n : Nat) : Goes k.answers (settle d c n) (d.result c n) [] :=
  (goes_noteAll _).bind ⟨rfl, rfl⟩

theorem goes_note_if {α : Type} {p : Attempt α} {v : Except Failure α} {calls : List Call} (c : Prop) [Decidable c]
    (n : Note) (h : Goes k.answers p v calls) :
    Goes k.answers (if c then Attempt.note n >>= fun _ => p else p) v calls := by
  split
  · exact Goes.bind ⟨eval_note n, rfl⟩ h
  · exact h

theorem goes_completed (goal : Goal) (p : Resolved) (l : List Transfer) :
    Goes k.answers (completed goal p l) (.ok ⟨goal, l⟩) [] :=
  Goes.bind ⟨eval_note _, rfl⟩ ((goes_noteAll _).bind ⟨rfl, rfl⟩)

theorem goes_bind_completed {l : Attempt (List Transfer)} {v : Except Failure (List Transfer)} {calls : List Call}
    (h : Goes k.answers l v calls) (goal : Goal) (p : Resolved) :
    Goes k.answers (l >>= completed goal p) (v.map (Plan.mk goal)) calls := by
  cases v with
  | ok x => exact List.append_nil calls ▸ h.bind (goes_completed goal p x)
  | error f => exact h.fail _

variable {topology : String → Attempt Topology} {t : String → Topology} {reads : String → List Call}
  {names : List String}

theorem goes_onRing (planner : Planner) (ring : Ring)
    (told : ∀ c ∈ names, Goes k.answers (topology c) (.ok (t c)) (reads c)) {q : Ring} (hq : q.peers = ring.peers) :
    Goes k.answers (onRing topology planner.draft q names)
      (Draft.results (fun c => (planner.draft (t c) ring).1) ring.size names)
      ((upTo (fun c => (planner.draft (t c) ring).1.stuck.isSome) names).flatMap reads) := by
  refine ⟨eval_onRing planner ring (fun c hc => (told c hc).value) hq, ?_⟩
  induction names generalizing q with
  | nil => rfl
  | cons c rest ih =>
    obtain ⟨here, told⟩ := List.forall_mem_cons.1 told
    have settled := goes_settle (k := k) (planner.draft (t c) q).1 c q.size
    rw [onRing_cons, asked_bind_of_ok here.value, here.calls, upTo, ← planner.draft_of_peers (t c) hq]
    cases stuck : (planner.draft (t c) q).1.stuck with
    | some x =>
      rw [Draft.result_eq_error_iff.2 ⟨x, stuck, rfl⟩] at settled
      rw [asked_bind_of_error settled.value, settled.calls]
      simp
    | none =>
      rw [Draft.result_eq_ok_iff.2 ⟨stuck, rfl⟩] at settled
      have others : Goes k.answers (onRing topology planner.draft (planner.draft (t c) q).2 rest) _ _ :=
        ⟨rfl, ih told ((planner.peers_draft (t c) q).trans hq)⟩
      rw [asked_bind_of_ok settled.value, settled.calls, (others.map _).calls]
      simp

theorem goes_each {draft : Topology → Draft} (free : ∀ t, (draft t).stuck = none)
    (told : ∀ c ∈ names, Goes k.answers (topology c) (.ok (t c)) (reads c)) :
    Goes k.answers (each topology draft names) (.ok (names.flatMap fun c => (draft (t c)).transfers))
      (names.flatMap reads) := by
  induction names with
  | nil => exact ⟨rfl, rfl⟩
  | cons c rest ih =>
    obtain ⟨here, told⟩ := List.forall_mem_cons.1 told
    have settled : Goes k.answers (settle (draft (t c)) c 0) (.ok (draft (t c)).transfers) [] :=
      Draft.result_eq_ok_iff.2 ⟨free _, rfl⟩ ▸ goes_settle ..
    exact here.bind (settled.bind ((ih told).map _))

end Goes

/-- How planning may go on a cluster that answers all calls: what it comes to, and the calls it makes. -/
inductive Course (k : Cluster) (r : Request) : Except Failure Plan → List Call → Prop
  | unresolved {s : Selector} {f : Failure} (named : s ∈ r.selectors)
      (unresolved : k.peers.resolve s = .error f) : Course k r (.error f) [.peers]
  | unknown {missing : List String} (unknown : Collections.select r.asked k.names = .error missing) :
      Course k r (.error (.unknownCollections missing)) [.peers, .collections]
  | alone (p : PeerId) : Course k r (.error (.noOtherPeer p)) [.peers, .collections]
  | stuck {before after : List String} {c : String}
      (chosen : Collections.select r.asked k.names = .ok (before ++ c :: after)) (first : c ∉ before) (x : ShardId)
      (n : Nat) :
      Course k r (.error (.noQualifyingPeer c x n)) (.peers :: .collections :: (before ++ [c]).flatMap r.surveys)
  | planned {names : List String} (chosen : Collections.select r.asked k.names = .ok names) (plan : Plan) :
      Course k r (.ok plan) (.peers :: .collections :: names.flatMap r.surveys)

section Courses

variable {k : Cluster} {r : Request}

theorem Course.of_goes {p : Attempt Plan} {v : Except Failure Plan} {calls : List Call}
    (course : Course k r v calls) (h : Goes k.answers p v calls) :
    Course k r (p.eval k.answers) (p.asked k.answers) := by
  rw [h.value, h.calls]
  exact course

theorem goes_selected {asked : Option (List String)} {names : List String}
    (chosen : Collections.select asked k.names = .ok names) :
    Goes k.answers (selected asked) (.ok names) [.collections] :=
  ⟨eval_selected_eq_ok_iff.2 chosen, asked_selected _⟩

theorem goes_unselected {asked : Option (List String)} {missing : List String}
    (unknown : Collections.select asked k.names = .error missing) :
    Goes k.answers (selected asked) (.error (.unknownCollections missing)) [.collections] :=
  ⟨eval_selected_eq_error_iff.2 ⟨missing, unknown, rfl⟩, asked_selected _⟩

theorem course_around {s : Selector} (centre : r.centre? = some s) (goal : Goal)
    {topology : String → Attempt Topology} {t : String → Topology} (planner : Resolved → Planner)
    (told : ∀ c ∈ k.names, Goes k.answers (topology c) (.ok (t c)) (r.surveys c)) :
    let p := resolve s >>= fun p => selected r.asked >>= fun names => ringAround p >>= fun ring =>
      onRing topology (planner p).draft ring names >>= completed goal p
    Course k r (p.eval k.answers) (p.asked k.answers) := by
  have found := goes_resolve (k := k) s
  cases resolved : k.peers.resolve s with
  | error f =>
    rw [resolved] at found
    exact .of_goes (.unresolved (Request.centre_mem_selectors centre) resolved) (found.fail _)
  | ok p =>
    rw [resolved] at found
    cases chosen : Collections.select r.asked k.names with
    | error missing => exact .of_goes (.unknown chosen) (found.bind ((goes_unselected chosen).fail _))
    | ok names =>
      cases around : Ring.ofPeers? p.others with
      | none =>
        have alone : Goes k.answers (ringAround p) (.error (.noOtherPeer p.peer)) [] :=
          ⟨eval_ringAround_eq_error_iff.2 ⟨Ring.ofPeers?_eq_none_iff.1 around, rfl⟩, asked_ringAround p⟩
        exact .of_goes (.alone p.peer) (found.bind ((goes_selected chosen).bind (alone.fail _)))
      | some ring =>
        have ready : Goes k.answers (ringAround p) (.ok ring) [] :=
          ⟨eval_ringAround_eq_ok_iff.2 around, asked_ringAround p⟩
        have told : ∀ c ∈ names, Goes k.answers (topology c) (.ok (t c)) (r.surveys c) :=
          fun c hc => told c (Collections.mem_of_select chosen hc)
        have drafted := goes_bind_completed (goes_onRing (planner p) ring told rfl) goal p
        rcases forall_or_first (fun c => ((planner p).draft (t c) ring).1.stuck.isSome) names with
          free | ⟨before, c, after, rfl, free, stuck⟩
        · rw [upTo_of_forall free, Draft.results_eq_ok_iff.2 ⟨fun c hc => by simpa using free c hc, rfl⟩] at drafted
          exact .of_goes (.planned chosen _) (found.bind ((goes_selected chosen).bind (ready.bind drafted)))
        · obtain ⟨x, hx⟩ := Option.isSome_iff_exists.1 stuck
          have first : c ∉ before := fun hc => Bool.false_ne_true ((free c hc).symm.trans stuck)
          rw [upTo_append_cons free stuck,
            Draft.results_append_cons (fun d hd => by simpa using free d hd) hx after] at drafted
          exact .of_goes (.stuck chosen first x ring.size)
            (found.bind ((goes_selected chosen).bind (ready.bind drafted)))

theorem course_equalize (settings : TransferSettings) (source target : Selector) (asked : List String) :
    Course k (.equalize source target asked) ((planEqualize settings source target asked).eval k.answers)
      ((planEqualize settings source target asked).asked k.answers) := by
  have first := goes_resolveIn (k := k) k.peers source
  have second := goes_resolveIn (k := k) k.peers target
  cases found : k.peers.resolve source with
  | error f =>
    rw [found] at first
    exact .of_goes (.unresolved List.mem_cons_self found) (goes_listing.bind (first.fail _))
  | ok p =>
    rw [found] at first
    cases found : k.peers.resolve target with
    | error f =>
      rw [found] at second
      exact .of_goes (.unresolved (List.mem_cons_of_mem _ List.mem_cons_self) found)
        (goes_listing.bind (first.bind (second.fail _)))
    | ok q =>
      rw [found] at second
      cases chosen : Collections.select (some asked) k.names with
      | error missing =>
        exact .of_goes (.unknown chosen)
          (goes_listing.bind (first.bind (second.bind ((goes_unselected chosen).fail _))))
      | ok names =>
        have told : ∀ c ∈ names, Goes k.answers (topologyWithoutFactor c) (.ok (k.topology false c)) [.placement c] :=
          fun c hc => goes_topologyWithoutFactor (Collections.mem_of_select chosen hc)
        have drafted := goes_bind_completed (goes_each (fun t =>
          EqualizeRequest.draft_stuck (r := ⟨p.peer, q.peer, settings.copyMethod⟩) (t := t)) told) .equalize p
        have course : ∀ plan, Course k (.equalize source target asked) (.ok plan) _ := .planned chosen
        exact .of_goes (course _) (goes_listing.bind (first.bind (second.bind
          ((goes_selected chosen).bind (goes_note_if _ _ drafted)))))

theorem course_plan (settings : TransferSettings) (k : Cluster) (r : Request) :
    Course k r ((r.plan settings).eval k.answers) ((r.plan settings).asked k.answers) := by
  cases r with
  | replicate target asked ignoreFactor =>
    refine course_around (r := .replicate target asked ignoreFactor) rfl .replicate
      (t := k.topology !ignoreFactor) (fun p => .replicate ⟨p.peer, ignoreFactor, settings.copyMethod⟩) fun c hc => ?_
    cases ignoreFactor with
    | true => exact goes_topologyWithoutFactor hc
    | false => exact goes_topologyWithFactor hc
  | drain source asked =>
    exact course_around (r := .drain source asked) rfl .drain
      (fun p => .drain ⟨p.peer, settings.moveMethod⟩) fun c hc => goes_topologyWithoutFactor hc
  | equalize source target asked => exact course_equalize settings source target asked

end Courses

end Rebalance
end ShardBalance
