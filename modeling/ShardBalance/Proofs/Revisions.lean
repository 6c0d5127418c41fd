import Mathlib.Logic.Relation
import ShardBalance.Json.Printer
import ShardBalance.Proofs.Json.Parsing
import ShardBalance.Proofs.Json.Revisions
import ShardBalance.Proofs.Planning.Planner
import ShardBalance.Wire.Placement

/-!
Placement reports as newer clusters may tell them. Members that are not read, the order of members and states without
a known name make no difference to what is read. A transfer under way may tell of another method too, but only of one
whose name is known: a report with any other name is refused as a whole.
-/

namespace ShardBalance

namespace ReplicaState

/-- Whether a text is the name of none of the states that are told apart. -/
def Unheard (s : String) : Prop := ∀ x : ReplicaState, x ≠ .unknown → s ≠ x.name

theorem name_ofName {s : String} (h : ofName s ≠ .unknown) : (ofName s).name = s := by
  revert h
  fun_cases ofName s <;> simp [name]

theorem unheard_iff {s : String} : Unheard s ↔ ofName s = .unknown := by
  constructor
  · intro h
    by_contra known
    exact h _ known (name_ofName known).symm
  · rintro h x known rfl
    exact known ((ofName_name x).symm.trans h)

theorem follows_of_renamed {v w : Json} (h : Json.Renamed Unheard Unheard v w) : v.Follows ofJson? Eq w := by
  cases h with
  | @mk q r s t before after was is =>
    intro x read
    have unknown : ofJson? (.string q) = some .unknown := by
      simp [ofJson?, Json.choice?, before, unheard_iff.1 was]
    refine ⟨.unknown, ?_, Option.some.inj (read.symm.trans unknown)⟩
    simp [ofJson?, Json.choice?, after, unheard_iff.1 is]

end ReplicaState

namespace TransferMethod

/-- Whether a text is the name of a method. -/
def Heard (s : String) : Prop := ∃ m : TransferMethod, s = m.name

theorem heard_of_ofName? {s : String} {m : TransferMethod} (h : ofName? s = some m) : Heard s := by
  unfold ofName? at h
  split at h
  · exact ⟨.streamRecords, rfl⟩
  · exact ⟨.snapshot, rfl⟩
  · exact ⟨.walDelta, rfl⟩
  · cases h

theorem heard_of_read {q : Json.Quoted} {s : String} {o : Option TransferMethod} (text : q.text? = some s)
    (h : (Json.string q).option? ofJson? = some o) : Heard s := by
  obtain ⟨m, read, -⟩ := Option.map_eq_some_iff.1 (show (ofJson? (.string q)).map some = some o from h)
  exact heard_of_ofName? (by simpa [ofJson?, Json.choice?, text] using read)

theorem follows_of_renamed {old : String → Prop} {v w : Json} (h : Json.Renamed old Heard v w) :
    v.Follows (Json.option? ofJson?) (fun _ _ => True) w := by
  cases h with
  | @mk q r s t before after was is =>
    obtain ⟨m, rfl⟩ := is
    intro o _
    exact ⟨some m, by simp [Json.option?, ofJson?, Json.choice?, after], trivial⟩

end TransferMethod

/-- A change to the state of a replica. -/
def StateRevised (n : String) (v w : Json) : Prop :=
  n = "state" ∧ Json.Renamed ReplicaState.Unheard ReplicaState.Unheard v w

/-- A change to the method of a transfer, to one of `methods`. -/
def MethodRevised (methods : String → Prop) (n : String) (v w : Json) : Prop :=
  n = "method" ∧ Json.Renamed (fun _ => True) methods v w

def LocalReplica.Revised : Json → Json → Prop := Json.Revised ["shard_id", "points_count", "state"] StateRevised

def Replica.Revised : Json → Json → Prop := Json.Revised ["shard_id", "peer_id", "state"] StateRevised

def OngoingTransfer.Revised (methods : String → Prop) : Json → Json → Prop :=
  Json.Revised ["shard_id", "from", "to", "sync", "method"] (MethodRevised methods)

namespace PlacementReport

/-- A change to an item of one of the lists of a report. -/
def ListRevised (methods : String → Prop) (n : String) (v w : Json) : Prop :=
  (n = "local_shards" ∧ Json.ItemRevised LocalReplica.Revised v w) ∨
    (n = "remote_shards" ∧ Json.ItemRevised Replica.Revised v w) ∨
      (n = "shard_transfers" ∧ Json.ItemRevised (OngoingTransfer.Revised methods) v w)

/-- One change to a report: a member that is not read is added or changed in one of its objects, the members of one
change places, a state without a known name gets another such name, or a method one of `methods`. -/
def Revised (methods : String → Prop) : Json → Json → Prop :=
  Json.Revised ["peer_id", "shard_count", "local_shards", "remote_shards", "shard_transfers"] (ListRevised methods)

end PlacementReport

section

variable {v w : Json}

theorem LocalReplica.follows_of_revised (h : Revised v w) : v.Follows ofJson? Eq w := by
  intro x read
  simp only [ofJson?, Option.bind_eq_bind, Option.bind_eq_some_iff] at read
  obtain ⟨f, fields, shard, hshard, points, hpoints, state, hstate, made⟩ := read
  cases made
  obtain ⟨g, fields', alike⟩ := h.fields? fields
  have hshard' := (alike.required_eq (by simp [StateRevised])).trans hshard
  have hpoints' := (alike.orElse_eq (by simp [StateRevised])).trans hpoints
  obtain ⟨_, hstate', rfl⟩ := alike.required (fun _ => rfl)
    (fun _ _ changed => ReplicaState.follows_of_renamed changed.2) hstate
  exact ⟨_, by simp [ofJson?, fields', hshard', hpoints', hstate'], rfl⟩

theorem Replica.follows_of_revised (h : Revised v w) : v.Follows ofJson? Eq w := by
  intro x read
  simp only [ofJson?, Option.bind_eq_bind, Option.bind_eq_some_iff] at read
  obtain ⟨f, fields, shard, hshard, peer, hpeer, state, hstate, made⟩ := read
  cases made
  obtain ⟨g, fields', alike⟩ := h.fields? fields
  have hshard' := (alike.required_eq (by simp [StateRevised])).trans hshard
  have hpeer' := (alike.required_eq (by simp [StateRevised])).trans hpeer
  obtain ⟨_, hstate', rfl⟩ := alike.required (fun _ => rfl)
    (fun _ _ changed => ReplicaState.follows_of_renamed changed.2) hstate
  exact ⟨_, by simp [ofJson?, fields', hshard', hpeer', hstate'], rfl⟩

namespace OngoingTransfer

def withoutMethod (t : OngoingTransfer) : OngoingTransfer := { t with method := none }

/-- Whether two transfers under way are the same up to the method. -/
def Agrees (t u : OngoingTransfer) : Prop := u.withoutMethod = t.withoutMethod

theorem follows_of_revised (h : Revised TransferMethod.Heard v w) : v.Follows ofJson? Agrees w := by
  intro x read
  simp only [ofJson?, Option.bind_eq_bind, Option.bind_eq_some_iff] at read
  obtain ⟨f, fields, shard, hshard, source, hsource, target, htarget, sync, hsync, method, hmethod, made⟩ := read
  cases made
  obtain ⟨g, fields', alike⟩ := h.fields? fields
  have hshard' := (alike.required_eq (by simp [MethodRevised])).trans hshard
  have hsource' := (alike.required_eq (by simp [MethodRevised])).trans hsource
  have htarget' := (alike.required_eq (by simp [MethodRevised])).trans htarget
  have hsync' := (alike.orElse_eq (by simp [MethodRevised])).trans hsync
  obtain ⟨other, hmethod', -⟩ := alike.orElse (fun _ => trivial)
    (fun _ _ changed => TransferMethod.follows_of_renamed changed.2) hmethod
  exact ⟨⟨shard, source, target, sync, other⟩,
    by simp [ofJson?, fields', hshard', hsource', htarget', hsync', hmethod'], rfl⟩

end OngoingTransfer

namespace PlacementReport

def withoutMethods (r : PlacementReport) : PlacementReport :=
  { r with ongoing := r.ongoing.map OngoingTransfer.withoutMethod }

/-- Whether two reports are the same up to the methods of the transfers under way. -/
def Agrees (r r' : PlacementReport) : Prop := r'.withoutMethods = r.withoutMethods

theorem map_withoutMethod {l l' : List OngoingTransfer} (h : List.Forall₂ OngoingTransfer.Agrees l l') :
    l'.map OngoingTransfer.withoutMethod = l.map OngoingTransfer.withoutMethod := by
  induction h with
  | nil => rfl
  | cons agree _ ih => exact congrArg₂ List.cons agree ih

theorem follows_of_revised (h : Revised TransferMethod.Heard v w) : v.Follows ofJson? Agrees w := by
  intro x read
  simp only [ofJson?, Option.bind_eq_bind, Option.bind_eq_some_iff] at read
  obtain ⟨f, fields, reporter, hreporter, count, hcount, own, hown, others, hothers, ongoing, hongoing, made⟩ := read
  cases made
  obtain ⟨g, fields', alike⟩ := h.fields? fields
  have hreporter' := (alike.required_eq (by simp [ListRevised])).trans hreporter
  have hcount' := (alike.orElse_eq (by simp [ListRevised])).trans hcount
  obtain ⟨own', hown', same⟩ : ∃ l, _ ∧ List.Forall₂ Eq own l := by
    refine alike.orElse (fun _ => List.forall₂_same.2 fun _ _ => rfl) (fun v w changed => ?_) hown
    have item : Json.ItemRevised LocalReplica.Revised v w := by simpa [ListRevised] using changed
    exact item.follows (fun _ => rfl) fun _ _ => LocalReplica.follows_of_revised
  obtain ⟨others', hothers', same'⟩ : ∃ l, _ ∧ List.Forall₂ Eq others l := by
    refine alike.orElse (fun _ => List.forall₂_same.2 fun _ _ => rfl) (fun v w changed => ?_) hothers
    have item : Json.ItemRevised Replica.Revised v w := by simpa [ListRevised] using changed
    exact item.follows (fun _ => rfl) fun _ _ => Replica.follows_of_revised
  obtain ⟨ongoing', hongoing', agree⟩ : ∃ l, _ ∧ List.Forall₂ OngoingTransfer.Agrees ongoing l := by
    refine alike.orElse (fun _ => List.forall₂_same.2 fun _ _ => rfl) (fun v w changed => ?_) hongoing
    have item : Json.ItemRevised (OngoingTransfer.Revised TransferMethod.Heard) v w := by
      simpa [ListRevised] using changed
    exact item.follows (fun _ => rfl) fun _ _ => OngoingTransfer.follows_of_revised
  rw [List.forall₂_eq_eq_eq] at same same'
  subst same same'
  refine ⟨⟨reporter, count, own, others, ongoing'⟩, ?_, ?_⟩
  · simp [ofJson?, fields', hreporter', hcount', hown', hothers', hongoing']
  · exact congrArg (PlacementReport.mk reporter count own others) (map_withoutMethod agree)

theorem follows_of_revisions (h : Relation.ReflTransGen (Revised TransferMethod.Heard) v w) :
    v.Follows ofJson? Agrees w := by
  intro r read
  induction h with
  | refl => exact ⟨r, read, rfl⟩
  | tail _ last ih =>
    obtain ⟨r', read', agree⟩ := ih
    obtain ⟨r'', read'', agree'⟩ := follows_of_revised last r' read'
    exact ⟨r'', read'', agree'.trans agree⟩

end PlacementReport

theorem OngoingTransfer.heard_of_ofJson? {t : OngoingTransfer} {q : Json.Quoted} {n : String}
    (read : ofJson? v = some t) (named : v.HasMember "method" (.string q)) (text : q.text? = some n) :
    TransferMethod.Heard n := by
  simp only [ofJson?, Option.bind_eq_bind, Option.bind_eq_some_iff] at read
  obtain ⟨f, fields, -, -, -, -, -, -, -, -, method, hmethod, -⟩ := read
  rw [Fields.orElse_of_given (named.get? (by simp) fields)] at hmethod
  exact TransferMethod.heard_of_read text hmethod

theorem PlacementReport.heard_of_ofJson? {r : PlacementReport} {items : List Json} {item : Json} {q : Json.Quoted}
    {n : String} (read : ofJson? v = some r) (listed : v.HasMember "shard_transfers" (.array items))
    (member : item ∈ items) (named : item.HasMember "method" (.string q)) (text : q.text? = some n) :
    TransferMethod.Heard n := by
  simp only [ofJson?, Option.bind_eq_bind, Option.bind_eq_some_iff] at read
  obtain ⟨f, fields, -, -, -, -, -, -, -, -, ongoing, hongoing, -⟩ := read
  rw [Fields.orElse_of_given (listed.get? (by simp) fields)] at hongoing
  obtain ⟨t, -, read⟩ := exists_mem_of_mapM hongoing member
  exact OngoingTransfer.heard_of_ofJson? read named text

end

namespace PlacementReport

/-- The report that a text holds. -/
def parse? (text : String) : Option PlacementReport := (Json.parse text).bind ofJson?

/-- Whether a text holds what another does after any number of changes. -/
def TextRevised (methods : String → Prop) (s t : String) : Prop :=
  ∃ v w, Json.parse s = some v ∧ Json.parse t = some w ∧ Relation.ReflTransGen (Revised methods) v w

/-- Whether a text gives `n` for the method of a transfer under way. -/
def NamesMethod (text n : String) : Prop :=
  ∃ v items item q, Json.parse text = some v ∧ v.HasMember "shard_transfers" (.array items) ∧ item ∈ items ∧
    item.HasMember "method" (.string q) ∧ q.text? = some n

variable {s t n : String} {r r' : PlacementReport}

theorem parse?_of_textRevised (read : parse? s = some r) (revised : TextRevised TransferMethod.Heard s t) :
    ∃ r', parse? t = some r' ∧ r.Agrees r' := by
  obtain ⟨v, w, before, after, revisions⟩ := revised
  have here : ofJson? v = some r := by simpa [parse?, before] using read
  obtain ⟨r', there, agree⟩ := follows_of_revisions revisions r here
  exact ⟨r', by simpa [parse?, after] using there, agree⟩

theorem heard_of_parse? (read : parse? t = some r) (named : NamesMethod t n) : TransferMethod.Heard n := by
  obtain ⟨v, items, item, q, text, listed, member, method, spelled⟩ := named
  exact heard_of_ofJson? (by simpa [parse?, text] using read) listed member method spelled

theorem showsNone_withoutMethods (p : PeerId) : r.withoutMethods.showsNone p = r.showsNone p := rfl

theorem ofReport_withoutMethods (activeOnly : Bool) :
    Placement.ofReport activeOnly r.withoutMethods = Placement.ofReport activeOnly r := rfl

theorem Agrees.showsNone (h : r.Agrees r') (p : PeerId) : r'.showsNone p = r.showsNone p := by
  rw [← showsNone_withoutMethods, h, showsNone_withoutMethods]

theorem Agrees.ofReport (h : r.Agrees r') (activeOnly : Bool) :
    Placement.ofReport activeOnly r' = Placement.ofReport activeOnly r := by
  rw [← ofReport_withoutMethods, h, ofReport_withoutMethods]

end PlacementReport

namespace Planning

/-- A text that holds a report still holds one after any changes by which the methods of transfers under way get known
names only. The report is the same up to these methods, so that it shows the same peers without replicas and leads to
the same plans. A text that gives another name for a method holds no report, whatever else stands in it. -/
theorem revised_reports_read_alike {s : String} {r : PlacementReport} (read : PlacementReport.parse? s = some r)
    (t : String) :
    (PlacementReport.TextRevised TransferMethod.Heard s t → ∃ r', PlacementReport.parse? t = some r' ∧ r.Agrees r' ∧
        (∀ p, r'.showsNone p = r.showsNone p) ∧ ∀ (activeOnly : Bool) (c : String) (factor : Nat),
          let seen (report : PlacementReport) : Topology := ⟨c, factor, .ofReport activeOnly report⟩
          (∀ (planner : Planner) (ring : Ring), planner.plan (seen r') ring = planner.plan (seen r) ring) ∧
            ∀ request : EqualizeRequest, request.draft (seen r') = request.draft (seen r)) ∧
      ∀ n, PlacementReport.NamesMethod t n → ¬TransferMethod.Heard n → PlacementReport.parse? t = none := by
  refine ⟨fun revised => ?_, fun n named unheard => ?_⟩
  · obtain ⟨r', read', agree⟩ := PlacementReport.parse?_of_textRevised read revised
    refine ⟨r', read', agree, agree.showsNone, fun activeOnly c factor => ?_⟩
    intro seen
    have same : seen r' = seen r := congrArg (Topology.mk c factor) (agree.ofReport activeOnly)
    exact ⟨fun planner ring => by rw [same], fun request => by rw [same]⟩
  · rw [Option.eq_none_iff_forall_ne_some]
    exact fun r' read' => unheard (PlacementReport.heard_of_parse? read' named)

theorem newer_report_read :
    let text (field state method : String) : String :=
      "\x7b\"peer_id\":1,\"remote_shards\":[\x7b\"shard_id\":0,\"peer_id\":2,\"state\":\"" ++ state ++
        "\"\x7d],\"shard_transfers\":[\x7b\"shard_id\":0,\"from\":1,\"to\":2,\"method\":\"" ++ method ++
          "\"\x7d]" ++ field ++ "\x7d"
    let s := text "" "Warming" "snapshot"
    let t := text ",\"term\":[7,null]" "Thawing" "wal_delta"
    let r : PlacementReport := ⟨1, 0, [], [⟨2, 0, .unknown⟩], [⟨0, 1, 2, false, some .snapshot⟩]⟩
    PlacementReport.parse? s = some r ∧ PlacementReport.TextRevised TransferMethod.Heard s t ∧
      ∃ r', PlacementReport.parse? t = some r' ∧ r.Agrees r' ∧ r'.showsNone 2 = r.showsNone 2 := by
  -- a field is added that is not read, a state without a known name gets another such name and a transfer another
  -- method
  intro text s t r
  let replica (state : String) : Json := .record [("shard_id", .nat 0), ("peer_id", .nat 2), ("state", .text state)]
  let transfer (method : String) : Json := .record
    [("shard_id", .nat 0), ("from", .nat 1), ("to", .nat 2), ("method", .text method)]
  let report (fields : List (String × Json)) (state method : String) : Json := .record
    ([("peer_id", .nat 1), ("remote_shards", .array [replica state]), ("shard_transfers", .array [transfer method])] ++
      fields)
  let term : String × Json := ("term", .array [.nat 7, .null])
  have before : Json.parse s = some (report [] "Warming" "snapshot") := Json.parse_of_tokens (by decide +kernel) rfl
  have after : Json.parse t = some (report [term] "Thawing" "wal_delta") :=
    Json.parse_of_tokens (by decide +kernel) rfl
  have added : PlacementReport.Revised TransferMethod.Heard (report [] "Warming" "snapshot")
      (report [term] "Warming" "snapshot") :=
    @Json.Revised.added _ _ [_, _, _] [] (.ofText "term") "term" (by simp) (by decide) _
  have thawing : Replica.Revised (replica "Warming") (replica "Thawing") :=
    @Json.Revised.changed _ _ [_, _] [] (.ofText "state") "state" _ _ (by simp) fun _ =>
      ⟨rfl, .mk (Json.Quoted.text?_ofText _) (Json.Quoted.text?_ofText _)
        (ReplicaState.unheard_iff.2 rfl) (ReplicaState.unheard_iff.2 rfl)⟩
  have state : PlacementReport.Revised TransferMethod.Heard (report [term] "Warming" "snapshot")
      (report [term] "Thawing" "snapshot") :=
    @Json.Revised.changed _ _ [_] [_, _] (.ofText "remote_shards") "remote_shards" _ _ (by simp)
      fun _ => .inr (.inl ⟨rfl, @Json.ItemRevised.mk _ [] [] _ _ thawing⟩)
  have heard : OngoingTransfer.Revised TransferMethod.Heard (transfer "snapshot") (transfer "wal_delta") :=
    @Json.Revised.changed _ _ [_, _, _] [] (.ofText "method") "method" _ _ (by simp) fun _ =>
      ⟨rfl, .mk (Json.Quoted.text?_ofText _) (Json.Quoted.text?_ofText _) trivial ⟨.walDelta, rfl⟩⟩
  have method : PlacementReport.Revised TransferMethod.Heard (report [term] "Thawing" "snapshot")
      (report [term] "Thawing" "wal_delta") :=
    @Json.Revised.changed _ _ [_, _] [_] (.ofText "shard_transfers") "shard_transfers" _ _ (by simp)
      fun _ => .inr (.inr ⟨rfl, @Json.ItemRevised.mk _ [] [] _ _ heard⟩)
  have read : PlacementReport.parse? s = some r := by
    rw [PlacementReport.parse?, before]
    decide +kernel
  have revised : PlacementReport.TextRevised TransferMethod.Heard s t :=
    ⟨_, _, before, after, .tail (.tail (.single added) state) method⟩
  obtain ⟨r', read', agree, shown, -⟩ := (revised_reports_read_alike read t).1 revised
  exact ⟨read, revised, r', read', agree, shown 2⟩

theorem renamed_method_refused :
    let text (method : String) : String :=
      "\x7b\"peer_id\":1,\"shard_transfers\":[\x7b\"shard_id\":0,\"from\":1,\"to\":2,\"method\":\"" ++ method ++
        "\"\x7d]\x7d"
    let s := text "snapshot"
    let t := text "resharding_stream_records"
    (PlacementReport.parse? s).isSome ∧ PlacementReport.TextRevised (fun _ => True) s t ∧
      PlacementReport.parse? t = none := by
  -- a report of a transfer whose method gets a name that is not known
  intro text s t
  let transfer (method : String) : Json := .record
    [("shard_id", .nat 0), ("from", .nat 1), ("to", .nat 2), ("method", .text method)]
  let report (method : String) : Json := .record [("peer_id", .nat 1), ("shard_transfers", .array [transfer method])]
  have before : Json.parse s = some (report "snapshot") := Json.parse_of_tokens (by decide +kernel) rfl
  have after : Json.parse t = some (report "resharding_stream_records") :=
    Json.parse_of_tokens (by decide +kernel) rfl
  have renamed : OngoingTransfer.Revised (fun _ => True) (transfer "snapshot") (transfer "resharding_stream_records") :=
    @Json.Revised.changed _ _ [_, _, _] [] (.ofText "method") "method" _ _ (by simp)
      fun _ => ⟨rfl, .mk (Json.Quoted.text?_ofText _) (Json.Quoted.text?_ofText _) trivial trivial⟩
  have revised : PlacementReport.Revised (fun _ => True) (report "snapshot") (report "resharding_stream_records") :=
    @Json.Revised.changed _ _ [_] [] (.ofText "shard_transfers") "shard_transfers" _ _ (by simp)
      fun _ => .inr (.inr ⟨rfl, @Json.ItemRevised.mk _ [] [] _ _ renamed⟩)
  refine ⟨?_, ⟨_, _, before, after, .single revised⟩, ?_⟩
  · rw [PlacementReport.parse?, before]
    decide +kernel
  · rw [PlacementReport.parse?, after]
    decide +kernel

end Planning
end ShardBalance
