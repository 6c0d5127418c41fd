import ShardBalance.Proofs.Json.Parsing
import ShardBalance.Proofs.Responses
import ShardBalance.Scripted.Server

/-!
Values that go over the wire as JSON and come back as they were: operations, transfers and plans, and whatever a cluster
tells of itself, inside an envelope or without.
-/

namespace ShardBalance

namespace Json

variable {α : Type}

@[simp] theorem wellFormed_text (s : String) : (text s).WellFormed := .string (Quoted.closed_ofText s)

@[simp] theorem wellFormed_word64 (w : UInt64) : (word64 w).WellFormed := .number (Numeral.wellFormed_ofNat _)

@[simp] theorem wellFormed_word32 (w : UInt32) : (word32 w).WellFormed := .number (Numeral.wellFormed_ofNat _)

@[simp] theorem wellFormed_bool (b : Bool) : (bool b).WellFormed := .bool b

@[simp] theorem wellFormed_option {write : α → Json} {o : Option α} :
    (option write o).WellFormed ↔ ∀ a ∈ o, (write a).WellFormed := by
  cases o with
  | none => exact ⟨nofun, fun _ => .null⟩
  | some a => simp [option]

@[simp] theorem wellFormed_array {items : List Json} : (array items).WellFormed ↔ ∀ v ∈ items, v.WellFormed :=
  ⟨fun | .array h => h, .array⟩

theorem wellFormed_object_map {β : Type} (name : β → Quoted) (value : β → Json) (closed : ∀ b, (name b).Closed)
    (l : List β) : (object (l.map fun b => (name b, value b))).WellFormed ↔ ∀ b ∈ l, (value b).WellFormed := by
  constructor
  · intro h
    cases h with
    | object _ values => exact fun b hb => values _ (List.mem_map_of_mem hb)
  · exact fun h => .object (List.forall_mem_map.2 fun b _ => closed b) (List.forall_mem_map.2 h)

@[simp] theorem wellFormed_list {write : α → Json} {l : List α} :
    (list write l).WellFormed ↔ ∀ a ∈ l, (write a).WellFormed := by simp [list]

@[simp] theorem wellFormed_record {members : List (String × Json)} :
    (record members).WellFormed ↔ ∀ m ∈ members, m.2.WellFormed :=
  wellFormed_object_map (fun m : String × Json => Quoted.ofText m.1) (fun m => m.2)
    (fun m => Quoted.closed_ofText m.1) members

theorem mapM_map_eq_some {β : Type} {read : β → Option α} {write : α → β} (back : ∀ a, read (write a) = some a)
    (l : List α) : (l.map write).mapM read = some l := by
  induction l with
  | nil => rfl
  | cons a l ih => rw [List.map_cons, List.mapM_cons, back, ih]; rfl

@[simp] theorem bool?_bool (b : Bool) : (bool b).bool? = some b := rfl

@[simp] theorem choice?_text (s : String) : (text s).choice? = some s := Quoted.text?_ofText s

theorem named?_record (members : List (String × Json)) :
    named? (members.map fun m => (Quoted.ofText m.1, m.2)) = some members :=
  mapM_map_eq_some (fun m => by simp) members

theorem fields?_record {names : List String} {members : List (String × Json)} (known : ∀ m ∈ members, m.1 ∈ names)
    (once : (members.map (·.1)).Nodup) : (record members).fields? names = some ⟨members, false⟩ := by
  have all : members.filter (·.1 ∈ names) = members := List.filter_eq_self.2 (by simpa using known)
  rw [record, fields?, named?_record]
  simp [Fields.ofMembers?, all, once]

theorem option?_option {read : Json → Option α} {write : α → Json} (back : ∀ a, read (write a) = some a)
    (value : ∀ a, write a ≠ .null) (o : Option α) : (option write o).option? read = some o := by
  cases o with
  | none => rfl
  | some a =>
    rw [option, option?, back]
    · rfl
    · exact value a

theorem list?_list {read : Json → Option α} {write : α → Json} (back : ∀ a, read (write a) = some a) (l : List α) :
    (list write l).list? read = some l :=
  mapM_map_eq_some back l

end Json

@[simp] theorem ReplicaState.wellFormed_json (s : ReplicaState) : s.json.WellFormed := Json.wellFormed_text s.name

@[simp] theorem ReplicaState.ofJson?_json (s : ReplicaState) : ofJson? s.json = some s := by simp [ofJson?, json]

@[simp] theorem TransferMethod.wellFormed_json (m : TransferMethod) : m.json.WellFormed := Json.wellFormed_text m.name

@[simp] theorem TransferMethod.ofJson?_json (m : TransferMethod) : ofJson? m.json = some m := by simp [ofJson?, json]

theorem TransferMethod.json_ne_null (m : TransferMethod) : m.json ≠ .null := nofun

namespace LocalReplica

@[simp] theorem wellFormed_json (r : LocalReplica) : r.json.WellFormed := by simp [json]

theorem ofJson?_json (r : LocalReplica) : ofJson? r.json = some r := by
  rw [ofJson?, json, Json.fields?_record (by simp) (by simp)]
  simp [Fields.required, Fields.orElse]

end LocalReplica

namespace Replica

@[simp] theorem wellFormed_json (r : Replica) : r.json.WellFormed := by simp [json]

theorem ofJson?_json (r : Replica) : ofJson? r.json = some r := by
  rw [ofJson?, json, Json.fields?_record (by simp) (by simp)]
  simp [Fields.required]

end Replica

namespace OngoingTransfer

@[simp] theorem wellFormed_json (t : OngoingTransfer) : t.json.WellFormed := by simp [json]

theorem ofJson?_json (t : OngoingTransfer) : ofJson? t.json = some t := by
  have method := Json.option?_option TransferMethod.ofJson?_json TransferMethod.json_ne_null t.method
  rw [ofJson?, json, Json.fields?_record (by simp) (by simp)]
  simp [Fields.required, Fields.orElse, method]

end OngoingTransfer

namespace PlacementReport

@[simp] theorem wellFormed_json (r : PlacementReport) : r.json.WellFormed := by simp [json]

@[simp] theorem ofJson?_json (r : PlacementReport) : ofJson? r.json = some r := by
  have own := Json.list?_list LocalReplica.ofJson?_json r.own
  have others := Json.list?_list Replica.ofJson?_json r.others
  have ongoing := Json.list?_list OngoingTransfer.ofJson?_json r.ongoing
  rw [ofJson?, json, Json.fields?_record (by simp) (by simp)]
  simp [Fields.required, Fields.orElse, own, others, ongoing]

end PlacementReport

namespace CollectionReport

@[simp] theorem wellFormed_json (r : CollectionReport) : r.json.WellFormed := by simp [json, parametersJson]

@[simp] theorem ofJson?_json (r : CollectionReport) : ofJson? r.json = some r := by
  have text := Json.option?_option Json.text?_text nofun
  have word64 := Json.option?_option Json.word64?_word64 nofun
  have word32 := Json.option?_option Json.word32?_word32 nofun
  rw [ofJson?, json, Json.fields?_record (by simp) (by simp)]
  simp [Fields.required, Fields.orElse, parametersJson, Json.fields?_record, text, word64, word32]

end CollectionReport

namespace CollectionList

@[simp] theorem wellFormed_json (l : CollectionList) : l.json.WellFormed := by simp [json]

theorem nameOfJson?_record (name : String) : nameOfJson? (.record [("name", .text name)]) = some name := by
  rw [nameOfJson?, Json.fields?_record (by simp) (by simp)]
  simp [Fields.required]

@[simp] theorem ofJson?_json (l : CollectionList) : ofJson? l.json = some l := by
  have names := Json.list?_list nameOfJson?_record l.names
  rw [ofJson?, json, Json.fields?_record (by simp) (by simp)]
  simp [Fields.required, names]

end CollectionList

namespace Ordered

variable {κ ν : Type} [Ranked κ]

theorem bindInto_eq_append {k : κ} (v : ν) {l : List (κ × ν)} (last : ∀ b ∈ l, rank b.1 < rank k) :
    bindInto k v l = l ++ [(k, v)] := by
  induction l with
  | nil => rfl
  | cons b l ih =>
    obtain ⟨before, last⟩ := List.forall_mem_cons.1 last
    rw [bindInto, if_neg (by omega), if_pos before, ih last]
    rfl

theorem Map.entries_foldl_insert {l : List (κ × ν)} {m : Map κ ν} (ascending : AscendingKeys (m.entries ++ l)) :
    (l.foldl (fun m e => m.insert e.1 e.2) m).entries = m.entries ++ l := by
  induction l generalizing m with
  | nil => simp
  | cons e l ih =>
    have last : ∀ b ∈ m.entries, rank b.1 < rank e.1 := fun b hb =>
      (List.pairwise_append.1 ascending).2.2 b hb e List.mem_cons_self
    have inserted : (m.insert e.1 e.2).entries = m.entries ++ [e] := bindInto_eq_append e.2 last
    rw [List.foldl_cons, ih (by simpa [inserted] using ascending), inserted]
    simp

theorem Map.ofList_entries (m : Map κ ν) : ofList m.entries = m := by
  have same : (ofList m.entries).entries = m.entries := entries_foldl_insert (m := empty) m.ascending
  generalize ofList m.entries = n at same
  cases m
  cases n
  simp_all

end Ordered

theorem Json.Quoted.word64?_ofWord64 (w : UInt64) : (ofWord64 w).word64? = some w := by
  have number := Numeral.read?_append (Numeral.wellFormed_ofNat w.toNat) Numeral.ends_nil
  have chars : (Numeral.ofNat w.toNat).chars ++ [] = (ofWord64 w).chars := by
    simp [Numeral.chars, Numeral.ofNat, ofWord64]
  rw [chars] at number
  simp [word64?, number]

namespace PeerReport

theorem addressOfJson?_addressJson (a : String) : addressOfJson? (addressJson a) = some a := by
  rw [addressOfJson?, addressJson, Json.fields?_record (by simp) (by simp)]
  simp [Fields.required]

theorem peersOfJson?_peersJson (t : PeerTable) : peersOfJson? (peersJson addressJson t) = some t := by
  have entries : (t.entries.map fun e => (Json.Quoted.ofWord64 e.1, addressJson e.2)).mapM (fun m => do
      return (← m.1.word64?, ← addressOfJson? m.2)) = some t.entries :=
    Json.mapM_map_eq_some (fun e => by simp [Json.Quoted.word64?_ofWord64, addressOfJson?_addressJson]) t.entries
  simp only [peersOfJson?, peersJson, entries]
  exact congrArg some t.ofList_entries

@[simp] theorem wellFormed_json (r : PeerReport) : r.json.WellFormed := by
  have peers : (peersJson addressJson r.peers).WellFormed :=
    (Json.wellFormed_object_map (fun e : PeerId × String => Json.Quoted.ofWord64 e.1) (fun e => addressJson e.2)
      (fun e => Json.Quoted.closed_ofWord64 e.1) r.peers.entries).2 fun e _ => by simp [addressJson]
  simp [json, peers]

@[simp] theorem ofJson?_json (r : PeerReport) : ofJson? r.json = some r := by
  have reporter := Json.option?_option Json.word64?_word64 nofun r.reporter
  rw [ofJson?, json, Json.fields?_record (by simp) (by simp)]
  simp [Fields.orElse, reporter, peersOfJson?_peersJson]

end PeerReport

namespace Operation

theorem kindOfName?_kindName (k : TransferKind) : kindOfName? (kindName k) = some k := by
  cases k <;> rfl

@[simp] theorem wellFormed_json (o : Operation) : o.json.WellFormed := by
  cases method : o.method <;> simp [json, detailsJson, method]

theorem ofDetails?_detailsJson (o : Operation) : ofDetails? o.kind o.detailsJson = some o := by
  obtain ⟨kind, shard, source, target, method⟩ := o
  cases method with
  | none =>
    rw [ofDetails?, detailsJson, Json.fields?_record (by simp) (by simp)]
    simp [Fields.required, Fields.orElse]
  | some m =>
    have method : m.json.option? TransferMethod.ofJson? = some (some m) :=
      Json.option?_option TransferMethod.ofJson?_json TransferMethod.json_ne_null (some m)
    rw [ofDetails?, detailsJson, Json.fields?_record (by simp) (by simp)]
    simp [Fields.required, Fields.orElse, method]

@[simp] theorem ofJson?_json (o : Operation) : ofJson? o.json = some o := by
  simp [ofJson?, json, Json.record, kindOfName?_kindName, ofDetails?_detailsJson]

end Operation

namespace Transfer

@[simp] theorem wellFormed_json (t : Transfer) : t.json.WellFormed := by simp [json]

theorem ofJson?_json (t : Transfer) : ofJson? t.json = some t := by
  rw [ofJson?, json, Json.fields?_record (by simp) (by simp)]
  obtain ⟨_, _, _, _, _, kind⟩ := t
  cases kind <;> simp [Fields.required]

end Transfer

namespace Plan

theorem goalOfName?_name (g : Goal) : goalOfName? g.name = some g := by
  cases g <;> rfl

@[simp] theorem wellFormed_json (p : Plan) : p.json.WellFormed := by simp [json]

@[simp] theorem ofJson?_json (p : Plan) : ofJson? p.json = some p := by
  have transfers := Json.list?_list Transfer.ofJson?_json p.transfers
  rw [ofJson?, json, Json.fields?_record (by simp) (by simp)]
  simp [Fields.required, transfers, goalOfName?_name]

end Plan

namespace Json

variable {α : Type}

/-- What is written can be read, also as a text. -/
def BothWays (write : α → Json) (read : Json → Option α) : Prop := ∀ a, (parse (write a).render).bind read = some a

theorem bothWays {write : α → Json} {read : Json → Option α} (wellFormed : ∀ a, (write a).WellFormed)
    (back : ∀ a, read (write a) = some a) : BothWays write read := by
  intro a
  rw [parse_render (wellFormed a), Option.bind_some, back]

theorem BothWays.injective {write : α → Json} {read : Json → Option α} (h : BothWays write read) :
    Function.Injective fun a => (write a).render := by
  intro a b (same : (write a).render = (write b).render)
  rw [← Option.some_inj, ← h a, same, h b]

end Json

namespace Envelope

variable {α : Type} {read : Json → Option α} {body : String}

/-- A text whose envelope gives a result, and the status ok. Whatever else it gives has to be readable only. -/
structure Carries (body : String) (result : Json) : Prop where
  result : given? body "result" = some result
  status : GivesStatus body (.plain "ok")
  time : ∀ t ∈ given? body "time", t.float?.isSome = true

theorem Carries.parse? {v : Json} {o : Option α} (h : Carries body v) (value : v.option? read = some o) :
    ∃ e, parse? read body = some e ∧ e.result = o ∧ e.status = .plain "ok" := by
  obtain ⟨f, fields, result⟩ := Option.bind_eq_some_iff.1 h.result
  have status : f.orElse "status" (.plain "ok") (Status.ofJson? (Json.depthLimit - 1)) = some (.plain "ok") := by
    cases h.status with
    | nothing missing =>
      rw [given?_eq fields] at missing
      exact Fields.orElse_of_missing missing _ _
    | text given text =>
      rw [given?_eq fields] at given
      simp [Fields.orElse_of_given given, Status.ofJson?, Json.readable, text]
  obtain ⟨time, seconds⟩ : ∃ time, f.orElse "time" 0 Json.float? = some time := by
    cases given : f.get? "time" with
    | none => exact ⟨0, Fields.orElse_of_missing given _ _⟩
    | some t =>
      rw [Fields.orElse_of_given given]
      exact Option.isSome_iff_exists.1 (h.time t ((given?_eq fields _).trans given))
  refine ⟨⟨o, .plain "ok", time⟩, parse?_eq_some_iff.2 ⟨f, fields, ?_, status, seconds⟩, rfl, rfl⟩
  rwa [Fields.ifNamed_of_given result]

theorem fields?_success {v : Json} (h : v.WellFormed) (status : String) :
    fields? (Scripted.Served.success v status).body =
      some ⟨[("result", v), ("status", .text status), Scripted.Served.noTime], false⟩ := by
  have noTime : Scripted.Served.noTime.2.WellFormed := .number (by constructor <;> simp)
  rw [fields?, Scripted.Served.success, Json.parse_render (by simp [h, noTime]), Option.bind_some,
    Json.fields?_record (by simp [Scripted.Served.noTime]) (by simp [Scripted.Served.noTime])]

theorem carries_success {v : Json} (h : v.WellFormed) : Carries (Scripted.Served.success v "ok").body v where
  result := by simp [given?_eq (fields?_success h "ok")]
  status := .text (by simp [given?_eq (fields?_success h "ok")]; rfl)
    (Json.Quoted.text?_ofText "ok")
  time t given := by
    obtain rfl : Scripted.Served.noTime.2 = t := by
      simpa [given?_eq (fields?_success h "ok"), Scripted.Served.noTime] using given
    simp [Scripted.Served.noTime, Json.float?, Json.Numeral.float?, Json.Numeral.gathered, Json.Numeral.Gathered.add,
      Json.Numeral.scale]

end Envelope

namespace Call

def resultJson : (c : Call) → c.Result → Json
  | peers => PeerReport.json
  | collections => CollectionList.json
  | collection _ => CollectionReport.json
  | placement _ => PlacementReport.json
  | update .. => .bool

theorem wellFormed_resultJson (c : Call) (v : c.Result) : (c.resultJson v).WellFormed := by
  cases c <;> simp [resultJson]

theorem readResult_resultJson (c : Call) (v : c.Result) : c.readResult (c.resultJson v) = some v := by
  cases c <;> simp [readResult, resultJson]

theorem resultJson_ne_null (c : Call) (v : c.Result) : c.resultJson v ≠ .null := by
  cases c <;> exact nofun

end Call

namespace Http.Client

/-- Operations, reports, lists, transfers and plans come back from the text that they are written as, so that distinct
operations are asked for by distinct texts. The answer to a call is what the envelope around it carries, in whatever
text that arrives. -/
theorem values_survive_wire :
    (Json.BothWays Operation.json Operation.ofJson? ∧ Json.BothWays PlacementReport.json PlacementReport.ofJson? ∧
        Json.BothWays PeerReport.json PeerReport.ofJson? ∧
        Json.BothWays CollectionReport.json CollectionReport.ofJson? ∧
        Json.BothWays CollectionList.json CollectionList.ofJson? ∧ Json.BothWays Transfer.json Transfer.ofJson? ∧
        Json.BothWays Plan.json Plan.ofJson?) ∧
      (∀ collection, Function.Injective fun o => (body (.update collection o)).map Json.render) ∧
      ∀ (c : Call) (v : c.Result),
        Envelope.Carries (Scripted.Served.success (c.resultJson v) "ok").body (c.resultJson v) ∧
        ∀ text, Envelope.Carries text (c.resultJson v) → answer c ⟨200, text⟩ = .ok (c.answerOf v (.plain "ok")) := by
  have operation := Json.bothWays Operation.wellFormed_json Operation.ofJson?_json
  refine ⟨⟨operation, Json.bothWays PlacementReport.wellFormed_json PlacementReport.ofJson?_json,
    Json.bothWays PeerReport.wellFormed_json PeerReport.ofJson?_json,
    Json.bothWays CollectionReport.wellFormed_json CollectionReport.ofJson?_json,
    Json.bothWays CollectionList.wellFormed_json CollectionList.ofJson?_json,
    Json.bothWays Transfer.wellFormed_json Transfer.ofJson?_json, Json.bothWays Plan.wellFormed_json Plan.ofJson?_json⟩,
    fun collection o₁ o₂ same => operation.injective (by simpa [body] using same),
    fun c v => ⟨Envelope.carries_success (c.wellFormed_resultJson v), fun text carries => ?_⟩⟩
  have value := Json.option?_option (Call.readResult_resultJson c) (Call.resultJson_ne_null c) (some v)
  obtain ⟨e, parsed, result, status⟩ := carries.parse? value
  rw [(judged_answer c ⟨200, text⟩).answered_iff]
  exact ⟨by simp, e, v, parsed, by simp [status, Status.error?], result, by rw [status]⟩

theorem quoted_name_arrives :
    let list : CollectionList := ⟨["\"\\\x01ö"]⟩
    let text := "\x7b\"usage\":0, \"result\":\x7b\"collections\":[\x7b\"name\":\"\\\"\\\\\\u0001ö\"\x7d]\x7d\x7d"
    Envelope.Carries text list.json ∧ answer .collections ⟨200, text⟩ = .ok ["\"\\\x01ö"] := by
  -- a name of a quote, a backslash, a control character and a character beyond ASCII arrives in a text with a blank,
  -- with a member that nothing reads and without a status
  intro list text
  have carries : Envelope.Carries text list.json := by
    have parsed : Json.parse text = some (.record [("usage", .nat 0), ("result", list.json)]) :=
      Json.parse_of_tokens (by decide +kernel) rfl
    have fields : Envelope.fields? text = some ⟨[("result", list.json)], false⟩ := by
      rw [Envelope.fields?, parsed, Option.bind_some, Json.record, Json.fields?, Json.named?_record]
      simp [Fields.ofMembers?]
    have given := Envelope.given?_eq fields
    exact ⟨by simp [given], .nothing (by simp [given]), by simp [given]⟩
  obtain ⟨-, -, arrive⟩ := values_survive_wire
  exact ⟨carries, (arrive .collections list).2 text carries⟩

end Http.Client
end ShardBalance
