import ShardBalance.Http.Client
import ShardBalance.Proofs.Runs

/-!
Calls over HTTP. Each call is one request, and what it comes to depends on the status of the response and on the
envelope in its body. The body of a response without success is read only for the message of the cluster.
-/

namespace ShardBalance

namespace Envelope

variable {α : Type} {read : Json → Option α} {body : String} {e : Envelope α}

/-- The envelope that a text holds. -/
def parse? (read : Json → Option α) (body : String) : Option (Envelope α) := (Json.parse body).bind (ofJson? read)

/-- The fields that the envelope of a text gives. -/
def fields? (body : String) : Option (Fields Json) :=
  (Json.parse body).bind (Json.fields? ["result", "status", "time"])

/-- What a text gives for a field of its envelope. -/
def given? (body name : String) : Option Json := (fields? body).bind (·.get? name)

theorem given?_eq {f : Fields Json} (h : fields? body = some f) (name : String) : given? body name = f.get? name := by
  simp [given?, h]

theorem parse?_eq_some_iff : parse? read body = some e ↔
    ∃ f, fields? body = some f ∧ f.ifNamed "result" (Json.option? read) = some e.result ∧
      f.orElse "status" (.plain "ok") (Status.ofJson? (Json.depthLimit - 1)) = some e.status ∧
      f.orElse "time" 0 Json.float? = some e.time := by
  constructor
  · intro h
    obtain ⟨v, parsed, h⟩ := Option.bind_eq_some_iff.1 h
    simp only [ofJson?, Option.bind_eq_bind, Option.bind_eq_some_iff] at h
    obtain ⟨f, fields, result, some, status, plain, time, seconds, h⟩ := h
    cases h
    exact ⟨f, by simp [fields?, parsed, fields], some, plain, seconds⟩
  · rintro ⟨f, fields, result, status, time⟩
    obtain ⟨v, parsed, fields⟩ := Option.bind_eq_some_iff.1 fields
    simp [parse?, parsed, ofJson?, fields, result, status, time]

theorem option?_eq_some_none_iff {v : Json} : v.option? read = some none ↔ v = .null := by
  unfold Json.option?
  split
  next => simp
  next value => simpa using value

theorem result_eq_none_iff (h : parse? read body = some e) :
    e.result = none ↔ given? body "result" = none ∨ given? body "result" = some .null := by
  obtain ⟨f, fields, h, -, -⟩ := parse?_eq_some_iff.1 h
  rw [given?_eq fields]
  cases given : f.get? "result" with
  | none => simp [Fields.eq_none_of_missing given h]
  | some v =>
    rw [Fields.ifNamed_of_given given] at h
    rw [← Option.some_inj, ← h, option?_eq_some_none_iff]
    simp

/-- How the status of an envelope comes about: from nothing, from a text, or from an object with an error. -/
inductive GivesStatus (body : String) : Status → Prop
  | nothing (missing : given? body "status" = none) : GivesStatus body (.plain "ok")
  | text {q : Json.Quoted} {s : String} (given : given? body "status" = some (.string q)) (text : q.text? = some s) :
      GivesStatus body (.plain s)
  | error {members : List (Json.Quoted × Json)} {f : Fields Json} {message : String}
      (given : given? body "status" = some (.object members))
      (fields : (Json.object members).fields? ["error"] = some f)
      (text : f.required "error" Json.text? = some message) : GivesStatus body (.error message)

theorem givesStatus_of_ofJson? {depth : Nat} {v : Json} {s : Status} (given : given? body "status" = some v)
    (h : Status.ofJson? depth v = some s) : GivesStatus body s := by
  unfold Status.ofJson? at h
  split at h
  next =>
    split at h
    next q =>
      obtain ⟨text, readable, rfl⟩ := Option.map_eq_some_iff.1 h
      exact .text given readable
    next members =>
      simp only [Option.bind_eq_bind, Option.bind_eq_some_iff] at h
      obtain ⟨f, fields, message, text, h⟩ := h
      cases h
      exact .error given (Option.bind_eq_some_iff.2 fields) text
    next => cases h
  next => cases h

theorem givesStatus (h : parse? read body = some e) : GivesStatus body e.status := by
  obtain ⟨f, fields, -, h, -⟩ := parse?_eq_some_iff.1 h
  have lookup := given?_eq fields "status"
  cases given : f.get? "status" with
  | none =>
    rw [Fields.orElse_of_missing given] at h
    exact Option.some.inj h ▸ .nothing (lookup.trans given)
  | some v =>
    rw [Fields.orElse_of_given given] at h
    exact givesStatus_of_ofJson? (lookup.trans given) h

end Envelope

theorem Status.eq_plain {s : Status} (h : s.error? = none) : s = .plain s.text := by
  cases s with
  | plain text => rfl
  | error message => cases h

namespace Call

/-- What a cluster gives as the result of a call. -/
abbrev Result : Call → Type
  | peers => PeerReport
  | collections => CollectionList
  | collection _ => CollectionReport
  | placement _ => PlacementReport
  | update .. => Bool

def readResult : (c : Call) → Json → Option c.Result
  | peers => PeerReport.ofJson?
  | collections => CollectionList.ofJson?
  | collection _ => CollectionReport.ofJson?
  | placement _ => PlacementReport.ofJson?
  | update .. => Json.bool?

/-- The answer that a result means, in an envelope with the given status. -/
def answerOf : (c : Call) → c.Result → Status → c.Answer
  | peers, r, _ => r
  | collections, l, _ => l.names
  | collection _, r, _ => r
  | placement _, r, _ => r
  | update .., accepted, s => ⟨accepted, s.text⟩

end Call

namespace Http

theorem Response.isSuccess_iff {r : Response} : r.isSuccess = true ↔ r.status / 100 = 2 := by
  simp only [isSuccess, Bool.and_eq_true, decide_eq_true_eq]
  omega

/-- A server that answers all requests alike, and keeps them. -/
def Server.constant (r : Response) : Server (List Request) := fun request sent => (.response r false, sent ++ [request])

namespace Client

variable {k : Client} {c : Call} {r : Response}

theorem answer_eq (c : Call) (r : Response) :
    answer c r = (unwrap c.readResult c r).map fun a => c.answerOf a.1 a.2 := by
  cases c <;> rfl

theorem answer_of_unreadable (success : r.isSuccess = true) (h : Envelope.parse? c.readResult r.body = none) :
    answer c r = .error (.transport .unreadable) := by
  rw [Envelope.parse?] at h
  simp [answer_eq, unwrap, success, h, Except.map]

section

variable {e : Envelope c.Result} (success : r.isSuccess = true) (h : Envelope.parse? c.readResult r.body = some e)

include success h

theorem answer_of_error {message : String} (error : e.status.error? = some message) :
    answer c r = .error (.refused r.status message) := by
  rw [Envelope.parse?] at h
  simp [answer_eq, unwrap, success, h, error, Except.map]

theorem answer_of_empty (plain : e.status.error? = none) (empty : e.result = none) :
    answer c r = .error (.refused r.status s!"{subject c} returned no result") := by
  rw [Envelope.parse?] at h
  simp [answer_eq, unwrap, success, h, plain, empty, Except.map]

theorem answer_of_result {result : c.Result} (plain : e.status.error? = none) (given : e.result = some result) :
    answer c r = .ok (c.answerOf result e.status) := by
  rw [Envelope.parse?] at h
  simp [answer_eq, unwrap, success, h, plain, given, Except.map]

end

theorem errorIn_eq (text : String) :
    errorIn text = (Envelope.parse? Envelope.anyResult? text).bind fun e => e.status.error? := by
  simp [errorIn, Envelope.parse?, Option.bind_assoc]

theorem answer_of_failure (failure : r.isSuccess = false) :
    answer c r = .error (.refused r.status ((errorIn r.body).getD r.body)) := by
  simp [answer_eq, unwrap, failure, Except.map]

theorem exists_request (usable : ∃ l, k.base.path = .segments l)
    (valid : ∀ key ∈ k.apiKey, key.all isHeaderChar = true) (c : Call) :
    ∃ url, k.endpoint c = .ok url ∧ k.request c = .ok ⟨method c, url, k.apiKey, body c⟩ := by
  obtain ⟨l, path⟩ := usable
  have sendable : k.apiKey.any (!·.all isHeaderChar) = false := by
    cases h : k.apiKey with
    | none => rfl
    | some key => simpa using valid key h
  obtain ⟨url, endpoint⟩ : ∃ url, k.endpoint c = .ok url := by simp [endpoint, Url.extend?, path]
  refine ⟨url, endpoint, ?_⟩
  simp only [request, endpoint, sendable]
  rfl

theorem backend_constant {request : Request} (h : k.request c = .ok request) (r : Response) (sent : List Request) :
    k.backend (Server.constant r) c sent = (.answered (answer c r) false, sent ++ [request]) := by
  simp [backend, h, Server.constant, reaction]

/-- How a response to a call is understood. -/
structure Judged (c : Call) (r : Response) (x : Except ClientFailure c.Answer) : Prop where
  answered_iff : ∀ a, x = .ok a ↔ r.status / 100 = 2 ∧ ∃ e result, Envelope.parse? c.readResult r.body = some e ∧
    e.status.error? = none ∧ e.result = some result ∧ a = c.answerOf result e.status
  /-- An envelope without a result is as good as a refusal. -/
  empty : ∀ e, r.status / 100 = 2 → Envelope.parse? c.readResult r.body = some e → e.status.error? = none →
    e.result = none → x = .error (.refused r.status s!"{subject c} returned no result")
  /-- An error in the envelope counts, whatever the result. -/
  refused : ∀ e message, r.status / 100 = 2 → Envelope.parse? c.readResult r.body = some e →
    e.status.error? = some message → x = .error (.refused r.status message)
  unreadable : r.status / 100 = 2 → Envelope.parse? c.readResult r.body = none → x = .error (.transport .unreadable)
  /-- Without success the envelope is only asked for an error, and its result may be anything. -/
  explained : ∀ e message, r.status / 100 ≠ 2 → Envelope.parse? Envelope.anyResult? r.body = some e →
    e.status.error? = some message → x = .error (.refused r.status message)
  unexplained : r.status / 100 ≠ 2 →
    (∀ e, Envelope.parse? Envelope.anyResult? r.body = some e → e.status.error? = none) →
      x = .error (.refused r.status r.body)

theorem judged_answer (c : Call) (r : Response) : Judged c r (answer c r) where
  answered_iff a := by
    rw [← Response.isSuccess_iff]
    cases success : r.isSuccess with
    | false => simp [answer_of_failure success]
    | true =>
      cases parsed : Envelope.parse? c.readResult r.body with
      | none => simp [answer_of_unreadable success parsed]
      | some e =>
        cases error : e.status.error? with
        | some message => simp [answer_of_error success parsed error, error]
        | none =>
          cases given : e.result with
          | none => simp [answer_of_empty success parsed error given, given]
          | some result =>
            rw [answer_of_result success parsed error given, Except.ok.injEq]
            constructor
            · rintro rfl
              exact ⟨rfl, e, result, rfl, error, given, rfl⟩
            · rintro ⟨-, _, _, ⟨⟩, -, found, rfl⟩
              rw [Option.some.inj (given.symm.trans found)]
  empty e success parsed error none := answer_of_empty (Response.isSuccess_iff.2 success) parsed error none
  refused e message success parsed error := answer_of_error (Response.isSuccess_iff.2 success) parsed error
  unreadable success unreadable := answer_of_unreadable (Response.isSuccess_iff.2 success) unreadable
  explained e message failure parsed error := by
    rw [answer_of_failure (by rwa [← Bool.not_eq_true, Response.isSuccess_iff]), errorIn_eq, parsed, Option.bind_some,
      error, Option.getD_some]
  unexplained failure silent := by
    have nothing : errorIn r.body = none := by
      rw [errorIn_eq, Option.bind_eq_none_iff]
      exact silent
    rw [answer_of_failure (by rwa [← Bool.not_eq_true, Response.isSuccess_iff]), nothing, Option.getD_none]

theorem answer_update_eq_iff {name : String} {o : Operation} {status : String} :
    answer (.update name o) r = .ok ⟨true, status⟩ ↔ r.status / 100 = 2 ∧
      ∃ e, Envelope.parse? Json.bool? r.body = some e ∧ e.status = .plain status ∧ e.result = some true := by
  rw [(judged_answer (.update name o) r).answered_iff]
  refine and_congr_right fun _ => exists_congr fun e => ?_
  constructor
  · rintro ⟨accepted, parsed, plain, given, answered⟩
    cases answered
    exact ⟨parsed, Status.eq_plain plain, given⟩
  · rintro ⟨parsed, plain, given⟩
    exact ⟨true, parsed, by rw [plain]; rfl, given, by rw [plain]; rfl⟩

/-- A call with a usable base URL and key is one request, with the key if there is one and with a body if it is an
update. What the response means that the transport delivers to it follows from its status and from its envelope. An update
is accepted just by an envelope without error that gives `true` for its result. -/
theorem responses_judged (usable : ∃ l, k.base.path = .segments l)
    (valid : ∀ key ∈ k.apiKey, key.all isHeaderChar = true) :
    (∀ c, ∃ request : Request, k.endpoint c = .ok request.url ∧ request.apiKey = k.apiKey ∧
        request.body = c.update?.map (fun u => u.2.json) ∧
        ∀ r sent, ∃ x, k.backend (Server.constant r) c sent = (.answered x false, sent ++ [request]) ∧ Judged c r x) ∧
      (∀ name o r status sent,
        (k.backend (Server.constant r) (.update name o) sent).1 = .answered (.ok ⟨true, status⟩) false ↔
          r.status / 100 = 2 ∧ ∃ e, Envelope.parse? Json.bool? r.body = some e ∧ e.status = .plain status ∧
            e.result = some true) ∧
      ∀ (α : Type) (read : Json → Option α) body e, Envelope.parse? read body = some e →
        Envelope.GivesStatus body e.status ∧
        (e.result = none ↔ Envelope.given? body "result" = none ∨ Envelope.given? body "result" = some .null) := by
  refine ⟨fun c => ?_, fun name o r status sent => ?_, fun _ _ body e parsed =>
    ⟨Envelope.givesStatus parsed, Envelope.result_eq_none_iff parsed⟩⟩
  · obtain ⟨url, endpoint, request⟩ := exists_request usable valid c
    refine ⟨_, endpoint, rfl, ?_, fun r sent => ⟨_, backend_constant request r sent, judged_answer c r⟩⟩
    cases c <;> rfl
  · obtain ⟨url, -, request⟩ := exists_request usable valid (.update name o)
    rw [backend_constant request, Reaction.answered.injEq, and_iff_left rfl]
    exact answer_update_eq_iff

theorem error_outweighs_result :
    let k : Client := ⟨⟨"http".toList, some ⟨[], [], .ipv6 [0, 0, 0, 0, 0, 0, 0, 1], some 6333⟩, .segments [[]], none,
      none⟩, some "key"⟩
    let o : Operation := ⟨.move, 0, 1, 2, none⟩
    let busy : Response := ⟨200, "\x7b\"result\":true,\"status\":\x7b\"error\":\"busy\"\x7d\x7d"⟩
    ofSettings ⟨"http://[::1]:6333", some "key", 5000, 30000⟩ = .ok k ∧ (∃ l, k.base.path = .segments l) ∧
      (∀ key ∈ k.apiKey, key.all isHeaderChar = true) ∧
      ∃ request : Request, request.apiKey = some "key" ∧ request.body = some o.json ∧
        k.backend (Server.constant busy) (.update "docs" o) [] =
          (.answered (.error (.refused 200 "busy")) false, [request]) := by
  -- a result of `true` does not make up for an error beside it
  intro k o busy
  have built : ofSettings ⟨"http://[::1]:6333", some "key", 5000, 30000⟩ = .ok k := rfl
  have usable : ∃ l, k.base.path = .segments l := ⟨_, rfl⟩
  have valid : ∀ key ∈ k.apiKey, key.all isHeaderChar = true := by
    rintro _ ⟨⟩
    simp [isHeaderChar]
  obtain ⟨request, -, key, written, answered⟩ := (responses_judged usable valid).1 (.update "docs" o)
  obtain ⟨x, received, judged⟩ := answered busy []
  have error : (Envelope.parse? Json.bool? busy.body).map (·.status) = some (.error "busy") := by decide +kernel
  obtain ⟨e, parsed, status⟩ := Option.map_eq_some_iff.1 error
  rw [judged.refused e "busy" (by decide) parsed (by rw [status]; rfl)] at received
  exact ⟨built, usable, valid, request, key, written, received⟩

end Client
end Http
end ShardBalance
