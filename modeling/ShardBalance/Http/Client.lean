import ShardBalance.Http.Message
import ShardBalance.Procedure
import ShardBalance.Settings
import ShardBalance.Wire.Collection
import ShardBalance.Wire.Envelope
import ShardBalance.Wire.Peers
import ShardBalance.Wire.Transfer

/-!
Calls to a cluster as HTTP requests, and the answers in the responses to them.
-/

namespace ShardBalance.Http

structure Client where
  base : Url
  apiKey : Option String

namespace Client

def ofSettings (s : ConnectionSettings) : Except ClientFailure Client := do
  return ⟨← s.baseUrl, s.apiKey⟩

/-- Where a call goes, below the base URL. -/
def segments : Call → List String
  | .peers => ["cluster"]
  | .collections => ["collections"]
  | .collection name => ["collections", name]
  | .placement name | .update name _ => ["collections", name, "cluster"]

def endpoint (k : Client) (c : Call) : Except ClientFailure Url :=
  match k.base.extend? ((segments c).map String.toList) with
  | some url => .ok url
  | none => .error (.config s!"{k.base.text} cannot be used as a base URL")

def method : Call → Method
  | .update .. => .post
  | _ => .get

def body : Call → Option Json
  | .update _ o => some o.json
  | _ => none

def request (k : Client) (c : Call) : Except ClientFailure Request := do
  let url ← k.endpoint c
  if k.apiKey.any (!·.all isHeaderChar) then throw (.transport .header)
  return ⟨method c, url, k.apiKey, body c⟩

def subject : Call → String
  | .peers => "get cluster info"
  | .collections => "list collections"
  | .collection _ => "get collection info"
  | .placement _ => "get collection clustering info"
  | .update .. => "update collection clustering setup"

/-- The error in the envelope of a text, if it is one. -/
def errorIn (text : String) : Option String := do
  let v ← Json.parse text
  let e ← Envelope.ofJson? Envelope.anyResult? v
  e.status.error?

/-- The result of a response and the status of its envelope. -/
def unwrap {α : Type} (read : Json → Option α) (c : Call) (r : Response) :
    Except ClientFailure (α × Status) :=
  if r.isSuccess then
    match (Json.parse r.body).bind (Envelope.ofJson? read) with
    | none => .error (.transport .unreadable)
    | some e =>
      match e.status.error?, e.result with
      | some message, _ => .error (.refused r.status message)
      | none, some result => .ok (result, e.status)
      | none, none => .error (.refused r.status s!"{subject c} returned no result")
  else .error (.refused r.status ((errorIn r.body).getD r.body))

def answer : (c : Call) → Response → Except ClientFailure c.Answer
  | .peers, r => (·.1) <$> unwrap PeerReport.ofJson? .peers r
  | .collections, r => (·.1.names) <$> unwrap CollectionList.ofJson? .collections r
  | .collection name, r => (·.1) <$> unwrap CollectionReport.ofJson? (.collection name) r
  | .placement name, r => (·.1) <$> unwrap PlacementReport.ofJson? (.placement name) r
  | .update name o, r =>
    (fun a => ⟨a.1, a.2.text⟩) <$> unwrap Json.bool? (.update name o) r

def reaction (c : Call) (request : Request) : Delivery → Reaction c.Answer
  | .response r cancels => .answered (answer c r) cancels
  | .closed => .answered (.error (.transport (.closed request.url.text))) false
  | .silent => .abandoned

def backend {σ : Type} (k : Client) (server : Server σ) : Backend σ := fun c w =>
  match k.request c with
  | .error e => (.answered (.error e) false, w)
  | .ok request =>
    let (d, w) := server request w
    (reaction c request d, w)

end Client
end ShardBalance.Http
