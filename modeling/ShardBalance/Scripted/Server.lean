import ShardBalance.Http.Client
import ShardBalance.Scripted.Basic

/-!
A cluster in memory behind HTTP.
-/

namespace ShardBalance.Scripted

/-- What a server keeps: the cluster, and the key of each request so far. -/
structure Served where
  world : World
  keys : List (Option String)

namespace Served

open Http

def segments? (u : Url) : Option (List String) :=
  match u.path with
  | .plain _ => none
  | .segments l => l.mapM fun s => (Url.Percent.decode? s).map String.ofList

def call? (r : Request) : Option Call := do
  match r.method, ← segments? r.url with
  | .get, ["cluster"] => some .peers
  | .get, ["collections"] => some .collections
  | .get, ["collections", name] => some (.collection name)
  | .get, ["collections", name, "cluster"] => some (.placement name)
  | .post, ["collections", name, "cluster"] => do
    let o ← Operation.ofJson? (← r.body)
    some (.update name o)
  | _, _ => none

def noTime : String × Json := ("time", .number ⟨false, ['0'], ['0'], none⟩)

def success (result : Json) (status : String) : Response :=
  ⟨200, (Json.record [("result", result), ("status", .text status), noTime]).render⟩

def refusal (status : Nat) (message : String) : Response :=
  ⟨status, (Json.record [("status", .record [("error", .text message)]), noTime]).render⟩

def respond : (c : Call) → c.Answer → Response
  | .peers, a => success a.json "ok"
  | .collections, a => success (CollectionList.json ⟨a⟩) "ok"
  | .collection _, a => success a.json "ok"
  | .placement _, a => success a.json "ok"
  | .update .., a => success (.bool a.accepted) a.status

def deliver (c : Call) : Reaction c.Answer → Delivery
  | .answered (.ok a) cancels => .response (respond c a) cancels
  | .answered (.error (.refused status message)) cancels => .response (refusal status message) cancels
  | .answered (.error _) _ => .closed
  | .abandoned => .silent

def serve : Server Served := fun r s =>
  let keys := s.keys ++ [r.apiKey]
  match call? r with
  | none => (.response (refusal 404 "no such endpoint") false, { s with keys := keys })
  | some c =>
    let (reaction, world) := World.react c s.world
    (deliver c reaction, ⟨world, keys⟩)

end Served
end ShardBalance.Scripted
