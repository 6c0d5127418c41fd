import ShardBalance.Plan
import ShardBalance.Wire.Placement

/-!
The JSON form of operations, transfers and plans.
-/

namespace ShardBalance

namespace Operation

def kindName : TransferKind → String
  | .copy => "replicate_shard"
  | .move => "move_shard"

def kindOfName? (s : String) : Option TransferKind :=
  if s = "replicate_shard" then some .copy else if s = "move_shard" then some .move else none

def detailsJson (o : Operation) : Json :=
  .record ([("shard_id", .word32 o.shard), ("from_peer_id", .word64 o.source),
    ("to_peer_id", .word64 o.target)] ++
    match o.method with
    | none => []
    | some m => [("method", m.json)])

def json (o : Operation) : Json := .record [(kindName o.kind, o.detailsJson)]

def ofDetails? (kind : TransferKind) (v : Json) : Option Operation := do
  let f ← v.fields? ["shard_id", "from_peer_id", "to_peer_id", "method"]
  return {
    kind := kind
    shard := ← f.required "shard_id" Json.word32?
    source := ← f.required "from_peer_id" Json.word64?
    target := ← f.required "to_peer_id" Json.word64?
    method := ← f.orElse "method" none (Json.option? TransferMethod.ofJson?) }

def ofJson? : Json → Option Operation
  | .object [(name, details)] => do
    let kind ← kindOfName? (← name.text?)
    ofDetails? kind details
  | _ => none

end Operation

namespace Transfer

def json (t : Transfer) : Json :=
  .record [("collection", .text t.collection), ("shard_id", .word32 t.shard),
    ("from_peer_id", .word64 t.source), ("to_peer_id", .word64 t.target), ("method", t.method.json),
    ("is_move", .bool (t.kind = .move))]

def ofJson? (v : Json) : Option Transfer := do
  let f ← v.fields? ["collection", "shard_id", "from_peer_id", "to_peer_id", "method", "is_move"]
  return {
    collection := ← f.required "collection" Json.text?
    shard := ← f.required "shard_id" Json.word32?
    source := ← f.required "from_peer_id" Json.word64?
    target := ← f.required "to_peer_id" Json.word64?
    method := ← f.required "method" TransferMethod.ofJson?
    kind := if ← f.required "is_move" Json.bool? then .move else .copy }

end Transfer

namespace Plan

def goalOfName? (s : String) : Option Goal :=
  if s = "replicate" then some .replicate
  else if s = "drain" then some .drain
  else if s = "equalize" then some .equalize
  else none

def json (p : Plan) : Json :=
  .record [("kind", .text p.goal.name), ("transfers", .list Transfer.json p.transfers)]

def ofJson? (v : Json) : Option Plan := do
  let f ← v.fields? ["kind", "transfers"]
  return {
    goal := ← f.required "kind" fun k => k.choice?.bind goalOfName?
    transfers := ← f.required "transfers" (Json.list? Transfer.ofJson?) }

end Plan
end ShardBalance
