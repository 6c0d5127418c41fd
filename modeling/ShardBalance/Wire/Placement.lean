import ShardBalance.Json.Decode
import ShardBalance.Report.Placement

/-!
The JSON form of placement reports.
-/

namespace ShardBalance

namespace ReplicaState

def json (s : ReplicaState) : Json := .text s.name

def ofJson? (v : Json) : Option ReplicaState := v.choice?.map ofName

end ReplicaState

namespace TransferMethod

def json (m : TransferMethod) : Json := .text m.name

def ofJson? (v : Json) : Option TransferMethod := v.choice?.bind ofName?

end TransferMethod

namespace LocalReplica

def json (r : LocalReplica) : Json :=
  .record [("shard_id", .word32 r.shard), ("points_count", .word64 r.points), ("state", r.state.json)]

def ofJson? (v : Json) : Option LocalReplica := do
  let f ← v.fields? ["shard_id", "points_count", "state"]
  return {
    shard := ← f.required "shard_id" Json.word32?
    points := ← f.orElse "points_count" 0 Json.word64?
    state := ← f.required "state" ReplicaState.ofJson? }

end LocalReplica

namespace Replica

def json (r : Replica) : Json :=
  .record [("shard_id", .word32 r.shard), ("peer_id", .word64 r.peer), ("state", r.state.json)]

def ofJson? (v : Json) : Option Replica := do
  let f ← v.fields? ["shard_id", "peer_id", "state"]
  return {
    shard := ← f.required "shard_id" Json.word32?
    peer := ← f.required "peer_id" Json.word64?
    state := ← f.required "state" ReplicaState.ofJson? }

end Replica

namespace OngoingTransfer

def json (t : OngoingTransfer) : Json :=
  .record [("shard_id", .word32 t.shard), ("from", .word64 t.source), ("to", .word64 t.target),
    ("sync", .bool t.sync), ("method", .option TransferMethod.json t.method)]

def ofJson? (v : Json) : Option OngoingTransfer := do
  let f ← v.fields? ["shard_id", "from", "to", "sync", "method"]
  return {
    shard := ← f.required "shard_id" Json.word32?
    source := ← f.required "from" Json.word64?
    target := ← f.required "to" Json.word64?
    sync := ← f.orElse "sync" false Json.bool?
    method := ← f.orElse "method" none (Json.option? TransferMethod.ofJson?) }

end OngoingTransfer

namespace PlacementReport

def json (r : PlacementReport) : Json :=
  .record [("peer_id", .word64 r.reporter), ("shard_count", .word32 r.shardCount),
    ("local_shards", .list LocalReplica.json r.own), ("remote_shards", .list Replica.json r.others),
    ("shard_transfers", .list OngoingTransfer.json r.ongoing)]

def ofJson? (v : Json) : Option PlacementReport := do
  let f ← v.fields? ["peer_id", "shard_count", "local_shards", "remote_shards", "shard_transfers"]
  return {
    reporter := ← f.required "peer_id" Json.word64?
    shardCount := ← f.orElse "shard_count" 0 Json.word32?
    own := ← f.orElse "local_shards" [] (Json.list? LocalReplica.ofJson?)
    others := ← f.orElse "remote_shards" [] (Json.list? Replica.ofJson?)
    ongoing := ← f.orElse "shard_transfers" [] (Json.list? OngoingTransfer.ofJson?) }

end PlacementReport
end ShardBalance
