import ShardBalance.Json.Decode
import ShardBalance.Report.Collection

/-!
The JSON form of what is told of collections, and of acknowledgements.
-/

namespace ShardBalance

namespace CollectionReport

def parametersJson (r : CollectionReport) : Json :=
  .record [("shard_number", .option Json.word32 r.shards),
    ("replication_factor", .option Json.word32 r.replicationFactor),
    ("write_consistency_factor", .option Json.word32 r.writeConsistency)]

def json (r : CollectionReport) : Json :=
  .record [("status", .option Json.text r.status), ("points_count", .option Json.word64 r.points),
    ("config", .record [("params", r.parametersJson)])]

def ofJson? (v : Json) : Option CollectionReport := do
  let f ← v.fields? ["status", "points_count", "config"]
  let config ← f.required "config" (Json.fields? ["params"])
  let params ← config.required "params"
    (Json.fields? ["shard_number", "replication_factor", "write_consistency_factor"])
  return {
    status := ← f.orElse "status" none (Json.option? Json.text?)
    points := ← f.orElse "points_count" none (Json.option? Json.word64?)
    shards := ← params.orElse "shard_number" none (Json.option? Json.word32?)
    replicationFactor := ← params.orElse "replication_factor" none (Json.option? Json.word32?)
    writeConsistency := ← params.orElse "write_consistency_factor" none (Json.option? Json.word32?) }

end CollectionReport

/-- The names of all collections, as they are listed in JSON. -/
structure CollectionList where
  names : List String
  deriving DecidableEq, Repr

namespace CollectionList

def json (l : CollectionList) : Json :=
  .record [("collections", .list (fun name => .record [("name", .text name)]) l.names)]

def nameOfJson? (v : Json) : Option String := do
  let f ← v.fields? ["name"]
  f.required "name" Json.text?

def ofJson? (v : Json) : Option CollectionList := do
  let f ← v.fields? ["collections"]
  return ⟨← f.required "collections" (Json.list? nameOfJson?)⟩

end CollectionList

def Acknowledgement.json (a : Acknowledgement) : Json :=
  .record [("accepted", .bool a.accepted), ("status", .text a.status)]

end ShardBalance
