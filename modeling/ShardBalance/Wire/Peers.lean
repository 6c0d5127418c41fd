import ShardBalance.Json.Decode
import ShardBalance.Report.Peers

/-!
The JSON form of peer reports. The peers are an object whose names are their numbers.
-/

namespace ShardBalance.PeerReport

def addressJson (address : String) : Json := .record [("uri", .text address)]

def addressOfJson? (v : Json) : Option String := do
  let f ← v.fields? ["uri"]
  f.required "uri" Json.text?

def peersJson (write : String → Json) (t : PeerTable) : Json :=
  .object (t.entries.map fun e => (.ofWord64 e.1, write e.2))

def peersOfJson? : Json → Option PeerTable
  | .object members => do
    let entries ← members.mapM fun m => do return (← m.1.word64?, ← addressOfJson? m.2)
    return .ofList entries
  | _ => none

def json (r : PeerReport) : Json :=
  .record [("status", .text r.status), ("peer_id", .option Json.word64 r.reporter),
    ("peers", peersJson addressJson r.peers)]

def ofJson? (v : Json) : Option PeerReport := do
  let f ← v.fields? ["status", "peer_id", "peers"]
  return {
    status := ← f.orElse "status" "" Json.text?
    reporter := ← f.orElse "peer_id" none (Json.option? Json.word64?)
    peers := ← f.orElse "peers" .empty peersOfJson? }

end ShardBalance.PeerReport
