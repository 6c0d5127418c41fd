import ShardBalance.Planning.Draft
import ShardBalance.Replica

/-!
What operations leave behind besides their results: notes for the reader, and measurements.
-/

namespace ShardBalance

inductive Level where
  | debug | info | warn | error
  deriving DecidableEq, Repr

def Level.name : Level → String
  | debug => "DEBUG"
  | info => "INFO"
  | warn => "WARN"
  | error => "ERROR"

def Level.severity : Level → Nat
  | debug => 0
  | info => 1
  | warn => 2
  | error => 3

inductive Note where
  | passedOver (collection : String) (r : Replica)
  | step (collection : String) (s : Step)
  | resolved (selector : String) (peer : PeerId)
  | notEmpty (peer collection : String)
  | empty (peer : String) (collections : Nat)
  | samePeer (peer : String)
  | planned (goal : Goal) (transfers : Nat) (peer : String)
  | plannedTransfer (t : Transfer) (source target : String)
  | planningFailed (goal : Goal) (f : Failure)
  | wouldMake (t : Transfer)
  | nothingToDo (goal : Goal)
  | issuing (t : Transfer)
  | issued (t : Transfer)
  | executed (transfers : Nat)
  | stopped (detail : String) (issued planned : Nat)
  deriving DecidableEq, Repr

namespace Note

def stepLevel : Step → Level
  | .transfer _ => .debug
  | .unknownFactor | .targetOccupied .. => .warn
  | _ => .info

def level : Note → Level
  | passedOver .. | resolved .. | notEmpty .. | plannedTransfer .. | issuing _ => .debug
  | step _ s => stepLevel s
  | samePeer _ | planningFailed .. => .warn
  | stopped .. => .error
  | _ => .info

def stepText (c : String) : Step → String
  | .transfer t => s!"Planned {t.text}"
  | .unknownFactor => s!"Replication factor of collection '{c}' is unknown, skipping it"
  | .satisfied shard replicas factor =>
    s!"Shard {shard} of '{c}' already has {replicas} of {factor} replicas, skipping"
  | .present shard peer => s!"Shard {shard} of '{c}' is already on peer {peer}, skipping"
  | .nothingToDrain peer => s!"Peer {peer} holds no shards of '{c}', nothing to drain"
  | .targetOccupied peer shards => s!"Peer {peer} already holds {shards} shards of '{c}'"
  | .balanced source target =>
    s!"Peers {source} and {target} already hold equal shard counts of '{c}'"

def text : Note → String
  | passedOver c r => s!"Skipping shard {r.shard} of '{c}' on peer {r.peer}: state is {r.state.name}"
  | step c s => stepText c s
  | resolved selector peer => s!"Resolved peer selector '{selector}' to peer {peer}"
  | notEmpty peer c => s!"Peer {peer} holds shards of '{c}'"
  | empty peer n => s!"Peer {peer} holds no shards in {n} collections"
  | samePeer peer => s!"Source and target are the same peer {peer}"
  | planned goal n peer => s!"Planned {n} {goal.name} transfers around peer {peer}"
  | plannedTransfer t source target => s!"  shard {t.shard} of '{t.collection}': {source} -> {target}"
  | planningFailed goal f => s!"Failed to plan {goal.name}: {f.message}"
  | wouldMake t => s!"[dry run] Would {t.text}"
  | nothingToDo goal => s!"Nothing to {goal.name}"
  | issuing t => s!"Issuing {t.text}"
  | issued t => s!"Issued {t.text}"
  | executed n => s!"Executed {n} transfers"
  | stopped detail made all => s!"{detail} ({made} of {all} transfers issued)"

end Note

inductive Measurement where
  | planned (goal : Goal) (transfers : Nat)
  /-- An update took its time, whatever came of it. -/
  | requestTimed
  | issued (collection : String) (kind : TransferKind)
  | failed (collection reason : String)
  | completed (goal : Goal) (success : Bool)
  deriving DecidableEq, Repr

/-- A named series of measurements; samples are told apart from counts by their name alone. -/
structure Series where
  name : String
  labels : List (String × String)
  deriving DecidableEq, Repr

/-- How much a measurement adds to which series. A sample adds one. -/
def Measurement.series : Measurement → List (Series × Nat)
  | planned goal n => [(⟨"quiver_rebalance_planned_transfers_total", [("operation", goal.name)]⟩, n)]
  | requestTimed => [(⟨"quiver_shard_transfer_request_duration_seconds", []⟩, 1)]
  | issued c kind => [(⟨"quiver_shard_transfers_total", [("collection", c), ("kind", kind.name)]⟩, 1)]
  | failed c reason =>
    [(⟨"quiver_shard_transfer_errors_total", [("collection", c), ("error_type", reason)]⟩, 1)]
  | completed goal success =>
    [(⟨"quiver_rebalance_completed_total",
        [("operation", goal.name), ("status", if success then "success" else "failure")]⟩, 1),
      (⟨"quiver_rebalance_duration_seconds", [("operation", goal.name)]⟩, 1)]

inductive Entry where
  | note (n : Note)
  | measured (m : Measurement)
  deriving DecidableEq, Repr

abbrev Journal := List Entry

namespace Journal

def notes (j : Journal) : List Note :=
  j.filterMap fun | .note n => some n | .measured _ => none

def measurements (j : Journal) : List Measurement :=
  j.filterMap fun | .note _ => none | .measured m => some m

end Journal

/-- The notes on the replicas of a report that do not count. -/
def Placement.skippedNotes (activeOnly : Bool) (collection : String) (r : PlacementReport) : List Note :=
  (r.replicas.filter fun r => !counts activeOnly r).map (.passedOver collection)

def Draft.notes (d : Draft) (collection : String) : List Note := d.steps.map (.step collection)

end ShardBalance
