import ShardBalance.Planning.Drain
import ShardBalance.Planning.Equalize
import ShardBalance.Planning.Replicate
import ShardBalance.Rebalance.Survey

/-!
Plans for compound operations. All collections are planned before anything is sent, so a failure to plan
changes nothing.
-/

namespace ShardBalance.Rebalance

structure TransferSettings where
  copyMethod : TransferMethod
  moveMethod : TransferMethod
  ignoreFactor : Bool
  deriving DecidableEq, Repr

def TransferSettings.default : TransferSettings := ⟨.streamRecords, .streamRecords, true⟩

inductive Request where
  /-- Copies the shards that `target` lacks. -/
  | replicate (target : Selector) (collections : Option (List String)) (ignoreFactor : Bool)
  /-- Moves all shards off `source`. -/
  | drain (source : Selector) (collections : Option (List String))
  /-- Copies shards until `target` holds as many as `source`. -/
  | equalize (source target : Selector) (collections : List String)

def Request.goal : Request → Goal
  | replicate .. => .replicate
  | drain .. => .drain
  | equalize .. => .equalize

/-- The transfers of a draft, which is noted down. -/
def settle (d : Draft) (collection : String) (candidates : Nat) : Attempt (List Transfer) := do
  Attempt.noteAll (d.notes collection)
  Attempt.ofExcept (d.result collection candidates)

/-- All peers but one, in a ring. -/
def ringAround (r : Resolved) : Attempt Ring :=
  match Ring.ofPeers? r.others with
  | some ring => return ring
  | none => throw (.noOtherPeer r.peer)

/-- Plans collections one after the other on one ring. -/
def onRing (topology : String → Attempt Topology) (draft : Topology → Ring → Draft × Ring) :
    Ring → List String → Attempt (List Transfer)
  | _, [] => return []
  | ring, c :: rest => do
    let t ← topology c
    let (d, after) := draft t ring
    let first ← settle d c ring.size
    let others ← onRing topology draft after rest
    return first ++ others

/-- Plans collections one after the other without a ring. -/
def each (topology : String → Attempt Topology) (draft : Topology → Draft) :
    List String → Attempt (List Transfer)
  | [] => return []
  | c :: rest => do
    let t ← topology c
    let first ← settle (draft t) c 0
    let others ← each topology draft rest
    return first ++ others

def topologyWithFactor (c : String) : Attempt Topology := do
  let report ← Attempt.call (.collection c)
  return ⟨c, report.factor, ← placement c⟩

def topologyWithoutFactor (c : String) : Attempt Topology := return ⟨c, 0, ← placement c⟩

/-- A plan, noted down as one around `r`. -/
def completed (goal : Goal) (r : Resolved) (transfers : List Transfer) : Attempt Plan := do
  Attempt.note (.planned goal transfers.length r.label)
  Attempt.noteAll (transfers.map fun t =>
    .plannedTransfer t (r.table.label t.source) (r.table.label t.target))
  return ⟨goal, transfers⟩

def planReplicate (settings : TransferSettings) (target : Selector) (collections : Option (List String))
    (ignoreFactor : Bool) : Attempt Plan := do
  let target ← resolve target
  let collections ← selected collections
  let ring ← ringAround target
  let request : Planning.ReplicateRequest := ⟨target.peer, ignoreFactor, settings.copyMethod⟩
  let topology := if ignoreFactor then topologyWithoutFactor else topologyWithFactor
  completed .replicate target (← onRing topology request.draft ring collections)

def planDrain (settings : TransferSettings) (source : Selector) (collections : Option (List String)) :
    Attempt Plan := do
  let source ← resolve source
  let collections ← selected collections
  let ring ← ringAround source
  let request : Planning.DrainRequest := ⟨source.peer, settings.moveMethod⟩
  completed .drain source (← onRing topologyWithoutFactor request.draft ring collections)

def planEqualize (settings : TransferSettings) (source target : Selector) (collections : List String) :
    Attempt Plan := do
  let report ← Attempt.call .peers
  let source ← resolveIn report.peers source
  let target ← resolveIn report.peers target
  let collections ← selected (some collections)
  if source.peer = target.peer then Attempt.note (.samePeer source.label)
  let request : Planning.EqualizeRequest := ⟨source.peer, target.peer, settings.copyMethod⟩
  completed .equalize source (← each topologyWithoutFactor request.draft collections)

def Request.plan (settings : TransferSettings) : Request → Attempt Plan
  | replicate target collections ignoreFactor => planReplicate settings target collections ignoreFactor
  | drain source collections => planDrain settings source collections
  | equalize source target collections => planEqualize settings source target collections

end ShardBalance.Rebalance
